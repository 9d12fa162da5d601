import Settlement.Proofs.History

/-!
# How much there is of a denomination

Value of a denomination lies in four places: balances of the bank, contracts that are not resolved,
escrows, and, for the native denomination, live outpoints. `Ledger.value` reads all four off the ledger,
so it fails where a record cannot be used. While the unspent outputs keep their integrity it does not
fail, and what it reads is one sum over the records of the store, next to the total of the bank.

Results:
* `Bank.total_credit`, `Bank.total_debit`: what the bank holds after an update.
* `Intact.value_eq`: the value of a ledger as a sum over its records.
-/
namespace Settlement

/-- How much of a denomination a coin is. -/
def Coin.amountOf (c : Coin) (d : String) : Nat := if c.denom = d then c.amount.toNat else 0

/-- Coins of one denomination add up as their amounts do. -/
theorem Coin.amountOf_split {a b c : Coin} (hb : b.denom = a.denom) (hc : c.denom = a.denom)
    (h : a.amount.toNat = b.amount.toNat + c.amount.toNat) (d : String) :
    a.amountOf d = b.amountOf d + c.amountOf d := by
  unfold Coin.amountOf
  rw [hb, hc]
  split <;> omega

theorem Coin.amountOf_add {a b c : Coin} (h : a.add b = .ok c) (d : String) :
    c.amountOf d = a.amountOf d + b.amountOf d := by
  obtain ⟨hab, hca, hsum⟩ := Coin.add_ok_iff.1 h
  exact amountOf_split hca.symm (hab.symm.trans hca.symm) hsum.symm d

theorem Coin.amountOf_sub {a b c : Coin} (h : a.sub b = .ok c) (d : String) :
    a.amountOf d = b.amountOf d + c.amountOf d := by
  obtain ⟨hab, hca, hdiff⟩ := Coin.sub_ok_iff.1 h
  exact amountOf_split hab.symm hca (by omega) d

/-! ## The four places -/

/-- What all accounts hold together. -/
def Bank.total (b : Bank) (d : String) : Nat :=
  b.balances.sum fun e => if e.1.denom = d then e.2.toNat else 0

/-- What a contract holds until it is resolved. -/
def HashLock.Contract.locked (c : HashLock.Contract) (d : String) : Nat :=
  if c.status = .created then c.amount.amountOf d else 0

/-- What all contracts hold together. -/
def HashLock.total (s : Store) (d : String) : Except Damage Nat :=
  (space.loadAll Contract.codec s []).map fun l => (l.map fun e => e.2.locked d).sum

/-- What all escrows hold together. -/
def Escrow.total (s : Store) (d : String) : Except Damage Nat :=
  (space.loadAll Contract.codec s []).map fun l => (l.map fun e => e.2.balance.amountOf d).sum

/-- What all live outpoints are worth together. -/
def Unspent.total (s : Store) : Except Damage Nat := do
  let points ← listOutPoints s
  let values ← points.mapM fun p => (resolve s p).map fun r => r.1.toNat
  pure values.sum

/-- How much of a denomination there is in a ledger. -/
def Ledger.value (config : Config) (d : String) (l : Ledger) : Except Damage Nat := do
  let locked ← HashLock.total l.store d
  let held ← Escrow.total l.store d
  let unspent ← if d = config.nativeDenom then Unspent.total l.store else pure 0
  pure (l.bank.total d + locked + held + unspent)

/-! ## The bank -/

namespace Bank

theorem weightAt_holding (b : Bank) (address : Address) (denom d : String) :
    b.balances.weightAt (fun e => if e.1.denom = d then e.2.toNat else 0) ⟨address, denom⟩ =
      Coin.amountOf ⟨denom, b.balance address denom⟩ d := by
  unfold Table.weightAt balance Coin.amountOf
  cases b.balances.get? ⟨address, denom⟩ <;> simp

theorem total_setBalance (b : Bank) (address : Address) (denom : String) (amount : Amount)
    (d : String) :
    (b.setBalance address denom amount).total d +
        Coin.amountOf ⟨denom, b.balance address denom⟩ d =
      b.total d + Coin.amountOf ⟨denom, amount⟩ d := by
  have hs := Table.sum_insert b.balances (fun e => if e.1.denom = d then e.2.toNat else 0)
    ⟨address, denom⟩ amount
  rw [weightAt_holding] at hs
  exact hs

theorem balance_le_total (b : Bank) (address : Address) (d : String) :
    (b.balance address d).toNat ≤ b.total d := by
  have hs := Table.sum_split b.balances (fun e => if e.1.denom = d then e.2.toNat else 0) ⟨address, d⟩
  rw [weightAt_holding] at hs
  simp only [Coin.amountOf, if_true] at hs
  unfold total
  omega

theorem total_credit {b b' : Bank} {address : Address} {coin : Coin}
    (h : b.credit address coin = .ok b') (d : String) :
    b'.total d = b.total d + coin.amountOf d := by
  rw [credit_eq] at h
  split at h
  · rename_i amount ha
    cases h
    rw [Amount.add?_eq_some_iff] at ha
    have hs := total_setBalance b address coin.denom amount d
    have hsum := Coin.amountOf_split (a := ⟨coin.denom, amount⟩)
      (b := ⟨coin.denom, b.balance address coin.denom⟩) (c := coin) rfl rfl ha.symm d
    omega
  · cases h

theorem total_debit {b b' : Bank} {address : Address} {coin : Coin}
    (h : b.debit address coin = .ok b') (d : String) :
    b.total d = b'.total d + coin.amountOf d := by
  rw [debit_eq] at h
  cases hs : Amount.sub? (b.balance address coin.denom) coin.amount with
  | none => simp [hs] at h
  | some amount =>
    simp only [hs, Except.ok.injEq] at h
    rw [Amount.sub?_eq_some_iff] at hs
    subst h
    split
    · have ht := total_setBalance b address coin.denom amount d
      have hsum := Coin.amountOf_split (a := ⟨coin.denom, b.balance address coin.denom⟩)
        (b := coin) (c := ⟨coin.denom, amount⟩) rfl rfl hs d
      omega
    · -- an account without entries can only pay nothing
      rename_i hk
      have hz := balance_of_not_knows (by simpa using hk) coin.denom
      rw [hz, UInt64.toNat_zero] at hs
      have : coin.amount.toNat = 0 := by omega
      simp [Coin.amountOf, this]

theorem total_advance (b : Bank) (address : Address) (d : String) :
    (b.advance address).total d = b.total d := rfl

end Bank

/-! ## The records -/

/-- What an outpoint resolves to, zero if it does not. -/
def Unspent.worth (s : Store) (p : OutPoint) : Nat :=
  match resolve s p with
  | .ok (value, _) => value.toNat
  | .error _ => 0

theorem Unspent.worth_of_resolve {s : Store} {p : OutPoint} {value : Amount} {owner : Address}
    (h : resolve s p = .ok (value, owner)) : worth s p = value.toNat := by
  rw [worth, h]

/-- How much of a denomination a record stands for, outpoints resolved in the given store. -/
def Record.value (config : Config) (d : String) (s : Store) : Record → Nat
  | .account _ | .transaction _ => 0
  | .point p => if d = config.nativeDenom then Unspent.worth s p else 0
  | .contract c => c.locked d
  | .escrow c => c.balance.amountOf d

/-- A sum over all records is the sum over the three kinds that stand for value. -/
theorem sum_value (config : Config) (d : String) (s : Store) (rs : List Record) :
    (rs.map (Record.value config d s)).sum =
      ((rs.filterMap Store.contractShelf.pick).map fun c => c.locked d).sum +
      ((rs.filterMap Store.escrowShelf.pick).map fun c => c.balance.amountOf d).sum +
      if d = config.nativeDenom then
        ((rs.filterMap Store.pointShelf.pick).map (Unspent.worth s)).sum
      else 0 := by
  induction rs with
  | nil => simp
  | cons r rs ih =>
    rw [List.map_cons, List.sum_cons, ih]
    cases r with
    | account output => simp [Record.value, Store.contractShelf, Store.escrowShelf, Store.pointShelf]
    | transaction t => simp [Record.value, Store.contractShelf, Store.escrowShelf, Store.pointShelf]
    | point p =>
      simp only [Record.value, Store.contractShelf, Store.escrowShelf, Store.pointShelf,
        List.filterMap_cons, List.map_cons, List.sum_cons]
      split <;> omega
    | contract c =>
      simp only [Record.value, Store.contractShelf, Store.escrowShelf, Store.pointShelf,
        List.filterMap_cons, List.map_cons, List.sum_cons]
      omega
    | escrow c =>
      simp only [Record.value, Store.contractShelf, Store.escrowShelf, Store.pointShelf,
        List.filterMap_cons, List.map_cons, List.sum_cons]
      omega

theorem mapM_eq_ok {ε α β : Type} {f : α → Except ε β} {g : α → β} {l : List α}
    (h : ∀ a ∈ l, f a = .ok (g a)) : l.mapM f = .ok (l.map g) := by
  induction l with
  | nil => rfl
  | cons a l ih =>
    have ht := ih fun b hb => h b (by simp [hb])
    rw [List.mapM_cons, h a (by simp), ht]
    rfl

/-- A sum over a listing, by what the listing holds. -/
theorem sum_of_listing {α : Type} {x : Except Damage (List (Bytes × α))} {as : List α}
    (h : x.map (fun l => l.map Prod.snd) = .ok as) (f : α → Nat) :
    x.map (fun l => (l.map fun e => f e.2).sum) = .ok (as.map f).sum := by
  cases x with
  | error damage => cases h
  | ok l =>
    simp only [Except.map, Except.ok.injEq] at h ⊢
    rw [← h, List.map_map]
    rfl

/-- The value of a ledger is the total of its bank and a sum over its records. -/
theorem Intact.value_eq {ts : List Transaction} {l : Ledger} (h : Intact ts l.store)
    (hb : Bounded ts) (config : Config) (d : String) :
    l.value config d = .ok (l.bank.total d + l.store.total (Record.value config d l.store)) := by
  have hc : HashLock.total l.store d = _ :=
    sum_of_listing (h.sound.loadAll Store.contractShelf) fun c => c.locked d
  have he : Escrow.total l.store d = _ :=
    sum_of_listing (h.sound.loadAll Store.escrowShelf) fun c => c.balance.amountOf d
  have hp : Unspent.total l.store = .ok
      ((l.store.records.filterMap Store.pointShelf.pick).map (Unspent.worth l.store)).sum := by
    have hl : Unspent.listOutPoints l.store = _ := h.sound.loadAll Store.pointShelf
    have hm := mapM_eq_ok (f := fun p => (Unspent.resolve l.store p).map fun r => r.1.toNat)
      (g := Unspent.worth l.store) (l := l.store.records.filterMap Store.pointShelf.pick) (by
        intro p hp
        obtain ⟨r, hr, hpick⟩ := List.mem_filterMap.1 hp
        obtain rfl := (Store.pointShelf.pick_iff r p).1 hpick
        obtain ⟨value, owner, hv⟩ :=
          h.resolve hb ((h.live_iff p).1 (Store.mem_records_iff.1 hr)).1
        rw [hv, Unspent.worth_of_resolve hv]
        rfl)
    simp only [Unspent.total, hl, hm, bind, Except.bind]
    rfl
  have hs := sum_value config d l.store l.store.records
  simp only [Ledger.value, hc, he, bind, Except.bind]
  split
  · rename_i hd
    simp only [hp, if_pos hd, pure, Except.pure, Except.ok.injEq] at hs ⊢
    rw [Store.total, hs]
    omega
  · rename_i hd
    simp only [if_neg hd, pure, Except.pure, Except.ok.injEq] at hs ⊢
    rw [Store.total, hs]
    omega

end Settlement
