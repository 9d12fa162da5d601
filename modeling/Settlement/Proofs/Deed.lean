import Settlement.Proofs.Terms

/-!
# What a message does, apart from where it is delivered

A message that is accepted looks at a few keys of the store and at the sequence numbers of the bank, writes
and removes records under a few keys, and moves at most one balance. Wherever the keys it looks at lie the
same, it does the same (`Deed`); only whether the bank can move the balance is left open. So two messages
that do not meddle with each other's keys can be swapped: the edits commute because they are of different
keys, and two moves of balances commute because each has room for its own alone and for both together.

Results:
* `Bank.Moves.comm`: two moves that can be made alone and in one order can be made in the other.
* `Effect.subject_deed`, `Effect.turnover_deed`: the deed of every message.
* `Deed.swap`: accepted messages that do not meddle with each other's keys can be swapped.
-/
namespace Settlement

open Unspent (AccountOutput)

/-! ## Edits of the store -/

/-- One change to the store. -/
inductive Edit
  | write (r : Record)
  | remove (k : Key)

namespace Edit

def key : Edit → Key
  | write r => r.key
  | remove k => k

/-- What is there afterwards. -/
def value : Edit → Option Bytes
  | write r => some r.bytes
  | remove _ => none

end Edit

namespace Store

variable {s t : Store}

def edit (s : Store) : Edit → Store
  | .write r => s.write r
  | .remove k => s.remove k

def edited (s : Store) (edits : List Edit) : Store := edits.foldl edit s

theorem get?_edit {e : Edit} {key : Bytes} :
    (s.edit e).get? key = if e.key.bytes = key then e.value else s.get? key := by
  cases e with
  | write r => exact Table.get?_insert
  | remove k => exact Table.get?_erase

theorem edit_comm {e f : Edit} (h : e.key ≠ f.key) : (s.edit e).edit f = (s.edit f).edit e := by
  apply Table.ext_get?
  intro key
  simp only [get?_edit]
  by_cases hf : f.key.bytes = key
  · have he : e.key.bytes ≠ key := fun he => h (Key.bytes_injective (he.trans hf.symm))
    simp [hf, he]
  · simp [hf]

theorem get?_edited_of_ne {edits : List Edit} {key : Bytes} (h : ∀ e ∈ edits, e.key.bytes ≠ key) :
    (s.edited edits).get? key = s.get? key := by
  induction edits generalizing s with
  | nil => rfl
  | cons e edits ih =>
    have hrest := ih (s := s.edit e) fun f hf => h f (List.mem_cons_of_mem e hf)
    rw [get?_edit, if_neg (h e List.mem_cons_self)] at hrest
    exact hrest

theorem get?_edited {edits : List Edit} {k : Key} (h : ∀ e ∈ edits, e.key ≠ k) :
    (s.edited edits).get? k.bytes = s.get? k.bytes :=
  get?_edited_of_ne fun e he hk => h e he (Key.bytes_injective hk)

theorem edited_edit {edits : List Edit} {f : Edit} (h : ∀ e ∈ edits, e.key ≠ f.key) :
    (s.edited edits).edit f = (s.edit f).edited edits := by
  induction edits generalizing s with
  | nil => rfl
  | cons e edits ih =>
    have hrest := ih (s := s.edit e) fun g hg => h g (List.mem_cons_of_mem e hg)
    rw [edit_comm (h e List.mem_cons_self)] at hrest
    exact hrest

theorem edited_comm {es fs : List Edit} (h : ∀ e ∈ es, ∀ f ∈ fs, e.key ≠ f.key) :
    (s.edited es).edited fs = (s.edited fs).edited es := by
  induction fs generalizing s with
  | nil => rfl
  | cons f fs ih =>
    have hrest := ih (s := s.edit f) fun e he g hg => h e he g (List.mem_cons_of_mem f hg)
    rw [← edited_edit fun e he => h e he f List.mem_cons_self] at hrest
    exact hrest

/-- What lies in one store lies in another one that has the same under the key. -/
theorem Holds.of_same {r : Record} (h : s.Holds r) (same : t.get? r.key.bytes = s.get? r.key.bytes) :
    t.Holds r :=
  same.trans h

end Store

/-! ## Moves of balances -/

/-- By how much a balance goes up or down, and whose it is. -/
structure Shift where
  address : Address
  denom : String
  change : Int

namespace Bank

/-- One bank is another one after a move of a balance, if any. -/
def Moves (b b' : Bank) : Option Shift → Prop
  | none => b' = b
  | some shift => ∃ amount : Amount,
    (amount.toNat : Int) = (b.balance shift.address shift.denom).toNat + shift.change ∧
      b' = b.setBalance shift.address shift.denom amount

variable {b b' b₁ b₂ b₁₂ : Bank} {address : Address} {coin : Coin}

theorem setBalance_setBalance {denom : String} {x y : Amount} :
    (b.setBalance address denom x).setBalance address denom y = b.setBalance address denom y := by
  simp only [setBalance, Table.insert_insert]

theorem setBalance_comm {a c : Address} {d e : String} {x y : Amount} (h : ¬ (a = c ∧ d = e)) :
    (b.setBalance a d x).setBalance c e y = (b.setBalance c e y).setBalance a d x := by
  have hne : (⟨a, d⟩ : Holding) ≠ ⟨c, e⟩ := fun heq => h (Holding.mk.inj heq)
  simp only [setBalance, Table.insert_comm hne]

theorem credit_iff_moves :
    b.credit address coin = .ok b' ↔ b.Moves b' (some ⟨address, coin.denom, coin.amount.toNat⟩) := by
  rw [credit_eq]
  constructor
  · intro h
    cases ha : Amount.add? (b.balance address coin.denom) coin.amount with
    | none => simp [ha] at h
    | some amount =>
      simp only [ha, Except.ok.injEq] at h
      rw [Amount.add?_eq_some_iff] at ha
      refine ⟨amount, ?_, h.symm⟩
      dsimp only
      omega
  · intro ⟨amount, hsum, hb⟩
    dsimp only at hsum hb
    have ha : Amount.add? (b.balance address coin.denom) coin.amount = some amount :=
      Amount.add?_eq_some_iff.2 (by omega)
    rw [ha, hb]

/-- A debit of something is made only where there is an entry to take it from. -/
theorem debit_iff_moves (hpos : 0 < coin.amount.toNat) :
    b.debit address coin = .ok b' ↔
      b.Moves b' (some ⟨address, coin.denom, -coin.amount.toNat⟩) := by
  have known : 0 < (b.balance address coin.denom).toNat → b.knows address = true := by
    intro hbalance
    by_contra hk
    rw [balance_of_not_knows (by simpa using hk)] at hbalance
    simp at hbalance
  rw [debit_eq]
  constructor
  · intro h
    cases hs : Amount.sub? (b.balance address coin.denom) coin.amount with
    | none => simp [hs] at h
    | some amount =>
      have hdiff := Amount.sub?_eq_some_iff.1 hs
      simp only [hs, known (by omega), if_true, Except.ok.injEq] at h
      refine ⟨amount, ?_, h.symm⟩
      dsimp only
      omega
  · intro ⟨amount, hdiff, hb⟩
    dsimp only at hdiff hb
    have hs : Amount.sub? (b.balance address coin.denom) coin.amount = some amount :=
      Amount.sub?_eq_some_iff.2 (by omega)
    simp only [hs, known (by omega), if_true, hb]

theorem Moves.sequences {shift : Option Shift} (h : b.Moves b' shift) :
    b'.sequences = b.sequences := by
  cases shift with
  | none => rw [show b' = b from h]
  | some shift =>
    obtain ⟨amount, -, rfl⟩ := h
    rfl

/-- Two moves that can be made alone and in one order can be made in the other, and it comes to the same. -/
theorem Moves.comm {t u : Option Shift} (h₁ : b.Moves b₁ t) (h₂ : b.Moves b₂ u)
    (h₁₂ : b₁.Moves b₁₂ u) : b₂.Moves b₁₂ t := by
  cases t with
  | none =>
    rw [show b₁ = b from h₁] at h₁₂
    cases u with
    | none => exact h₁₂.trans (show b₂ = b from h₂).symm
    | some u =>
      obtain ⟨x, hx, hb⟩ := h₂
      obtain ⟨y, hy, hc⟩ := h₁₂
      have hxy : x = y := UInt64.toNat_inj.1 (by omega)
      rw [hxy] at hb
      exact hc.trans hb.symm
  | some t =>
    obtain ⟨x, hx, hb₁⟩ := h₁
    cases u with
    | none =>
      rw [show b₂ = b from h₂, show b₁₂ = b₁ from h₁₂]
      exact ⟨x, hx, hb₁⟩
    | some u =>
      obtain ⟨y, hy, hb₂⟩ := h₂
      obtain ⟨z, hz, hb₁₂⟩ := h₁₂
      rw [hb₁, balance_setBalance] at hz
      rw [hb₁₂, hb₁, hb₂]
      -- two moves of one balance add up in either order; moves of different balances do not meet
      by_cases hsame : t.address = u.address ∧ t.denom = u.denom
      · obtain ⟨ha, hd⟩ := hsame
        rw [if_pos ⟨ha, hd⟩] at hz
        rw [ha, hd] at hx
        refine ⟨z, ?_, ?_⟩
        · rw [balance_setBalance, if_pos ⟨ha.symm, hd.symm⟩]
          omega
        · rw [ha, hd, setBalance_setBalance, setBalance_setBalance]
      · rw [if_neg hsame] at hz
        have hyz : y = z := UInt64.toNat_inj.1 (by omega)
        refine ⟨x, ?_, ?_⟩
        · rw [balance_setBalance, if_neg fun h => hsame ⟨h.1.symm, h.2.symm⟩]
          exact hx
        · rw [hyz, setBalance_comm hsame]

end Bank

/-! ## Deeds -/

/-- The keys that a message looks at, and the changes that it makes. -/
structure Footprint where
  reads : List Key
  edits : List Edit

/-- A custody looks to a message as another one does. -/
structure Alike (c d : Custody) (reads : List Key) : Prop where
  sequences : d.bank.sequences = c.bank.sequences
  records : ∀ k ∈ reads, d.store.get? k.bytes = c.store.get? k.bytes

theorem Alike.refl (c : Custody) (reads : List Key) : Alike c c reads :=
  ⟨rfl, fun _ _ => rfl⟩

/-- What a message does in a custody, and does in every other one that looks the same to it, if the bank can
move the balance there. -/
structure Deed (rules : Rules) (block : Block) (c : Custody) (m : Message) (footprint : Footprint)
    (shift : Option Shift) : Prop where
  only : ∀ {d d' : Custody}, Alike c d footprint.reads → Effect rules block d m d' →
    d.bank.Moves d'.bank shift ∧ d'.store = d.store.edited footprint.edits
  does : ∀ {d : Custody} {bank : Bank}, Alike c d footprint.reads → d.bank.Moves bank shift →
    Effect rules block d m ⟨d.store.edited footprint.edits, bank⟩

/-- Two messages do not meddle with each other's keys. -/
structure Apart (f g : Footprint) : Prop where
  edits : ∀ e ∈ f.edits, ∀ e' ∈ g.edits, e.key ≠ e'.key
  left : ∀ e ∈ f.edits, ∀ k ∈ g.reads, e.key ≠ k
  right : ∀ e ∈ g.edits, ∀ k ∈ f.reads, e.key ≠ k

theorem Apart.symm {f g : Footprint} (h : Apart f g) : Apart g f where
  edits e he e' he' := (h.edits e' he' e he).symm
  left := h.right
  right := h.left

def Footprint.keys (f : Footprint) : List Key := f.reads ++ f.edits.map Edit.key

theorem Apart.of_keys {f g : Footprint} (h : ∀ a ∈ f.keys, ∀ b ∈ g.keys, a ≠ b) : Apart f g where
  edits _ he _ he' := h _ (List.mem_append_right _ (List.mem_map_of_mem he)) _
    (List.mem_append_right _ (List.mem_map_of_mem he'))
  left _ he _ hk := h _ (List.mem_append_right _ (List.mem_map_of_mem he)) _
    (List.mem_append_left _ hk)
  right _ he _ hk := (h _ (List.mem_append_left _ hk) _
    (List.mem_append_right _ (List.mem_map_of_mem he))).symm

variable {rules : Rules} {block block₁ block₂ : Block} {c c' c₁ c₂ c₁₂ : Custody}
  {m m₁ m₂ : Message}

/-- Accepted messages that do not meddle with each other's keys can be swapped. -/
theorem Deed.swap {f g : Footprint} {t u : Option Shift} (hd₁ : Deed rules block₁ c m₁ f t)
    (hd₂ : Deed rules block₂ c m₂ g u) (apart : Apart f g) (he₁ : Effect rules block₁ c m₁ c₁)
    (he₂ : Effect rules block₂ c m₂ c₂) (he₁₂ : Effect rules block₂ c₁ m₂ c₁₂) :
    Effect rules block₁ c₂ m₁ c₁₂ := by
  obtain ⟨hmoves₁, hstore₁⟩ := hd₁.only (.refl c _) he₁
  obtain ⟨hmoves₂, hstore₂⟩ := hd₂.only (.refl c _) he₂
  have halike₁ : Alike c c₁ g.reads := by
    refine ⟨hmoves₁.sequences, fun k hk => ?_⟩
    rw [hstore₁]
    exact Store.get?_edited fun e he => apart.left e he k hk
  have halike₂ : Alike c c₂ f.reads := by
    refine ⟨hmoves₂.sequences, fun k hk => ?_⟩
    rw [hstore₂]
    exact Store.get?_edited fun e he => apart.right e he k hk
  obtain ⟨hmoves₁₂, hstore₁₂⟩ := hd₂.only halike₁ he₁₂
  have hswapped := hd₁.does halike₂ (hmoves₁.comm hmoves₂ hmoves₁₂)
  have hstore : c₂.store.edited f.edits = c₁₂.store := by
    rw [hstore₂, hstore₁₂, hstore₁]
    exact (Store.edited_comm apart.edits).symm
  rw [hstore] at hswapped
  exact hswapped

/-! ## Messages about one contract or one escrow -/

/-- How far a contract or an escrow has come: it is not there, it can still be undone, or it cannot. -/
inductive Phase
  | absent
  | undecided
  | decided
  deriving DecidableEq

/-- What a message about a contract or an escrow looks at and changes. -/
structure Subject where
  key : Key
  before : Phase
  after : Phase

/-- The contract or the escrow that a message is about, and between which phases it takes it. -/
def Message.subject? : Message → Option Subject
  | addContract m => some ⟨.contract m.hash, .absent, .undecided⟩
  | redeemContract m => some ⟨.contract (HashLock.lockOf m.preimage), .undecided, .decided⟩
  | failContract m => some ⟨.contract m.hash, .undecided, .decided⟩
  | initEscrow m => some ⟨.escrow m.id, .absent, .undecided⟩
  | abortEscrow m => some ⟨.escrow m.id, .undecided, .absent⟩
  | joinEscrow m => some ⟨.escrow m.id, .undecided, .decided⟩
  | spendEscrow m => some ⟨.escrow m.id, .decided, .decided⟩
  | birth _ | spend _ => none

namespace Alike

variable {d : Custody} {reads : List Key} {k : Key}

theorem fresh (h : Alike c d reads) (hk : k ∈ reads) (hc : c.store.get? k.bytes = none) :
    d.store.get? k.bytes = none :=
  (h.records k hk).trans hc

theorem holds (h : Alike c d reads) {r : Record} (hk : r.key ∈ reads) (hr : c.store.Holds r) :
    d.store.Holds r :=
  hr.of_same (h.records _ hk)

section Contract

variable {digest : Digest} {found other : HashLock.Contract}

theorem contract (h : Alike c d [.contract digest]) (held : c.store.Holds (.contract found))
    (named : found.hash = digest) : d.store.Holds (.contract found) :=
  h.holds (List.mem_singleton.2 (congrArg Key.contract named)) held

/-- What is found under the hash there is what is found here. -/
theorem contract_eq (h : Alike c d [.contract digest]) (held : c.store.Holds (.contract found))
    (named : found.hash = digest) (held' : d.store.Holds (.contract other))
    (named' : other.hash = digest) : other = found :=
  held'.contract_unique (h.contract held named) (named'.trans named.symm)

end Contract

section Escrow

variable {id : EscrowId} {found other : Escrow.Contract}

theorem escrow (h : Alike c d [.escrow id]) (held : c.store.Holds (.escrow found))
    (named : found.id = id) : d.store.Holds (.escrow found) :=
  h.holds (List.mem_singleton.2 (congrArg Key.escrow named)) held

theorem escrow_eq (h : Alike c d [.escrow id]) (held : c.store.Holds (.escrow found))
    (named : found.id = id) (held' : d.store.Holds (.escrow other)) (named' : other.id = id) :
    other = found :=
  held'.escrow_unique (h.escrow held named) (named'.trans named.symm)

end Escrow

end Alike

/-- The deed of a message about a contract or an escrow is one change, of the key it looks at. -/
theorem Effect.subject_deed (he : Effect rules block c m c') (ho : c.store.Orderly)
    {subject : Subject} (hm : m.subject? = some subject) :
    ∃ e shift, e.key = subject.key ∧ Deed rules block c m ⟨[subject.key], [e]⟩ shift := by
  cases he with
  | birth => simp [Message.subject?] at hm
  | spend => simp [Message.subject?] at hm
  | @addContract m bank valid fresh paid =>
    cases hm
    have hpos := HashLock.Add.positive_of_valid valid
    refine ⟨.write (.contract (m.contract block)),
      some ⟨m.timeoutAddress, m.amount.denom, -m.amount.amount.toNat⟩, rfl, ?_, ?_⟩
    · intro d d' halike he'
      cases he' with
      | addContract _ _ paid' => exact ⟨(Bank.debit_iff_moves hpos).1 paid', rfl⟩
    · intro d bank halike hmoves
      exact .addContract valid (halike.fresh List.mem_cons_self fresh)
        ((Bank.debit_iff_moves hpos).2 hmoves)
  | @redeemContract m contract bank valid held unlocked unresolved caller inTime paid =>
    cases hm
    refine ⟨.write (.contract { contract with status := .redeemed }),
      some ⟨contract.redeemAddress, contract.amount.denom, contract.amount.amount.toNat⟩,
      congrArg Key.contract unlocked, ?_, ?_⟩
    · intro d d' halike he'
      cases he' with
      | redeemContract _ held' unlocked' _ _ _ paid' =>
        have heq := halike.contract_eq held unlocked held' unlocked'
        subst heq
        exact ⟨Bank.credit_iff_moves.1 paid', rfl⟩
    · intro d bank halike hmoves
      exact .redeemContract valid (halike.contract held unlocked) unlocked unresolved caller inTime
        (Bank.credit_iff_moves.2 hmoves)
  | @failContract m contract bank valid held named unresolved caller expired paid =>
    cases hm
    refine ⟨.write (.contract { contract with status := .failed }),
      some ⟨contract.timeoutAddress, contract.amount.denom, contract.amount.amount.toNat⟩,
      congrArg Key.contract named, ?_, ?_⟩
    · intro d d' halike he'
      cases he' with
      | failContract _ held' named' _ _ _ paid' =>
        have heq := halike.contract_eq held named held' named'
        subst heq
        exact ⟨Bank.credit_iff_moves.1 paid', rfl⟩
    · intro d bank halike hmoves
      exact .failContract valid (halike.contract held named) named unresolved caller expired
        (Bank.credit_iff_moves.2 hmoves)
  | @initEscrow m bank valid fresh apart positiveA positiveB denom paid =>
    cases hm
    have hpos := Coin.toNat_pos positiveA
    refine ⟨.write (.escrow m.contract),
      some ⟨m.partyA, m.shareA.denom, -m.shareA.amount.toNat⟩, rfl, ?_, ?_⟩
    · intro d d' halike he'
      cases he' with
      | initEscrow _ _ _ _ _ _ paid' => exact ⟨(Bank.debit_iff_moves hpos).1 paid', rfl⟩
    · intro d bank halike hmoves
      exact .initEscrow valid (halike.fresh List.mem_cons_self fresh) apart positiveA positiveB
        denom ((Bank.debit_iff_moves hpos).2 hmoves)
  | @abortEscrow m contract bank valid held named unjoined caller paid =>
    cases hm
    refine ⟨.remove (.escrow contract.id),
      some ⟨contract.partyA, contract.balance.denom, contract.balance.amount.toNat⟩,
      congrArg Key.escrow named, ?_, ?_⟩
    · intro d d' halike he'
      cases he' with
      | abortEscrow _ held' named' _ _ paid' =>
        have heq := halike.escrow_eq held named held' named'
        subst heq
        exact ⟨Bank.credit_iff_moves.1 paid', rfl⟩
    · intro d bank halike hmoves
      exact .abortEscrow valid (halike.escrow held named) named unjoined caller
        (Bank.credit_iff_moves.2 hmoves)
  | @joinEscrow m contract balance bank valid held named unjoined caller share sum paid =>
    cases hm
    have hpos := Coin.toNat_pos (ho contract held).positiveB
    rw [← share] at hpos
    refine ⟨.write (.escrow { contract with balance, stage := .locked }),
      some ⟨contract.partyB, m.amount.denom, -m.amount.amount.toNat⟩,
      congrArg Key.escrow named, ?_, ?_⟩
    · intro d d' halike he'
      cases he' with
      | joinEscrow _ held' named' _ _ _ sum' paid' =>
        have heq := halike.escrow_eq held named held' named'
        subst heq
        have hbalance := Except.ok.inj (sum.symm.trans sum')
        subst hbalance
        exact ⟨(Bank.debit_iff_moves hpos).1 paid', rfl⟩
    · intro d bank halike hmoves
      exact .joinEscrow valid (halike.escrow held named) named unjoined caller share sum
        ((Bank.debit_iff_moves hpos).2 hmoves)
  | @spendEscrow m contract remaining bank valid held named locked callers denom difference paid =>
    cases hm
    refine ⟨.write (.escrow { contract with balance := remaining }),
      some ⟨m.payee, m.amount.denom, m.amount.amount.toNat⟩, congrArg Key.escrow named, ?_, ?_⟩
    · intro d d' halike he'
      cases he' with
      | spendEscrow _ held' named' _ _ _ difference' paid' =>
        have heq := halike.escrow_eq held named held' named'
        subst heq
        have hremaining := Except.ok.inj (difference.symm.trans difference')
        subst hremaining
        exact ⟨Bank.credit_iff_moves.1 paid', rfl⟩
    · intro d bank halike hmoves
      exact .spendEscrow valid (halike.escrow held named) named locked callers denom difference
        (Bank.credit_iff_moves.2 hmoves)

/-! ## Births and spends -/

def Unspent.AccountOutput.footprint (output : AccountOutput) : Footprint where
  reads := [.account output.id]
  edits := [.write (.account output), .write (.point (.ofBirth output.id))]

/-- The key of the record that says what an outpoint is worth. -/
def OutPoint.sourceKey (p : OutPoint) : Key :=
  if p.isBirth then .account p.source else .transaction p.source

def Transaction.footprint (t : Transaction) (spent : OutPoint) : Footprint where
  reads := [.point spent, spent.sourceKey]
  edits := .write (.transaction t) :: .remove (.point spent) ::
    (Unspent.createdPoints t.hash t.outputs.length).map fun p => .write (.point p)

theorem OutPoint.kind_sourceKey (p : OutPoint) :
    p.sourceKey.kind = .account ∨ p.sourceKey.kind = .transaction := by
  unfold sourceKey
  split
  · exact .inl rfl
  · exact .inr rfl

/-- What an outpoint resolves to is a matter of the record that it refers to. -/
theorem Unspent.resolve_congr {s t : Store} {p : OutPoint}
    (h : t.get? p.sourceKey.bytes = s.get? p.sourceKey.bytes) : resolve t p = resolve s p := by
  unfold resolve
  unfold OutPoint.sourceKey at h
  by_cases hb : p.isBirth
  · rw [if_pos hb] at h
    simp only [if_pos hb]
    rw [Namespace.load_congr h]
  · rw [if_neg hb] at h
    simp only [if_neg hb]
    rw [Namespace.load_congr h]

theorem Unspent.get?_sourceKey_of_resolve {s : Store} {p : OutPoint} {r : Amount × Address}
    (h : resolve s p = .ok r) : s.get? p.sourceKey.bytes ≠ none := by
  intro hn
  unfold resolve at h
  unfold OutPoint.sourceKey at hn
  by_cases hb : p.isBirth
  · rw [if_pos hb] at hn
    simp [hb, Namespace.load_of_none hn, bind, Except.bind] at h
  · rw [if_neg hb] at hn
    simp [hb, Namespace.load_of_none hn, bind, Except.bind] at h

theorem Unspent.applyTransaction_eq_edited (s : Store) (t : Transaction) (spent : OutPoint) :
    applyTransaction s t spent = s.edited (t.footprint spent).edits := by
  rw [applyTransaction_eq]
  simp only [Store.edited, Transaction.footprint, List.foldl_cons, List.foldl_map]
  rfl

theorem Transaction.map_key_edits (t : Transaction) (spent : OutPoint) :
    (t.footprint spent).edits.map Edit.key = .transaction t.hash :: .point spent ::
      (Unspent.createdPoints t.hash t.outputs.length).map Key.point := by
  simp only [footprint, List.map_cons, List.map_map]
  rfl

/-- The footprint of a message that creates or spends unspent outputs. -/
inductive Turnover (block : Block) (c : Custody) : Message → Footprint → Prop
  | birth (m : Unspent.Birth) :
      Turnover block c (.birth m) (m.output block (c.bank.sequence m.owner)).footprint
  | spend {m : Unspent.Spend} {input : Input} (only : m.tx.inputs = [input]) :
      Turnover block c (.spend m) (m.tx.footprint input.point)

theorem Turnover.congr {d : Custody} {f : Footprint} (ht : Turnover block c m f)
    (h : d.bank.sequences = c.bank.sequences) : Turnover block d m f := by
  cases ht with
  | birth m =>
    have hsequence : c.bank.sequence m.owner = d.bank.sequence m.owner := by
      rw [Bank.sequence, Bank.sequence, h]
    rw [hsequence]
    exact .birth m
  | spend only => exact .spend only

/-- Births and spends look at and change unspent outputs only. -/
theorem Turnover.kind_of_mem {f : Footprint} (ht : Turnover block c m f) {k : Key} (hk : k ∈ f.keys) :
    k.kind ≠ .contract ∧ k.kind ≠ .escrow := by
  cases ht with
  | birth m =>
    simp only [Footprint.keys, AccountOutput.footprint, List.map_cons, List.map_nil,
      List.mem_append, List.mem_cons, List.not_mem_nil, or_false, Edit.key, Record.key] at hk
    obtain rfl | rfl | rfl := hk <;> simp [Key.kind]
  | @spend m input only =>
    rw [Footprint.keys, Transaction.map_key_edits] at hk
    simp only [Transaction.footprint, List.mem_append, List.mem_cons, List.not_mem_nil, or_false,
      List.mem_map] at hk
    obtain (rfl | rfl) | rfl | rfl | ⟨p, -, rfl⟩ := hk
    · simp [Key.kind]
    · cases input.point.kind_sourceKey with
      | inl hkind => simp [hkind]
      | inr hkind => simp [hkind]
    all_goals simp [Key.kind]

theorem Effect.turnover_deed (he : Effect rules block c m c') (hm : m.subject? = none) :
    ∃ footprint shift, Turnover block c m footprint ∧ Deed rules block c m footprint shift := by
  cases he with
  | @birth m output bank valid denom born fresh paid =>
    have hpos := Unspent.Birth.positive_of_valid valid
    have hborn : ∀ {d : Custody}, Alike c d output.footprint.reads →
        output = m.output block (d.bank.sequence m.owner) := by
      intro d halike
      rw [born, Bank.sequence, Bank.sequence, halike.sequences]
    refine ⟨output.footprint, some ⟨m.owner, m.amount.denom, -m.amount.amount.toNat⟩,
      born ▸ .birth m, ?_, ?_⟩
    · intro d d' halike he'
      cases he' with
      | birth _ _ born' _ paid' =>
        have heq := born'.trans (hborn halike).symm
        subst heq
        exact ⟨(Bank.debit_iff_moves hpos).1 paid', rfl⟩
    · intro d bank halike hmoves
      exact .birth valid denom (hborn halike) (halike.fresh List.mem_cons_self fresh)
        ((Bank.debit_iff_moves hpos).2 hmoves)
  | @spend m input value valid only canonical live owned even authorized =>
    refine ⟨m.tx.footprint input.point, none, .spend only, ?_, ?_⟩
    · intro d d' halike he'
      cases he' with
      | @spend _ input' _ _ only' =>
        have heq : input' = input := List.singleton_inj.1 (only'.symm.trans only)
        subst heq
        exact ⟨rfl, Unspent.applyTransaction_eq_edited _ _ _⟩
    · intro d bank halike hmoves
      have hresolve : Unspent.resolve d.store input.point = Unspent.resolve c.store input.point :=
        Unspent.resolve_congr
          (halike.records _ (List.mem_cons_of_mem _ (List.mem_singleton.2 rfl)))
      rw [show bank = d.bank from hmoves, ← Unspent.applyTransaction_eq_edited]
      exact .spend valid only canonical (halike.holds List.mem_cons_self live)
        (hresolve.trans owned) even authorized
  | _ => simp [Message.subject?] at hm

end Settlement
