import Mathlib.Algebra.BigOperators.Finprod
import Mathlib.Algebra.Order.BigOperators.Group.List
import Settlement.Proofs.DoubleSpend
import Settlement.Proofs.Tally

/-!
# Wallets partition the unspent value

A wallet is worked out by resolving every live outpoint and keeping those of one owner. While the unspent
outputs are intact every live outpoint resolves, and to one owner, so each is a line of one wallet. What a
wallet comes to is then a sum over the live outpoints that leaves out those of other owners (`share`), and
over all addresses these sums come to the worth of all live outpoints. That this is what has been born is
an invariant of runs: a birth adds as much to both, and a spend adds to neither.

Results:
* `Intact.walletOf_eq`: the wallet of an address lists its live outpoints.
* `finsum_share`: what all owners have together.
* `Effect.balanced`: an accepted message adds as much to the live outpoints as to what has been born.
* `Ledger.wallets_partition`: in every state of a run each live outpoint is a line of one wallet, and all
  wallets come to the values of all account outputs.
-/
namespace Settlement

open Unspent (AccountOutput Wallet WalletEntry)

variable {s : Store} {ts : List Transaction}

/-! ## One wallet -/

namespace Unspent

def WalletEntry.point (e : WalletEntry) : OutPoint := ⟨e.source, e.index⟩

/-- The sum of the values of all lines. -/
def Wallet.total (w : Wallet) : Nat := (w.entries.map fun e => e.value.toNat).sum

/-- What a value adds to the wallet of an address. -/
def share (address : Address) (value : Amount) (owner : Address) : Nat :=
  if owner = address then value.toNat else 0

/-- The line that an outpoint is in the wallet of an address, if any. -/
def line? (s : Store) (address : Address) (p : OutPoint) : Option WalletEntry :=
  match resolve s p with
  | .ok (value, owner) => if owner = address then some ⟨p.source, p.index, value⟩ else none
  | .error _ => none

/-- The wallet of an address, if all live outpoints resolve. -/
def wallet (s : Store) (address : Address) : Wallet :=
  Wallet.ofEntries ((livePoints s).filterMap (line? s address))

theorem line?_eq_some_iff {address : Address} {p : OutPoint} {e : WalletEntry} :
    line? s address p = some e ↔ e.point = p ∧ resolve s p = .ok (e.value, address) := by
  unfold line?
  cases resolve s p with
  | error damage => simp
  | ok r =>
    obtain ⟨value, owner⟩ := r
    simp only [Except.ok.injEq, Prod.mk.injEq]
    constructor
    · intro h
      split at h
      · cases h
        exact ⟨rfl, rfl, ‹_›⟩
      · cases h
    · rintro ⟨rfl, rfl, rfl⟩
      rw [if_pos rfl]
      rfl

theorem gauge_share_of_line? {address : Address} {p : OutPoint} :
    gauge (share address) s p = ((line? s address p).map fun e => e.value.toNat).getD 0 := by
  unfold gauge line? share
  cases resolve s p with
  | error damage => rfl
  | ok r => dsimp only; split <;> rfl

theorem sum_lines (s : Store) (address : Address) (points : List OutPoint) :
    ((points.filterMap (line? s address)).map fun e => e.value.toNat).sum =
      (points.map (gauge (share address) s)).sum := by
  induction points with
  | nil => rfl
  | cons p points ih =>
    rw [List.filterMap_cons, List.map_cons, List.sum_cons, gauge_share_of_line?, ← ih]
    cases line? s address p with
    | none => simp
    | some e => simp

/-- The lines of a wallet stand in the order of the outpoints. -/
theorem lines_sublist (s : Store) (address : Address) (points : List OutPoint) :
    ((points.filterMap (line? s address)).map WalletEntry.point).Sublist points := by
  induction points with
  | nil => exact List.Sublist.slnil
  | cons p points ih =>
    rw [List.filterMap_cons]
    cases hp : line? s address p with
    | none => exact ih.cons p
    | some e =>
      rw [List.map_cons, (line?_eq_some_iff.1 hp).1]
      exact ih.cons_cons p

/-- Once all outpoints are resolved, those of an address are its lines. -/
theorem exists_resolved {points : List OutPoint}
    (h : ∀ p ∈ points, ∃ value owner, resolve s p = .ok (value, owner)) (address : Address) :
    ∃ resolved, (points.mapM fun p => (resolve s p).map fun r => (p, r)) = .ok resolved ∧
      (resolved.filterMap fun (p, value, owner) =>
        if owner = address then some (WalletEntry.mk p.source p.index value) else none) =
          points.filterMap (line? s address) := by
  induction points with
  | nil => exact ⟨[], rfl, rfl⟩
  | cons p points ih =>
    obtain ⟨value, owner, hr⟩ := h p (by simp)
    obtain ⟨resolved, hm, hl⟩ := ih fun q hq => h q (by simp [hq])
    refine ⟨(p, value, owner) :: resolved, ?_, ?_⟩
    · rw [List.mapM_cons, hr, hm]
      rfl
    · rw [List.filterMap_cons, List.filterMap_cons, hl, line?, hr]

theorem Wallet.balance_ofEntries (entries : List WalletEntry) :
    (Wallet.ofEntries entries).balance = BitVec.ofNat 128 (Wallet.ofEntries entries).total := by
  rw [Wallet.ofEntries, Wallet.total, List.sum_eq_foldl, List.foldl_map]

/-- So many values of 64 bits do not exceed 128 bits. -/
theorem Wallet.toNat_balance_ofEntries {entries : List WalletEntry}
    (h : entries.length < 2 ^ 64) :
    (Wallet.ofEntries entries).balance.toNat = (Wallet.ofEntries entries).total := by
  have hsum : (Wallet.ofEntries entries).total ≤
      (entries.map fun e => e.value.toNat).length • (2 ^ 64 - 1) := by
    refine List.sum_le_card_nsmul _ _ fun n hn => ?_
    obtain ⟨e, -, rfl⟩ := List.mem_map.1 hn
    have := e.value.toNat_lt
    omega
  rw [List.length_map, smul_eq_mul] at hsum
  rw [Wallet.balance_ofEntries, BitVec.toNat_ofNat, Nat.mod_eq_of_lt (by omega)]

/-- A wallet comes to the share of its address in the live outpoints. -/
theorem total_wallet (s : Store) (address : Address) :
    (wallet s address).total = tally (share address) s := by
  rw [tally_eq_sum, ← sum_lines]
  rfl

end Unspent

theorem Intact.resolve_live (h : Intact ts s) (hb : Bounded ts) {p : OutPoint}
    (hp : s.Holds (.point p)) : ∃ value owner, Unspent.resolve s p = .ok (value, owner) :=
  h.resolve hb (h.created_of_live hp)

theorem Store.Sound.listOutPoints (hs : s.Sound) :
    Unspent.listOutPoints s = .ok (Unspent.livePoints s) :=
  hs.loadAll Store.pointShelf

theorem Store.Sound.listAccountOutputs (hs : s.Sound) :
    Unspent.listAccountOutputs s = .ok (s.records.filterMap Store.accountShelf.pick) :=
  hs.loadAll Store.accountShelf

theorem Intact.walletOf_eq (h : Intact ts s) (hb : Bounded ts) (address : Address) :
    Unspent.walletOf s address = .ok (Unspent.wallet s address) := by
  obtain ⟨resolved, hm, hl⟩ := Unspent.exists_resolved
    (fun p hp => h.resolve_live hb (Unspent.mem_livePoints.1 hp)) address
  rw [Unspent.wallet, ← hl]
  simp only [Unspent.walletOf, h.sound.listOutPoints, hm, bind, Except.bind]
  rfl

theorem Intact.query_balance {l : Ledger} (h : Intact ts l.store) (hb : Bounded ts)
    (address : Address) :
    Ledger.query (.balance address) l = .ok (.wallet (Unspent.wallet l.store address)) := by
  simp only [Ledger.query, Query.answer, h.walletOf_eq hb address]
  rfl

/-! ## All wallets together -/

/-- An outpoint is in the wallet of its owner only. -/
theorem Unspent.finsum_gauge_share (s : Store) (p : OutPoint) :
    (fun a => gauge (share a) s p).HasFiniteSupport ∧
      ∑ᶠ a, gauge (share a) s p = gauge face s p := by
  unfold gauge
  cases resolve s p with
  | error damage => simp [Function.HasFiniteSupport]
  | ok r =>
    obtain ⟨value, owner⟩ := r
    have hother : ∀ a, a ≠ owner → share a value owner = 0 := fun a ha => if_neg (Ne.symm ha)
    refine ⟨(Set.finite_singleton owner).subset fun a ha => ?_, ?_⟩
    · by_contra hne
      exact ha (hother a hne)
    · dsimp only
      rw [finsum_eq_single _ owner hother, share, if_pos rfl, face]

/-- What all owners have together is the worth of all outpoints. As only finitely many addresses own
anything, the sum over all addresses is a sum. -/
theorem Unspent.finsum_share (s : Store) (points : List OutPoint) :
    (fun a => (points.map (gauge (share a) s)).sum).HasFiniteSupport ∧
      ∑ᶠ a, (points.map (gauge (share a) s)).sum = (points.map (gauge face s)).sum := by
  induction points with
  | nil => simp [Function.HasFiniteSupport]
  | cons p points ih =>
    obtain ⟨hfinite, hsum⟩ := ih
    obtain ⟨hone, hgauge⟩ := finsum_gauge_share s p
    simp only [List.map_cons, List.sum_cons]
    refine ⟨hone.add hfinite, ?_⟩
    rw [finsum_add_distrib hone hfinite, hgauge, hsum]

/-! ## What has been born -/

/-- What a record adds to all that has been born. -/
def Record.born : Record → Nat
  | .account output => output.value.toNat
  | _ => 0

/-- The live outpoints are worth what has been born. -/
def Unspent.Balanced (s : Store) : Prop :=
  tally face s = s.total Record.born

theorem Store.total_born (s : Store) :
    s.total Record.born =
      ((s.records.filterMap accountShelf.pick).map fun output => output.value.toNat).sum := by
  refine s.total_eq_sum_pick accountShelf fun r hr => ?_
  cases r with
  | account output => simp [accountShelf] at hr
  | _ => rfl

section Messages

variable {rules : Rules} {block : Block} {c c' : Custody} {m : Message}

theorem Effect.balanced (he : Effect rules block c m c') (h : Intact ts c.store)
    (hd : Distinct (m.transactions ++ ts)) (hb : Bounded (m.transactions ++ ts))
    (hbal : Unspent.Balanced c.store) : Unspent.Balanced c'.store := by
  have hbs : Bounded ts := hb.mono fun u hu => by simp [hu]
  have hothers : m.route ≠ .birth → m.route ≠ .spend → Unspent.Balanced c'.store := by
    intro hbirth hspend
    rw [Unspent.Balanced, he.tally_frame h hd hbs hbirth hspend, hbal,
      he.total_frame hbirth hspend (fun _ => rfl) fun _ => rfl]
  cases m with
  | birth m =>
    have ht := he.tally_birth (f := Unspent.face) h hd hbs
    cases he with
    | birth valid denom born fresh paid =>
      rw [Unspent.Balanced, ht, hbal, h.total_birth hbs fresh, born]
      rfl
  | spend m =>
    cases he with
    | @spend _ input value valid only canonical live owned even authorized =>
      have he : Effect rules block c (.spend m) _ :=
        .spend valid only canonical live owned even authorized
      have ht := he.tally_spend (f := Unspent.face) h hd hb only owned
      rw [(settled_of_valid valid only canonical).sum_gauge, outputValue?_eq_some_iff.1 even] at ht
      -- a spend writes no account output, so nothing more is born
      have hborn : (Unspent.applyTransaction c.store m.tx input.point).total Record.born =
          c.store.total Record.born := by
        refine Store.total_eq_of_holds fun r hr => ?_
        cases r with
        | account output =>
          exact Unspent.account_applyTransaction fun u hu => h.fresh hd only live hu
        | _ => exact absurd rfl hr
      unfold Unspent.Balanced at hbal ⊢
      rw [hborn, ← hbal]
      exact Nat.add_right_cancel ht
  | _ => exact hothers (by simp [Message.route]) (by simp [Message.route])

end Messages

theorem balanced_run (rules : Rules) {ops : List Operation} (hd : Distinct ts) (hb : Bounded ts)
    (hts : ∀ t ∈ Ledger.transactions ops, t ∈ ts) :
    Unspent.Balanced (Ledger.run rules ops).store :=
  intact_store_run rules hd hb hts rfl Effect.balanced

/-! ## The partition -/

namespace Unspent

/-- The wallet of an address lists those of the outpoints that it owns, each once and in their order, with
the values that they resolve to, and its balance is the sum of these. -/
structure Wallet.Lists (s : Store) (points : List OutPoint) (address : Address) (w : Wallet) :
    Prop where
  mem_iff : ∀ e, e ∈ w.entries ↔
    e.point ∈ points ∧ resolve s e.point = .ok (e.value, address)
  once : (w.entries.map WalletEntry.point).Nodup
  ordered : (w.entries.map WalletEntry.point).Sublist points
  balance : w.balance.toNat = w.total

/-- The wallets of all addresses have each of the outpoints once, and come to what all account outputs
come to. Only finitely many of them are not empty, so that adding them up makes sense. -/
structure Partitioned (s : Store) (points : List OutPoint) (outputs : List AccountOutput)
    (wallet : Address → Wallet) : Prop where
  lists : ∀ a, (wallet a).Lists s points a
  covered : ∀ p ∈ points, ∃ a, ∃ e ∈ (wallet a).entries, e.point = p
  apart : ∀ a b, a ≠ b → ∀ e ∈ (wallet a).entries, ∀ e' ∈ (wallet b).entries, e.point ≠ e'.point
  finite : {a | (wallet a).entries ≠ []}.Finite
  total : ∑ᶠ a, (wallet a).balance.toNat = (outputs.map fun output => output.value.toNat).sum

theorem mem_wallet {address : Address} {e : WalletEntry} :
    e ∈ (wallet s address).entries ↔
      e.point ∈ livePoints s ∧ resolve s e.point = .ok (e.value, address) := by
  simp only [wallet, Wallet.ofEntries, List.mem_filterMap, line?_eq_some_iff]
  constructor
  · rintro ⟨p, hp, rfl, hr⟩
    exact ⟨hp, hr⟩
  · rintro ⟨hp, hr⟩
    exact ⟨e.point, hp, rfl, hr⟩

theorem nodup_livePoints (s : Store) : (livePoints s).Nodup := s.nodup_pick Store.pointShelf

theorem wallet_lists (few : (livePoints s).length < 2 ^ 64) (address : Address) :
    (wallet s address).Lists s (livePoints s) address where
  mem_iff _ := mem_wallet
  once := (lines_sublist s address (livePoints s)).nodup (nodup_livePoints s)
  ordered := lines_sublist s address (livePoints s)
  balance := Wallet.toNat_balance_ofEntries
    (Nat.lt_of_le_of_lt (List.length_filterMap_le _ _) few)

theorem covered_wallets (h : ∀ p, s.Holds (.point p) →
    ∃ value owner, resolve s p = .ok (value, owner)) {p : OutPoint} (hp : p ∈ livePoints s) :
    ∃ a, ∃ e ∈ (wallet s a).entries, e.point = p := by
  obtain ⟨value, owner, hr⟩ := h p (mem_livePoints.1 hp)
  exact ⟨owner, ⟨p.source, p.index, value⟩, mem_wallet.2 ⟨hp, hr⟩, rfl⟩

theorem wallets_apart {a b : Address} (hab : a ≠ b) {e e' : WalletEntry}
    (he : e ∈ (wallet s a).entries) (he' : e' ∈ (wallet s b).entries) : e.point ≠ e'.point := by
  intro hp
  have ha := (mem_wallet.1 he).2
  have hb := (mem_wallet.1 he').2
  rw [hp, hb] at ha
  exact hab (Prod.mk.inj (Except.ok.inj ha)).2.symm

theorem finite_wallets (s : Store) : {a | (wallet s a).entries ≠ []}.Finite := by
  refine (List.finite_toSet ((livePoints s).filterMap fun p =>
    (resolve s p).toOption.map Prod.snd)).subset fun a ha => ?_
  obtain ⟨e, he⟩ := List.exists_mem_of_ne_nil _ ha
  obtain ⟨hp, hr⟩ := mem_wallet.1 he
  exact List.mem_filterMap.2 ⟨e.point, hp, by rw [hr]; rfl⟩

end Unspent

theorem Intact.partitioned (h : Intact ts s) (hb : Bounded ts) (hbal : Unspent.Balanced s)
    (few : (Unspent.livePoints s).length < 2 ^ 64) :
    Unspent.Partitioned s (Unspent.livePoints s) (s.records.filterMap Store.accountShelf.pick)
      (Unspent.wallet s) where
  lists := Unspent.wallet_lists few
  covered _ := Unspent.covered_wallets fun _ hp => h.resolve_live hb hp
  apart _ _ hab _ he _ he' := Unspent.wallets_apart hab he he'
  finite := Unspent.finite_wallets s
  total := by
    calc ∑ᶠ a, (Unspent.wallet s a).balance.toNat
        = ∑ᶠ a, ((Unspent.livePoints s).map (Unspent.gauge (Unspent.share a) s)).sum := by
          refine finsum_congr fun a => ?_
          rw [(Unspent.wallet_lists few a).balance, Unspent.total_wallet, Unspent.tally_eq_sum]
      _ = Unspent.tally Unspent.face s := by
          rw [(Unspent.finsum_share s _).2, Unspent.tally_eq_sum]
      _ = _ := by rw [hbal, s.total_born]

/-! ## Runs -/

namespace Ledger

/-- In every state of a run with fewer than 2⁶⁴ live outpoints, the wallet that a query answers for an
address lists exactly the live outpoints that resolve to it, once each and in the order in which the
outpoints are listed, with the values that they resolve to, and its balance is the sum of these; no two
addresses share an outpoint; and the balances of all addresses come to the values of all account outputs
that are listed. -/
theorem wallets_partition (rules : Rules) (ops : List Operation) (hd : Distinct (transactions ops))
    (hb : Bounded (transactions ops))
    (few : ∀ points, query .listOutPoints (run rules ops) = .ok (.outPoints points) →
      points.length < 2 ^ 64) :
    ∃ points outputs, ∃ wallet : Address → Wallet,
      query .listOutPoints (run rules ops) = .ok (.outPoints points) ∧
      query .listAccountOutputs (run rules ops) = .ok (.accountOutputs outputs) ∧
      (∀ a, query (.balance a) (run rules ops) = .ok (.wallet (wallet a))) ∧
      (∀ p, p ∈ points ↔ (run rules ops).Live p) ∧
      Unspent.Partitioned (run rules ops).store points outputs wallet := by
  have hi : Intact (transactions ops) (run rules ops).store := intact_run rules hd hb fun _ ht => ht
  have hbal := balanced_run rules hd hb fun _ ht => ht
  have hpoints : query .listOutPoints (run rules ops) =
      .ok (.outPoints (Unspent.livePoints (run rules ops).store)) := by
    simp only [query, Query.answer, hi.sound.listOutPoints]
    rfl
  refine ⟨_, _, Unspent.wallet (run rules ops).store, hpoints, ?_, hi.query_balance hb, fun p => ?_,
    hi.partitioned hb hbal (few _ hpoints)⟩
  · simp only [query, Query.answer, hi.sound.listAccountOutputs]
    rfl
  · rw [Unspent.mem_livePoints, Live, hi.sound.has_point]

/-- Of the 60 coins that Alice's outpoint was worth Bob has 25 and Alice has 35. -/
theorem wallets_partition_sample :
    Distinct (transactions Sample.ops) ∧ Bounded (transactions Sample.ops) ∧
    ∃ points outputs, ∃ wallet : Address → Wallet,
      query .listOutPoints (run {} Sample.ops) = .ok (.outPoints points) ∧ points.length < 2 ^ 64 ∧
      outputs.map AccountOutput.value = [60] ∧
      (wallet Sample.bob).balance = 25 ∧ (wallet Sample.alice).balance = 35 ∧
      Unspent.Partitioned (run {} Sample.ops).store points outputs wallet := by
  have hanswers :
      query .listOutPoints (run {} Sample.ops) =
        .ok (.outPoints [⟨Sample.payment.tx.hash, 0⟩, ⟨Sample.payment.tx.hash, 1⟩]) ∧
      query .listAccountOutputs (run {} Sample.ops) =
        .ok (.accountOutputs [Sample.birth.output Sample.block 0]) ∧
      query (.balance Sample.bob) (run {} Sample.ops) =
        .ok (.wallet ⟨25, [⟨Sample.payment.tx.hash, 0, 25⟩]⟩) ∧
      query (.balance Sample.alice) (run {} Sample.ops) =
        .ok (.wallet ⟨35, [⟨Sample.payment.tx.hash, 1, 35⟩]⟩) := by decide +kernel
  obtain ⟨hpoints, houtputs, hbob, halice⟩ := hanswers
  have few : ∀ points, query .listOutPoints (run {} Sample.ops) = .ok (.outPoints points) →
      points.length < 2 ^ 64 := by
    intro points hp
    rw [hpoints] at hp
    cases hp
    decide
  obtain ⟨points, outputs, wallet, hp, ho, hw, -, hpart⟩ :=
    wallets_partition {} Sample.ops distinct_sample bounded_sample few
  refine ⟨distinct_sample, bounded_sample, points, outputs, wallet, hp, few points hp, ?_, ?_, ?_,
    hpart⟩
  · rw [houtputs] at ho
    cases ho
    rfl
  · rw [Answer.wallet.inj (Except.ok.inj ((hw _).symm.trans hbob))]
  · rw [Answer.wallet.inj (Except.ok.inj ((hw _).symm.trans halice))]

end Ledger

end Settlement
