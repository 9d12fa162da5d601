import Settlement.Proofs.Deed

/-!
# The order of accepted messages

Two messages that are each accepted where they are delivered, and are accepted one after the other, are
accepted in the other order too, and leave the same records and the same balances. That takes three
arguments, one for each way in which two messages can meet:

* Two messages about one contract or escrow: every message finds it in a phase and leaves it in another
  one, in which it would no longer be accepted. Only payments out of a joined escrow find it and leave it
  in the same phase, and both come off its balance in either order (`Effect.payments_commute`).
* Two births or spends: what either looks at is there before, and what it writes is new, before as well
  as after the other one (`Placed.apart`).
* All others are about different keys.

Results:
* `Effect.subject_kept`: accepted messages about one contract or escrow leave it in its phase.
* `Placed.apart`: births and spends that are accepted one after the other do not meddle with each other.
* `Ledger.deliveries_commute`: the order in which two messages are delivered does not matter.
-/
namespace Settlement

open Unspent (AccountOutput)

variable {rules : Rules} {block block₁ block₂ : Block} {c c' c₁ c₂ c₁₂ : Custody}
  {m m₁ m₂ : Message} {ts : List Transaction}

/-! ## Phases -/

def Record.phase : Record → Phase
  | contract c => if c.status = .created then .undecided else .decided
  | escrow c => if c.stage = .created then .undecided else .decided
  | _ => .decided

inductive Store.InPhase (s : Store) (k : Key) : Phase → Prop
  | absent (none : s.get? k.bytes = none) : InPhase s k .absent
  | present {r : Record} (held : s.Holds r) (key : r.key = k) : InPhase s k r.phase

theorem Store.InPhase.unique {s : Store} {k : Key} {p q : Phase} (hp : s.InPhase k p)
    (hq : s.InPhase k q) : p = q := by
  cases hp with
  | absent none =>
    cases hq with
    | absent => rfl
    | present held key => exact absurd held (not_holds_of_none none key)
  | present held key =>
    cases hq with
    | absent none => exact absurd held (not_holds_of_none none key)
    | present held' key' => rw [held.unique held' (key.trans key'.symm)]

theorem Store.InPhase.of_record {s : Store} {k : Key} {r : Record} {p : Phase} (held : s.Holds r)
    (key : r.key = k) (phase : r.phase = p) : s.InPhase k p := by
  rw [← phase]
  exact .present held key

/-- An accepted message finds a contract or an escrow in the one phase and leaves it in the other. -/
theorem Effect.phases (he : Effect rules block c m c') {subject : Subject}
    (hm : m.subject? = some subject) :
    c.store.InPhase subject.key subject.before ∧ c'.store.InPhase subject.key subject.after := by
  cases he with
  | birth => simp [Message.subject?] at hm
  | spend => simp [Message.subject?] at hm
  | addContract valid fresh paid =>
    cases hm
    exact ⟨.absent fresh, .of_record Store.holds_write_self rfl rfl⟩
  | redeemContract valid held unlocked unresolved =>
    cases hm
    have hkey := congrArg Key.contract unlocked
    exact ⟨.of_record held hkey (by simp [Record.phase, unresolved]),
      .of_record Store.holds_write_self hkey rfl⟩
  | failContract valid held named unresolved =>
    cases hm
    have hkey := congrArg Key.contract named
    exact ⟨.of_record held hkey (by simp [Record.phase, unresolved]),
      .of_record Store.holds_write_self hkey rfl⟩
  | initEscrow valid fresh =>
    cases hm
    exact ⟨.absent fresh, .of_record Store.holds_write_self rfl rfl⟩
  | abortEscrow valid held named unjoined =>
    cases hm
    have hkey := congrArg Key.escrow named
    refine ⟨.of_record held hkey (by simp [Record.phase, unjoined]), .absent ?_⟩
    rw [← hkey]
    exact Table.get?_erase.trans (if_pos rfl)
  | joinEscrow valid held named unjoined =>
    cases hm
    have hkey := congrArg Key.escrow named
    exact ⟨.of_record held hkey (by simp [Record.phase, unjoined]),
      .of_record Store.holds_write_self hkey rfl⟩
  | spendEscrow valid held named locked =>
    cases hm
    have hkey := congrArg Key.escrow named
    exact ⟨.of_record held hkey (by simp [Record.phase, locked]),
      .of_record Store.holds_write_self hkey (by simp [Record.phase, locked])⟩

/-- Two accepted messages about one contract or escrow find it in one phase, and the first leaves it
there. -/
theorem Effect.subject_kept {a b : Subject} (ha : m₁.subject? = some a) (hb : m₂.subject? = some b)
    (hk : a.key = b.key) (he₁ : Effect rules block₁ c m₁ c₁) (he₂ : Effect rules block₂ c m₂ c₂)
    (he₁₂ : Effect rules block₂ c₁ m₂ c₁₂) : a.before = b.before ∧ a.after = b.before := by
  obtain ⟨hbefore₁, hafter₁⟩ := he₁.phases ha
  rw [hk] at hbefore₁ hafter₁
  exact ⟨hbefore₁.unique (he₂.phases hb).1, hafter₁.unique (he₁₂.phases hb).1⟩

/-- Only payments find an escrow decided. -/
theorem Message.eq_spendEscrow_of_decided {subject : Subject} (hm : m.subject? = some subject)
    (hd : subject.before = .decided) :
    ∃ p : Escrow.Spend, m = .spendEscrow p ∧ subject.key = .escrow p.id := by
  cases m <;> cases hm <;> cases hd
  exact ⟨_, rfl, rfl⟩

/-- Only payments leave an escrow in the phase in which they find it. -/
theorem Message.decided_of_kept {subject : Subject} (hm : m.subject? = some subject)
    (hk : subject.before = subject.after) : subject.before = .decided := by
  cases m <;> cases hm <;> first | rfl | cases hk

/-! ## Payments out of one escrow -/

theorem Store.write_write {s : Store} {q r : Record} (h : q.key = r.key) :
    (s.write q).write r = s.write r := by
  unfold write
  rw [h, Table.insert_insert]

theorem Coin.sub_sub_comm {balance x y left right rest : Coin} (hx : balance.sub x = .ok left)
    (hy : balance.sub y = .ok right) (hxy : left.sub y = .ok rest) : right.sub x = .ok rest := by
  obtain ⟨hdx, hdleft, hleft⟩ := Coin.sub_ok_iff.1 hx
  obtain ⟨hdy, hdright, hright⟩ := Coin.sub_ok_iff.1 hy
  obtain ⟨-, hdrest, hrest⟩ := Coin.sub_ok_iff.1 hxy
  refine Coin.sub_ok_iff.2 ⟨hdright.trans hdx, ?_, by omega⟩
  rw [hdrest, hdleft, hdright]

/-- Two payments out of one escrow can be made in either order. -/
theorem Effect.payments_commute {p₁ p₂ : Escrow.Spend} (hid : p₁.id = p₂.id)
    (he₁ : Effect rules block₁ c (.spendEscrow p₁) c₁)
    (he₂ : Effect rules block₂ c (.spendEscrow p₂) c₂)
    (he₁₂ : Effect rules block₂ c₁ (.spendEscrow p₂) c₁₂) :
    Effect rules block₁ c₂ (.spendEscrow p₁) c₁₂ := by
  cases he₁ with
  | @spendEscrow _ contract left _ valid held named locked callers denom differenceX paidX =>
    cases he₂ with
    | @spendEscrow _ _ right _ _ heldY namedY _ _ _ differenceY paidY =>
      have hsame := held.escrow_unique heldY ((named.trans hid).trans namedY.symm)
      subst hsame
      cases he₁₂ with
      | @spendEscrow _ _ rest bank _ heldXY namedXY _ _ _ differenceXY paidXY =>
        have hleft := Store.Holds.escrow_unique Store.holds_write_self heldXY
          (namedY.trans namedXY.symm)
        subst hleft
        have hrest := Coin.sub_sub_comm differenceX differenceY differenceXY
        have hpaid := (Bank.credit_iff_moves.1 paidX).comm (Bank.credit_iff_moves.1 paidY)
          (Bank.credit_iff_moves.1 paidXY)
        have hdenom : p₁.amount.sameDenom right = true :=
          decide_eq_true (Coin.sub_ok_iff.1 hrest).1.symm
        have hstore : ∀ balance : Coin, (c.store.write (.escrow { contract with balance })).write
            (.escrow { contract with balance := rest }) =
              c.store.write (.escrow { contract with balance := rest }) :=
          fun _ => Store.write_write rfl
        rw [hstore left, ← hstore right]
        exact @Effect.spendEscrow rules block₁ ⟨_, _⟩ p₁ { contract with balance := right } rest bank
          valid Store.holds_write_self named locked callers hdenom hrest
          (Bank.credit_iff_moves.2 hpaid)

/-! ## Births and spends -/

/-- The place of a birth or a spend in a store: what it writes is not there, and what it looks at and
removes is. -/
structure Placed (s : Store) (f : Footprint) : Prop where
  nodup : (f.edits.map Edit.key).Nodup
  written : ∀ r, .write r ∈ f.edits → s.get? r.key.bytes = none
  removed : ∀ k, .remove k ∈ f.edits → s.get? k.bytes ≠ none ∧ k.kind = .point
  read : ∀ k ∈ f.reads, s.get? k.bytes ≠ none ∧ (k.kind = .point → .remove k ∈ f.edits) ∨
    ∃ r, .write r ∈ f.edits ∧ r.key = k

theorem Store.get?_edited_of_mem {s : Store} {edits : List Edit}
    (hn : (edits.map Edit.key).Nodup) {e : Edit} (he : e ∈ edits) :
    (s.edited edits).get? e.key.bytes = e.value := by
  induction edits generalizing s with
  | nil => cases he
  | cons d edits ih =>
    rw [List.map_cons, List.nodup_cons] at hn
    obtain ⟨hd, hrest⟩ := hn
    cases List.mem_cons.1 he with
    | inl heq =>
      have hother : ∀ f ∈ edits, f.key ≠ e.key := by
        intro f hf hk
        rw [heq] at hk
        exact hd (hk ▸ List.mem_map_of_mem hf)
      change ((s.edit d).edited edits).get? e.key.bytes = e.value
      rw [get?_edited hother, get?_edit, heq, if_pos rfl]
    | inr he => exact ih hrest he

section

variable {s : Store} {f g : Footprint} (hf : Placed s f) (hg : Placed s g)
  (hg' : Placed (s.edited f.edits) g)

include hf hg hg'

/-- What is written is new both times, and what is removed is gone afterwards. -/
theorem Placed.edits_apart : ∀ e ∈ f.edits, ∀ e' ∈ g.edits, e.key ≠ e'.key := by
  intro e he e' he' hk
  have hafter := Store.get?_edited_of_mem (s := s) hf.nodup he
  rw [hk] at hafter
  cases e with
  | write r =>
    have hnew : s.get? r.key.bytes = none := hf.written r he
    cases e' with
    | write r' => simp [Edit.key, Edit.value, hg'.written r' he'] at hafter
    | remove k' =>
      rw [show r.key = k' from hk] at hnew
      exact (hg.removed k' he').1 hnew
  | remove k =>
    have hold : s.get? k.bytes ≠ none := (hf.removed k he).1
    cases e' with
    | write r' =>
      rw [show k = r'.key from hk] at hold
      exact hold (hg.written r' he')
    | remove k' => exact (hg'.removed k' he').1 hafter

/-- What the later one looks at was there before the earlier one, and is there after it. -/
theorem Placed.later_reads_apart : ∀ e ∈ f.edits, ∀ k ∈ g.reads, e.key ≠ k := by
  intro e he k hk hek
  cases hg.read k hk with
  | inl hold =>
    cases e with
    | write r =>
      rw [← hek] at hold
      exact hold.1 (hf.written r he)
    | remove k' =>
      have hafter := Store.get?_edited_of_mem (s := s) hf.nodup he
      rw [hek] at hafter
      cases hg'.read k hk with
      | inl hthere => exact hthere.1 hafter
      | inr hnew =>
        obtain ⟨r, hr, hrk⟩ := hnew
        rw [← hrk] at hold
        exact hold.1 (hg.written r hr)
  | inr hnew =>
    obtain ⟨r, hr, hrk⟩ := hnew
    exact Placed.edits_apart hf hg hg' e he (.write r) hr (hek.trans hrk.symm)

/-- What the earlier one looks at was there before, and if it is an outpoint it is gone when the later one
comes. -/
theorem Placed.earlier_reads_apart : ∀ e ∈ g.edits, ∀ k ∈ f.reads, e.key ≠ k := by
  intro e he k hk hek
  cases hf.read k hk with
  | inl hold =>
    cases e with
    | write r =>
      rw [← hek] at hold
      exact hold.1 (hg.written r he)
    | remove k' =>
      have hkind : k.kind = .point := hek ▸ (hg.removed k' he).2
      exact Placed.edits_apart hf hg hg' (.remove k) (hold.2 hkind) (.remove k') he hek.symm
  | inr hnew =>
    obtain ⟨r, hr, hrk⟩ := hnew
    exact Placed.edits_apart hf hg hg' (.write r) hr e he (hrk.trans hek.symm)

/-- Births and spends that are accepted one after the other do not meddle with each other's keys. -/
theorem Placed.apart : Apart f g where
  edits := hf.edits_apart hg hg'
  left := hf.later_reads_apart hg hg'
  right := hf.earlier_reads_apart hg hg'

end

/-- What was not created is not live. -/
theorem Intact.get?_point {s : Store} (h : Intact ts s) {p : OutPoint} (hp : ¬ Created s p) :
    s.get? (Key.point p).bytes = none :=
  h.sound.get?_point fun hl => hp ((h.live_iff p).1 hl).1

theorem Unspent.AccountOutput.placed {s : Store} {output : AccountOutput}
    (hnew : s.get? (Key.account output.id).bytes = none)
    (hpoint : s.get? (Key.point (.ofBirth output.id)).bytes = none) :
    Placed s output.footprint where
  nodup := by simp [footprint, Edit.key, Record.key]
  written r hr := by
    simp only [footprint, List.mem_cons, Edit.write.injEq, List.not_mem_nil, or_false] at hr
    cases hr with
    | inl hr =>
      rw [hr]
      exact hnew
    | inr hr =>
      rw [hr]
      exact hpoint
  removed k hk := by simp [footprint] at hk
  read k hk := .inr ⟨_, List.mem_cons_self, (List.mem_singleton.1 hk).symm⟩

theorem Transaction.placed {s : Store} {t : Transaction} {spent : OutPoint}
    (hb : t.outputs.length ≤ Nat.pow 2 31) (hnew : s.get? (Key.transaction t.hash).bytes = none)
    (hcreated : ∀ p ∈ Unspent.createdPoints t.hash t.outputs.length,
      s.get? (Key.point p).bytes = none)
    (hlive : s.get? (Key.point spent).bytes ≠ none)
    (hsource : s.get? spent.sourceKey.bytes ≠ none) : Placed s (t.footprint spent) where
  nodup := by
    rw [map_key_edits, List.nodup_cons, List.nodup_cons]
    refine ⟨by simp, ?_, ?_⟩
    · -- what is spent is on record already, what is created is not
      intro hk
      obtain ⟨p, hp, hk⟩ := List.mem_map.1 hk
      rw [Key.point.inj hk] at hp
      exact hlive (hcreated spent hp)
    · have hpoints := Unspent.nodup_createdPoints t.hash hb
      exact List.Pairwise.map Key.point (fun _ _ hne hk => hne (Key.point.inj hk)) hpoints
  written r hr := by
    simp only [footprint, List.mem_cons, Edit.write.injEq, reduceCtorEq, List.mem_map,
      false_or] at hr
    cases hr with
    | inl hr =>
      rw [hr]
      exact hnew
    | inr hr =>
      obtain ⟨p, hp, rfl⟩ := hr
      exact hcreated p hp
  removed k hk := by
    simp only [footprint, List.mem_cons, reduceCtorEq, Edit.remove.injEq, List.mem_map, false_or,
      and_false, exists_false, or_false] at hk
    rw [hk]
    exact ⟨hlive, rfl⟩
  read k hk := by
    simp only [footprint, List.mem_cons, List.not_mem_nil, or_false] at hk
    cases hk with
    | inl hk =>
      rw [hk]
      exact .inl ⟨hlive, fun _ => by simp [footprint]⟩
    | inr hk =>
      rw [hk]
      refine .inl ⟨hsource, fun hpoint => ?_⟩
      cases spent.kind_sourceKey with
      | inl hkind => simp [hkind] at hpoint
      | inr hkind => simp [hkind] at hpoint

theorem Effect.placed (he : Effect rules block c m c') {f : Footprint} (ht : Turnover block c m f)
    (h : Intact ts c.store) (hd : Distinct ts) (hb : Bounded ts)
    (hm : ∀ t ∈ m.transactions, t ∈ ts) : Placed c.store f := by
  cases ht with
  | birth m =>
    cases he with
    | birth _ _ born fresh =>
      subst born
      exact Unspent.AccountOutput.placed fresh (h.get?_point (h.not_created_of_birth hb fresh))
  | @spend m input only =>
    cases he with
    | @spend _ input' value valid only' canonical live owned =>
      have heq : input' = input := List.singleton_inj.1 (only'.symm.trans only)
      subst heq
      have hmem : m.tx ∈ ts := hm _ (List.mem_singleton.2 rfl)
      have hfresh : ∀ u, c.store.Holds (.transaction u) → u.hash ≠ m.tx.hash := fun u hu =>
        h.fresh (hd.mono (List.cons_subset.2 ⟨hmem, List.Subset.refl ts⟩)) only live hu
      refine Transaction.placed (hb _ hmem) (h.sound.get?_transaction hfresh) ?_
        (fun hn => Store.not_holds_of_none hn rfl live) (Unspent.get?_sourceKey_of_resolve owned)
      intro p hp
      exact h.get?_point (not_created_of_fresh (hb _ hmem) hfresh hp)

/-! ## Any two messages -/

theorem Message.subject_apart {subject : Subject} (hm : m₁.subject? = some subject) {f : Footprint}
    (ht : Turnover block c m₂ f) {e : Edit} (he : e.key = subject.key) :
    Apart ⟨[subject.key], [e]⟩ f := by
  have hsubject : subject.key.kind = .contract ∨ subject.key.kind = .escrow := by
    cases m₁ <;> cases hm <;> simp [Key.kind]
  refine Apart.of_keys fun a ha b hb hab => ?_
  simp only [Footprint.keys, List.map_cons, List.map_nil, List.cons_append, List.nil_append,
    List.mem_cons, List.not_mem_nil, or_false, he, or_self] at ha
  obtain ⟨hcontract, hescrow⟩ := ht.kind_of_mem hb
  rw [← hab, ha] at hcontract hescrow
  exact hsubject.elim hcontract hescrow

/-- Two accepted messages that are accepted one after the other are accepted in the other order, to the same
effect. -/
theorem Effect.commute (ho : c.store.Orderly) (h : Intact ts c.store) (hd : Distinct ts)
    (hb : Bounded ts) (hm₁ : ∀ t ∈ m₁.transactions, t ∈ ts) (hm₂ : ∀ t ∈ m₂.transactions, t ∈ ts)
    (he₁ : Effect rules block₁ c m₁ c₁) (he₂ : Effect rules block₂ c m₂ c₂)
    (he₁₂ : Effect rules block₂ c₁ m₂ c₁₂) : Effect rules block₁ c₂ m₁ c₁₂ := by
  cases hs₁ : m₁.subject? with
  | some a =>
    obtain ⟨e, t, hkey, deed₁⟩ := he₁.subject_deed ho hs₁
    cases hs₂ : m₂.subject? with
    | some b =>
      obtain ⟨e', u, hkey', deed₂⟩ := he₂.subject_deed ho hs₂
      -- about one contract or escrow, only payments can be made before another message and after it
      by_cases hsame : a.key = b.key
      · obtain ⟨hbefore, hafter⟩ := Effect.subject_kept hs₁ hs₂ hsame he₁ he₂ he₁₂
        have hdecided := Message.decided_of_kept hs₁ (hbefore.trans hafter.symm)
        obtain ⟨p₁, rfl, hp₁⟩ := Message.eq_spendEscrow_of_decided hs₁ hdecided
        obtain ⟨p₂, rfl, hp₂⟩ :=
          Message.eq_spendEscrow_of_decided hs₂ (hbefore.symm.trans hdecided)
        have hid : p₁.id = p₂.id := Key.escrow.inj (hp₁.symm.trans (hsame.trans hp₂))
        exact Effect.payments_commute hid he₁ he₂ he₁₂
      · refine deed₁.swap deed₂ (Apart.of_keys ?_) he₁ he₂ he₁₂
        simp [Footprint.keys, hkey, hkey', hsame]
    | none =>
      obtain ⟨g, u, hturn, deed₂⟩ := he₂.turnover_deed hs₂
      exact deed₁.swap deed₂ (Message.subject_apart hs₁ hturn hkey) he₁ he₂ he₁₂
  | none =>
    obtain ⟨f, t, hturn₁, deed₁⟩ := he₁.turnover_deed hs₁
    cases hs₂ : m₂.subject? with
    | some b =>
      obtain ⟨e, u, hkey, deed₂⟩ := he₂.subject_deed ho hs₂
      exact deed₁.swap deed₂ (Message.subject_apart hs₂ hturn₁ hkey).symm he₁ he₂ he₁₂
    | none =>
      obtain ⟨g, u, hturn₂, deed₂⟩ := he₂.turnover_deed hs₂
      obtain ⟨hmoves, hstore⟩ := deed₁.only (.refl c _) he₁
      -- what the second creates must be new also where the first has been, so neither creates what the
      -- other one creates or looks at
      have hplaced := he₁₂.placed (hturn₂.congr hmoves.sequences) (he₁.intact h hd hb hm₁) hd hb hm₂
      rw [hstore] at hplaced
      have hapart := (he₁.placed hturn₁ h hd hb hm₁).apart (he₂.placed hturn₂ h hd hb hm₂) hplaced
      exact deed₁.swap deed₂ hapart he₁ he₂ he₁₂

/-- Alice and Bob get coins, and Alice turns some of hers into an outpoint. -/
def Sample.opening : List Operation := ops.take 3

/-- Alice turns more of her coins into another one. -/
def Sample.rebirth : Unspent.Birth := ⟨stake 20, alice⟩

namespace Ledger

theorem exists_accepted {x : Except Error Event × Ledger} (h : x.1.isOk) :
    ∃ event, x = (.ok event, x.2) := by
  obtain ⟨event, he⟩ := exists_ok_of_isOk h
  exact ⟨event, Prod.ext he rfl⟩

/-- Whatever has been called on a ledger before: if each of two messages is accepted when it is delivered,
and the second is accepted after the first, then the first is accepted after the second, and both orders
leave the same store and the same bank. -/
theorem deliveries_commute (rules : Rules) (ops : List Operation) (block₁ block₂ : Block)
    (m₁ m₂ : Message)
    (hd : Distinct (m₁.transactions ++ m₂.transactions ++ transactions ops))
    (hb : Bounded (m₁.transactions ++ m₂.transactions ++ transactions ops))
    {l₁ l₂ l₁₂ : Ledger} {event₁ event₂ event₁₂ : Event}
    (h₁ : deliver rules block₁ m₁ (run rules ops) = (.ok event₁, l₁))
    (h₂ : deliver rules block₂ m₂ (run rules ops) = (.ok event₂, l₂))
    (h₁₂ : deliver rules block₂ m₂ l₁ = (.ok event₁₂, l₁₂)) :
    ∃ event₂₁ l₂₁, deliver rules block₁ m₁ l₂ = (.ok event₂₁, l₂₁) ∧
      l₂₁.store = l₁₂.store ∧ l₂₁.bank = l₁₂.bank := by
  have hsound := sound_run rules ops
  have he₁ := effect_of_accept hsound (deliver_ok h₁).1
  have he₂ := effect_of_accept hsound (deliver_ok h₂).1
  have he₁₂ := effect_of_accept (he₁.sound hsound) (deliver_ok h₁₂).1
  have hintact := intact_run rules hd hb fun t ht => List.mem_append_right _ ht
  have he₂₁ := Effect.commute (orderly_run rules ops) hintact hd hb
    (fun t ht => List.mem_append_left _ (List.mem_append_left _ ht))
    (fun t ht => List.mem_append_left _ (List.mem_append_right _ ht)) he₁ he₂ he₁₂
  obtain ⟨event, hdeliver⟩ := deliver_of_effect (he₂.sound hsound) he₂₁
  exact ⟨event, _, hdeliver, rfl, rfl⟩

/-- Alice pays Bob out of one outpoint and creates another one, in either order. -/
theorem deliveries_commute_birth :
    Distinct ([Sample.payment.tx] ++ [] ++ transactions Sample.opening) ∧
    Bounded ([Sample.payment.tx] ++ [] ++ transactions Sample.opening) ∧
    ∃ (l₁ l₂ l₁₂ l₂₁ : Ledger) (event₁ event₂ event₁₂ event₂₁ : Event),
      deliver {} Sample.block (.spend Sample.payment) (run {} Sample.opening) = (.ok event₁, l₁) ∧
      deliver {} Sample.block (.birth Sample.rebirth) (run {} Sample.opening) = (.ok event₂, l₂) ∧
      deliver {} Sample.block (.birth Sample.rebirth) l₁ = (.ok event₁₂, l₁₂) ∧
      deliver {} Sample.block (.spend Sample.payment) l₂ = (.ok event₂₁, l₂₁) ∧
      l₂₁.store = l₁₂.store ∧ l₂₁.bank = l₁₂.bank := by
  have hd : Distinct ([Sample.payment.tx] ++ [] ++ transactions Sample.opening) := by
    decide +kernel
  have hb : Bounded ([Sample.payment.tx] ++ [] ++ transactions Sample.opening) := by
    decide +kernel
  obtain ⟨event₁, h₁⟩ := exists_accepted
    (x := deliver {} Sample.block (.spend Sample.payment) (run {} Sample.opening))
    (by decide +kernel)
  obtain ⟨event₂, h₂⟩ := exists_accepted
    (x := deliver {} Sample.block (.birth Sample.rebirth) (run {} Sample.opening))
    (by decide +kernel)
  obtain ⟨event₁₂, h₁₂⟩ := exists_accepted
    (x := deliver {} Sample.block (.birth Sample.rebirth)
      (deliver {} Sample.block (.spend Sample.payment) (run {} Sample.opening)).2)
    (by decide +kernel)
  obtain ⟨event₂₁, l₂₁, h₂₁, hstore, hbank⟩ := deliveries_commute {} Sample.opening Sample.block
    Sample.block (.spend Sample.payment) (.birth Sample.rebirth) hd hb h₁ h₂ h₁₂
  exact ⟨hd, hb, _, _, _, l₂₁, event₁, event₂, event₁₂, event₂₁, h₁, h₂, h₁₂, h₂₁, hstore, hbank⟩

end Ledger

end Settlement
