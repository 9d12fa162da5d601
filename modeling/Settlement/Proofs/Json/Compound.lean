import Mathlib.Data.List.Basic
import Settlement.Proofs.Json.Scalar

/-!
# Lists, records and unions are read back

What is made up of values with faithful codecs is read back from the written forms of these, one after the
other.

Results:
* `listCodec_faithful`, `pairCodec_faithful`: lists and pairs are as faithful as their elements.
* `recordCodec_faithful`: a record is as faithful as its fields, if their names differ.
* `unionCodec_faithful`: a union is faithful if its variants are.
-/
namespace Settlement.Json

/-!
## Lists and pairs

The elements of a list are read one by one, so its round trip is an induction over the elements with the
elements already read as accumulator (`readElements_more`). The loop takes one turn for each element and
one for the closing bracket, and every element is at least a byte long, so the limit is enough.
-/

section Lists

variable {α β : Type}

/-! ### Finding the next element -/

theorem nextElement_first {text : Bytes} (h : Opens text) : nextElement true text = .ok (some text) := by
  have hs := h.skipBlank
  obtain ⟨b, more, rfl, -, hc⟩ := h
  simp only [nextElement, hs, if_neg hc, if_true]

theorem nextElement_comma {text : Bytes} (h : Opens text) :
    nextElement false (Mark.comma.byte :: text) = .ok (some text) := by
  have hs := h.skipBlank
  obtain ⟨b, more, rfl, -, hc⟩ := h
  have hm : Mark.comma.byte ≠ Mark.closeList.byte := by decide
  simp only [nextElement, skipBlank_mark, if_neg hm, Bool.false_eq_true, if_false, if_true, hs,
    if_neg hc]

theorem nextElement_close (first : Bool) (rest : Bytes) :
    nextElement first (Mark.closeList.byte :: rest) = .ok none := by
  simp only [nextElement, skipBlank_mark, if_true]

/-! ### Lists -/

theorem ends_writeMore (c : Codec α) (values : List α) (rest : Bytes) :
    Ends (writeMore c values ++ Mark.closeList.byte :: rest) := by
  cases values with
  | nil => exact ends_closeList rest
  | cons a values => exact ends_comma _

theorem length_le_writeMore (c : Codec α) (values : List α) :
    values.length ≤ (writeMore c values).length := by
  induction values with
  | nil => simp
  | cons a values ih =>
    simp only [writeMore, List.flatMap_cons, List.length_append, List.length_cons] at ih ⊢
    omega

theorem length_write_le_writeMore (c : Codec α) {values : List α} {a : α} (h : a ∈ values) :
    (c.write a).length < (writeMore c values).length := by
  induction values with
  | nil => cases h
  | cons b values ih =>
    simp only [writeMore, List.flatMap_cons, List.length_append, List.length_cons] at ih ⊢
    rcases List.mem_cons.1 h with rfl | h
    · omega
    · have := ih h
      omega

/-- The elements that follow are appended to those already read. -/
theorem readElements_more {c : Codec α} (hc : c.Faithful) {limit : Nat} {values : List α}
    (hl : ∀ a ∈ values, (c.write a).length < limit) {turns : Nat} (ht : values.length < turns)
    (done : List α) (rest : Bytes) :
    readElements (c.read limit) turns false done
      (writeMore c values ++ Mark.closeList.byte :: rest) = .ok (done.reverse ++ values, rest) := by
  induction values generalizing turns done with
  | nil =>
    obtain ⟨turns, rfl⟩ : ∃ n, turns = n + 1 := ⟨turns - 1, by omega⟩
    simp only [writeMore, List.flatMap_nil, List.nil_append, readElements, nextElement_close,
      expectMark_self, List.append_nil]
  | cons a values ih =>
    obtain ⟨turns, rfl⟩ : ∃ n, turns = n + 1 := ⟨turns - 1, by omega⟩
    have hr := hc.reads a limit _ (ends_writeMore c values rest) (hl a (by simp))
    have ht' : values.length < turns := by
      simp only [List.length_cons] at ht
      omega
    have hm := ih (fun b hb => hl b (by simp [hb])) ht' (a :: done)
    have hn := nextElement_comma ((hc.opens a).append (writeMore c values ++ Mark.closeList.byte :: rest))
    have hw : writeMore c (a :: values) ++ Mark.closeList.byte :: rest =
        Mark.comma.byte :: (c.write a ++ (writeMore c values ++ Mark.closeList.byte :: rest)) := by
      simp only [writeMore, List.flatMap_cons, List.cons_append, List.append_assoc]
    rw [hw, readElements]
    simp only [hn, hr, hm, List.reverse_cons, List.append_assoc, List.singleton_append]

theorem listCodec_faithful {c : Codec α} (hc : c.Faithful) : (listCodec c).Faithful where
  opens values := opens_mark (by decide) _
  reads values limit rest _ hl := by
    have hw : (listCodec c).write values ++ rest =
        Mark.openList.byte :: (writeElements c values ++ Mark.closeList.byte :: rest) := by
      simp only [listCodec, List.cons_append, List.append_assoc, List.nil_append]
    rw [hw]
    simp only [listCodec, List.length_append, List.length_cons, List.length_nil] at hl ⊢
    simp only [skipBlank_mark, if_true]
    cases values with
    | nil =>
      obtain ⟨turns, rfl⟩ : ∃ n, limit = n + 1 := ⟨limit - 1, by omega⟩
      simp only [writeElements, List.nil_append, readElements, nextElement_close, expectMark_self,
        List.reverse_nil]
    | cons a values =>
      obtain ⟨turns, rfl⟩ : ∃ n, limit = n + 1 := ⟨limit - 1, by omega⟩
      simp only [writeElements, List.length_append] at hl
      have ho := (hc.opens a).length_pos
      have hv := length_le_writeMore c values
      have hr := hc.reads a (turns + 1) _ (ends_writeMore c values rest) (by omega)
      have hlen : ∀ b ∈ values, (c.write b).length < turns + 1 := by
        intro b hb
        have := length_write_le_writeMore c hb
        omega
      have hm := readElements_more hc hlen (show values.length < turns by omega) [a] rest
      have hn := nextElement_first ((hc.opens a).append (writeMore c values ++ Mark.closeList.byte :: rest))
      rw [writeElements, List.append_assoc, readElements]
      simp only [hn, hr, hm, List.reverse_singleton, List.singleton_append]

/-! ### Pairs -/

theorem pairCodec_faithful {c : Codec α} {d : Codec β} (hc : c.Faithful) (hd : d.Faithful) :
    (pairCodec c d).Faithful where
  opens p := opens_mark (by decide) _
  reads p limit rest _ hl := by
    obtain ⟨a, b⟩ := p
    simp only [pairCodec, List.length_append, List.length_cons, List.length_nil] at hl
    have hw : (pairCodec c d).write (a, b) ++ rest = Mark.openList.byte ::
        (c.write a ++ (Mark.comma.byte :: (d.write b ++ Mark.closeList.byte :: rest))) := by
      simp only [pairCodec, List.cons_append, List.append_assoc, List.nil_append]
    have ha := hc.reads a limit _ (ends_comma (d.write b ++ Mark.closeList.byte :: rest)) (by omega)
    have hb := hd.reads b limit _ (ends_closeList rest) (by omega)
    have na := nextElement_first
      ((hc.opens a).append (Mark.comma.byte :: (d.write b ++ Mark.closeList.byte :: rest)))
    have nb := nextElement_comma ((hd.opens b).append (Mark.closeList.byte :: rest))
    rw [hw]
    simp only [pairCodec, skipBlank_mark, if_true, readHalf, na, ha, nb, hb, expectMark_self, bind,
      Except.bind, decide_true, Nat.one_ne_zero, decide_false]
    rfl

end Lists

/-!
## Records

A record is written with all its fields in order, so while it is read from there the first fields have
been filled and the others are vacant: `filled n` is the row of slots after `n` members. One member takes
`filled n` to `filled (n + 1)` (`readMember_filled`), because no earlier field has its name; from this the
round trip is an induction on the number of members that are left.
-/

namespace Fields

def names {ρ σ : Type} : Fields ρ σ → List String
  | done => []
  | field name _ _ more => name :: more.names

/-- Every field has a faithful codec and a name of its own. -/
def Faithful {ρ σ : Type} : Fields ρ σ → Prop
  | done => True
  | field name codec _ more => codec.Faithful ∧ name ∉ more.names ∧ more.Faithful

/-- The slots when the first `n` members have been read. -/
def filled {ρ σ : Type} : Fields ρ σ → Nat → ρ → σ
  | done, _, () => ()
  | field _ _ _ more, 0, (_, values) => (none, more.filled 0 values)
  | field _ _ _ more, n + 1, (a, values) => (some a, more.filled n values)

/-- The members from number `n` on, each behind a comma. -/
def writeFrom {ρ σ : Type} : Fields ρ σ → Nat → ρ → Bytes
  | done, _, () => []
  | field name codec _ more, 0, (a, values) =>
    Mark.comma.byte :: writeMember name codec a ++ more.writeFrom 0 values
  | field _ _ _ more, n + 1, (_, values) => more.writeFrom n values

variable {ρ σ : Type}

theorem filled_zero (fields : Fields ρ σ) (values : ρ) : fields.filled 0 values = fields.vacant := by
  induction fields with
  | done => rfl
  | field name codec fallback more ih => simp only [filled, vacant, ih]

theorem complete_filled (fields : Fields ρ σ) (values : ρ) :
    fields.complete (fields.filled fields.count values) = .ok values := by
  induction fields with
  | done => rfl
  | field name codec fallback more ih =>
    simp only [count, filled, complete, ih, bind, Except.bind]
    rfl

theorem writeFrom_zero (fields : Fields ρ σ) (values : ρ) :
    fields.writeFrom 0 values = fields.writeMore values := by
  induction fields with
  | done => rfl
  | field name codec fallback more ih => simp only [writeFrom, writeMore, ih]

theorem writeFrom_count (fields : Fields ρ σ) (values : ρ) :
    fields.writeFrom fields.count values = [] := by
  induction fields with
  | done => rfl
  | field name codec fallback more ih => exact ih values.2

theorem writeMore_eq (fields : Fields ρ σ) (values : ρ) :
    0 < fields.count → fields.writeMore values = Mark.comma.byte :: fields.write values := by
  cases fields with
  | done => intro h; exact absurd h (by decide)
  | field name codec fallback more =>
    intro _
    simp only [writeMore, write, List.cons_append]

theorem count_le_writeFrom (fields : Fields ρ σ) (n : Nat) (values : ρ) :
    fields.count ≤ n + (fields.writeFrom n values).length := by
  induction fields generalizing n with
  | done => simp [count]
  | field name codec fallback more ih =>
    cases n with
    | zero =>
      have := ih 0 values.2
      simp only [count, writeFrom, List.cons_append, List.length_cons, List.length_append]
      omega
    | succ n =>
      have := ih n values.2
      simp only [count, writeFrom]
      omega

/-- The member that is next fills the next slot. -/
theorem readMember_filled {fields : Fields ρ σ} (hf : fields.Faithful) {n : Nat}
    (hn : n < fields.count) (values : ρ) {limit : Nat}
    (hl : (fields.writeFrom n values).length < limit) :
    ∃ name ∈ fields.names, ∃ text,
      fields.writeFrom n values =
        Mark.comma.byte :: (writeText name ++ Mark.colon.byte :: text) ++
          fields.writeFrom (n + 1) values ∧
      ∀ rest, Ends rest →
        fields.readMember limit name (fields.filled n values) (Mark.colon.byte :: (text ++ rest)) =
          .ok (fields.filled (n + 1) values, rest) := by
  induction fields generalizing n with
  | done => exact absurd hn (Nat.not_lt_zero n)
  | field name codec fallback more ih =>
    obtain ⟨hc, hnew, hm⟩ := hf
    obtain ⟨a, values⟩ := values
    cases n with
    | zero =>
      refine ⟨name, by simp [names], codec.write a, ?_, ?_⟩
      · simp only [writeFrom, writeMember]
      · intro rest hrest
        simp only [writeFrom, writeMember, List.length_append, List.length_cons] at hl
        have hr := hc.reads a limit rest hrest (by omega)
        simp only [readMember, filled, if_true, expectMark_self, hr, bind, Except.bind]
        rfl
    | succ n =>
      obtain ⟨key, hk, text, hw, hr⟩ := ih hm (n := n) (Nat.lt_of_succ_lt_succ hn) values hl
      -- names do not recur, so the member is not taken for this field's
      have hne : key ≠ name := by
        rintro rfl
        exact hnew hk
      refine ⟨key, by simp [names, hk], text, hw, ?_⟩
      intro rest hrest
      simp only [readMember, filled, if_neg hne, hr rest hrest, bind, Except.bind]
      rfl

/-- A turn of the loop reads a key and the member behind it. -/
theorem readMembers_member (fields : Fields ρ σ) (limit turns : Nat) (first : Bool) (slots : σ)
    (name : String) (tail : Bytes) :
    fields.readMembers limit (turns + 1) first slots
        ((if first then [] else [Mark.comma.byte]) ++ (writeText name ++ tail)) =
      (fields.readMember limit name slots tail >>= fun r =>
        fields.readMembers limit turns false r.1 r.2) := by
  have hq : Mark.quote.byte ≠ Mark.closeObject.byte := by decide
  have hc : Mark.comma.byte ≠ Mark.closeObject.byte := by decide
  rw [writeText_append, readMembers]
  cases first with
  | true =>
    simp only [if_true, List.nil_append, skipBlank_mark, if_neg hq, expectMark_self,
      readTextBody_escaped, bind, Except.bind, pure, Except.pure]
  | false =>
    simp only [Bool.false_eq_true, if_false, List.singleton_append, skipBlank_mark, if_neg hc,
      expectMark_self, readTextBody_escaped, bind, Except.bind]

theorem ends_writeFrom (fields : Fields ρ σ) (n : Nat) (values : ρ) (rest : Bytes) :
    Ends (fields.writeFrom n values ++ Mark.closeObject.byte :: rest) := by
  induction fields generalizing n with
  | done => exact ends_closeObject rest
  | field name codec fallback more ih =>
    cases n with
    | zero => exact ends_comma _
    | succ n => exact ih n values.2

/-- The members that are left fill the slots that are left. -/
theorem readMembers_filled {fields : Fields ρ σ} (hf : fields.Faithful) (values : ρ) {limit : Nat}
    (rest : Bytes) {turns n : Nat} (hn : n ≤ fields.count) (ht : fields.count - n < turns)
    (hl : (fields.writeFrom n values).length < limit) :
    fields.readMembers limit turns false (fields.filled n values)
        (fields.writeFrom n values ++ Mark.closeObject.byte :: rest) =
      .ok (fields.filled fields.count values, rest) := by
  induction turns generalizing n with
  | zero => omega
  | succ turns ih =>
    by_cases hlast : n = fields.count
    · subst hlast
      rw [writeFrom_count, List.nil_append, readMembers]
      simp only [skipBlank_mark, if_true]
    · obtain ⟨name, -, text, hw, hr⟩ := readMember_filled hf (by omega) values hl
      have hnext := ih (n := n + 1) (by omega) (by omega) (by
        rw [hw] at hl
        simp only [List.length_append, List.length_cons] at hl
        omega)
      have hturn := readMembers_member fields limit turns false (fields.filled n values) name
        (Mark.colon.byte :: (text ++
          (fields.writeFrom (n + 1) values ++ Mark.closeObject.byte :: rest)))
      rw [hr _ (ends_writeFrom fields (n + 1) values rest)] at hturn
      rw [hw]
      simp only [Bool.false_eq_true, if_false, List.nil_append, List.cons_append,
        List.append_assoc, bind, Except.bind] at hturn ⊢
      rw [hturn, hnext]

theorem readMembers_write {fields : Fields ρ σ} (hf : fields.Faithful) (values : ρ) {limit : Nat}
    (rest : Bytes) (hl : (fields.write values).length + 1 < limit) :
    fields.readMembers limit limit true fields.vacant
        (fields.write values ++ Mark.closeObject.byte :: rest) =
      .ok (fields.filled fields.count values, rest) := by
  obtain ⟨turns, rfl⟩ : ∃ n, limit = n + 1 := ⟨limit - 1, by omega⟩
  by_cases hz : fields.count = 0
  · cases fields with
    | done =>
      rw [write, List.nil_append, readMembers]
      simp only [skipBlank_mark, if_true]
    | field => exact absurd hz (Nat.succ_ne_zero _)
  · have hall := writeFrom_zero fields values
    rw [writeMore_eq fields values (by omega)] at hall
    have hlen : (fields.writeFrom 0 values).length < turns + 1 := by
      rw [hall, List.length_cons]
      omega
    have hcount := count_le_writeFrom fields 0 values
    -- the first member has no comma before it, so its turn is taken apart from the others
    obtain ⟨name, -, text, hw, hr⟩ := readMember_filled hf (n := 0) (by omega) values hlen
    rw [Nat.zero_add] at hw hr
    have hlen' : (fields.writeFrom 1 values).length < turns + 1 := by
      rw [hw] at hlen
      simp only [List.length_append, List.length_cons] at hlen
      omega
    have hnext := readMembers_filled hf values rest (by omega)
      (show fields.count - 1 < turns by omega) hlen'
    have hturn := readMembers_member fields (turns + 1) turns true (fields.filled 0 values) name
      (Mark.colon.byte :: (text ++ (fields.writeFrom 1 values ++ Mark.closeObject.byte :: rest)))
    rw [hr _ (ends_writeFrom fields 1 values rest)] at hturn
    rw [hall, List.cons_append, List.cons.injEq] at hw
    rw [hw.2, ← filled_zero fields values]
    simp only [if_true, List.nil_append, List.cons_append, List.append_assoc, bind,
      Except.bind] at hturn ⊢
    rw [hturn, hnext]

end Fields

theorem recordCodec_faithful {α ρ σ : Type} {name : String} {fields : Fields ρ σ} {toRow : α → ρ}
    {ofRow : ρ → α} (hf : fields.Faithful) (back : ∀ a, ofRow (toRow a) = a) :
    (recordCodec name fields toRow ofRow).Faithful where
  opens a := opens_mark (by decide) _
  reads a limit rest _ hl := by
    have hw : (recordCodec name fields toRow ofRow).write a ++ rest =
        Mark.openObject.byte :: (fields.write (toRow a) ++ Mark.closeObject.byte :: rest) := by
      simp only [recordCodec, List.cons_append, List.append_assoc, List.nil_append]
    simp only [recordCodec, List.length_append, List.length_cons, List.length_nil] at hl
    have hr := Fields.readMembers_write hf (toRow a) rest
      (show (fields.write (toRow a)).length + 1 < limit by omega)
    rw [hw]
    simp only [recordCodec, skipBlank_mark, if_true, hr, bind, Except.bind, Fields.complete_filled,
      back]
    rfl

/-!
## Unions

A value is written by the first variant that it is of, and the name written there leads the reader back
to that variant, because no two variants have one name.
-/

namespace Variant

variable {α : Type}

/-- What a variant says it holds, it holds, and a value it carries is read back. -/
def Faithful : Variant α → Prop
  | bare _ value is => ∀ a, is a = true → a = value
  | carrying _ codec wrap unwrap? => codec.Faithful ∧ ∀ a b, unwrap? a = some b → wrap b = a

theorem bare_faithful [DecidableEq α] (name : String) (value : α) :
    (bare name value (· = value)).Faithful :=
  fun _ ha => of_decide_eq_true ha

theorem find?_name {variants : List (Variant α)} (hn : (variants.map name).Nodup) {v : Variant α}
    (hv : v ∈ variants) : find? variants v.name = some v := by
  induction variants with
  | nil => cases hv
  | cons w variants ih =>
    simp only [List.map_cons, List.nodup_cons] at hn
    rw [find?, List.find?_cons]
    rcases List.mem_cons.1 hv with rfl | hv
    · simp
    · have hne : w.name ≠ v.name := by
        intro he
        exact hn.1 (he ▸ List.mem_map_of_mem hv)
      simp only [hne, decide_false]
      exact ih hn.2 hv

/-- What a variant writes, at the front of a text: its plain name, or its name and what it carries. -/
theorem write?_cases {v : Variant α} (hv : v.Faithful) {a : α} {text : Bytes}
    (h : v.write? a = some text) :
    (text = writeText v.name ∧ v.readPlain = .ok a) ∨
      ∃ content : Bytes,
        text = Mark.openObject.byte :: (writeText v.name ++ Mark.colon.byte :: content)
          ++ [Mark.closeObject.byte] ∧
        ∀ limit rest, Ends rest → content.length < limit →
          v.readContent limit (content ++ rest) = .ok (a, rest) := by
  cases v with
  | bare name value is =>
    simp only [write?] at h
    split at h
    · rename_i ha
      cases h
      rw [hv a ha]
      exact .inl ⟨rfl, rfl⟩
    · cases h
  | carrying name codec wrap unwrap? =>
    simp only [write?, Option.map_eq_some_iff] at h
    obtain ⟨b, hb, rfl⟩ := h
    refine .inr ⟨codec.write b, rfl, ?_⟩
    intro limit rest hrest hl
    simp only [readContent, hv.1.reads b limit rest hrest hl, bind, Except.bind, hv.2 a b hb]
    rfl

end Variant

/-- A union whose variants have names of their own and cover all values is as faithful as they are. -/
theorem unionCodec_faithful {α : Type} {variants : List (Variant α)}
    (names : (variants.map Variant.name).Nodup) (each : variants.Forall Variant.Faithful)
    (all : ∀ a, (variants.findSome? fun v => v.write? a).isSome) :
    (unionCodec variants).Faithful := by
  rw [List.forall_iff_forall_mem] at each
  have hwrite : ∀ a, ∃ v ∈ variants, v.write? a = some ((unionCodec variants).write a) := by
    intro a
    obtain ⟨text, ht⟩ := Option.isSome_iff_exists.1 (all a)
    obtain ⟨v, hv, hw⟩ := List.exists_of_findSome?_eq_some ht
    refine ⟨v, hv, ?_⟩
    simp only [unionCodec, ht, Option.getD_some, hw]
  refine ⟨fun a => ?_, fun a limit rest hrest hl => ?_⟩
  · obtain ⟨v, hv, hw⟩ := hwrite a
    rcases Variant.write?_cases (each v hv) hw with ⟨ht, -⟩ | ⟨content, ht, -⟩
    · rw [ht]
      exact opens_writeText v.name
    · rw [ht]
      exact opens_mark (by decide) _
  · obtain ⟨v, hv, hw⟩ := hwrite a
    have hq : Mark.quote.byte ≠ Mark.openObject.byte := by decide
    rcases Variant.write?_cases (each v hv) hw with ⟨ht, hp⟩ | ⟨content, ht, hr⟩
    · rw [ht, writeText_append]
      simp only [unionCodec, skipBlank_mark, if_neg hq, if_true, readTextBody_escaped,
        Variant.find?_name names hv, hp, bind, Except.bind, pure, Except.pure]
    · have hc := hr limit (Mark.closeObject.byte :: rest) (ends_closeObject rest) (by
        rw [ht] at hl
        simp only [List.length_append, List.length_cons] at hl
        omega)
      rw [ht]
      simp only [List.cons_append, List.append_assoc, List.nil_append, writeText_append, unionCodec,
        skipBlank_mark, if_true, expectMark_self, readTextBody_escaped, Variant.find?_name names hv,
        hc, bind, Except.bind, pure, Except.pure]

end Settlement.Json
