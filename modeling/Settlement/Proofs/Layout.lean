import Settlement.Proofs.History

/-!
# What the layout of a transaction says

The layout is a row of fields with nothing between them. Each field has a fixed width or comes after its
length, and each of the two lists comes after its count, so that what has been read so far tells how far
the next field goes: a field at the head of a row is known, and so is what is left of the row. From there
the two lists follow by induction, as their counts are the same. What the layout does not have is the
witnesses, and counts and lengths that do not fit their four bytes.

Results:
* `outputLayout_append_inj`: an output at the head of a row is known, with its condition of any length.
* `flatMap_append_inj`: so is a list of such fields whose count is known.
* `Transaction.layout_unsigned`: the layout has no witnesses.
* `Transaction.layout_eq_iff`: which transactions have one layout.
* `Distinct.of_layouts`: the only way for transactions not to be distinct is a collision of their hash.
-/
namespace Settlement

/-! ## Fields -/

theorem Bytes.bigEndian_injective {width m n : Nat} (hm : m < Nat.pow 256 width)
    (hn : n < Nat.pow 256 width) (h : bigEndian width m = bigEndian width n) : m = n := by
  rw [← ofBigEndian_bigEndian hm, h, ofBigEndian_bigEndian hn]

/-- A number at the head of a row is known, and so is the rest of the row. -/
theorem Bytes.bigEndian_append_inj {width m n : Nat} {r s : Bytes} (hm : m < Nat.pow 256 width)
    (hn : n < Nat.pow 256 width) (h : bigEndian width m ++ r = bigEndian width n ++ s) :
    m = n ∧ r = s := by
  obtain ⟨hnumber, hrest⟩ := List.append_inj h (by simp)
  exact ⟨bigEndian_injective hm hn hnumber, hrest⟩

/-- What is signed of an input. -/
def Input.signed (i : Input) : OutPoint × UInt32 := (i.point, i.sequence)

theorem length_inputLayout (i : Input) : (Transaction.inputLayout i).length = 40 := by
  simp [Transaction.inputLayout, i.point.source.length_bytes]

/-- The layout of an input says what is signed of it, and nothing else. -/
theorem inputLayout_eq_iff {i j : Input} :
    Transaction.inputLayout i = Transaction.inputLayout j ↔ i.signed = j.signed := by
  obtain ⟨⟨source, index⟩, witness, sequence⟩ := i
  obtain ⟨⟨source', index'⟩, witness', sequence'⟩ := j
  simp only [Input.signed, Transaction.inputLayout, Prod.mk.injEq, OutPoint.mk.injEq]
  constructor
  · intro h
    obtain ⟨h, hsequence⟩ := List.append_inj' h (by simp)
    obtain ⟨hsource, hindex⟩ := List.append_inj' h (by simp)
    have hi := Bytes.bigEndian_injective index.toUInt32.toNat_lt index'.toUInt32.toNat_lt hindex
    have hs := Bytes.bigEndian_injective sequence.toNat_lt sequence'.toNat_lt hsequence
    exact ⟨⟨Digest.ext hsource, congrArg Int32.ofUInt32 (UInt32.toNat_inj.1 hi)⟩,
      UInt32.toNat_inj.1 hs⟩
  · rintro ⟨⟨rfl, rfl⟩, rfl⟩
    rfl

theorem inputLayout_append_inj {i j : Input} {r s : Bytes}
    (h : Transaction.inputLayout i ++ r = Transaction.inputLayout j ++ s) :
    i.signed = j.signed ∧ r = s := by
  obtain ⟨hinput, hrest⟩ := List.append_inj h (by rw [length_inputLayout, length_inputLayout])
  exact ⟨inputLayout_eq_iff.1 hinput, hrest⟩

/-- The length before a condition tells where it ends. -/
theorem outputLayout_append_inj {o p : Output} {r s : Bytes} (ho : o.condition.length < UInt32.size)
    (hp : p.condition.length < UInt32.size)
    (h : Transaction.outputLayout o ++ r = Transaction.outputLayout p ++ s) : o = p ∧ r = s := by
  obtain ⟨value, condition⟩ := o
  obtain ⟨value', condition'⟩ := p
  simp only [Transaction.outputLayout, List.append_assoc] at h
  obtain ⟨hvalue, h⟩ := Bytes.bigEndian_append_inj value.toNat_lt value'.toNat_lt h
  obtain ⟨hlength, h⟩ := Bytes.bigEndian_append_inj ho hp h
  obtain ⟨hcondition, hrest⟩ := List.append_inj h hlength
  exact ⟨by rw [UInt64.toNat_inj.1 hvalue, hcondition], hrest⟩

/-! ## Lists of fields -/

/-- If one field at the head of a row is known, with the rest of the row, then so is a list of as many of
them as the count says. -/
theorem flatMap_append_inj {α γ : Type} {f : α → Bytes} {g : α → γ} {l m : List α} {r s : Bytes}
    (known : ∀ a ∈ l, ∀ b ∈ m, ∀ r s, f a ++ r = f b ++ s → g a = g b ∧ r = s)
    (count : l.length = m.length) (h : l.flatMap f ++ r = m.flatMap f ++ s) :
    l.map g = m.map g ∧ r = s := by
  induction l generalizing m with
  | nil =>
    obtain rfl : m = [] := List.length_eq_zero_iff.1 count.symm
    exact ⟨rfl, h⟩
  | cons a l ih =>
    cases m with
    | nil => cases count
    | cons b m =>
      rw [List.flatMap_cons, List.flatMap_cons, List.append_assoc, List.append_assoc] at h
      obtain ⟨hhead, h⟩ := known a List.mem_cons_self b List.mem_cons_self _ _ h
      obtain ⟨htail, hrest⟩ := ih (fun a ha b hb => known a (.tail _ ha) b (.tail _ hb))
        (Nat.succ.inj count) h
      exact ⟨by rw [List.map_cons, List.map_cons, hhead, htail], hrest⟩

theorem flatMap_inputLayout_eq_iff {l m : List Input} (h : l.length = m.length) :
    l.flatMap Transaction.inputLayout = m.flatMap Transaction.inputLayout ↔
      l.map Input.signed = m.map Input.signed := by
  -- an input has the layout of what is signed of it
  have hsigned : ∀ l : List Input, l.flatMap Transaction.inputLayout =
      (l.map Input.signed).flatMap fun x => Transaction.inputLayout ⟨x.1, [], x.2⟩ := by
    intro l
    rw [List.flatMap_map]
    rfl
  constructor
  · intro he
    rw [← List.append_nil (l.flatMap _), ← List.append_nil (m.flatMap _)] at he
    exact (flatMap_append_inj (fun _ _ _ _ _ _ => inputLayout_append_inj) h he).1
  · intro he
    rw [hsigned l, hsigned m, he]

/-! ## Transactions -/

namespace Transaction

theorem layout_unsigned (t : Transaction) : t.unsigned.layout = t.layout := by
  have h : t.unsigned.inputs.flatMap inputLayout = t.inputs.flatMap inputLayout := by
    rw [unsigned, List.flatMap_map]
    rfl
  rw [layout, layout, h]
  simp [unsigned]

/-- All that the layout counts or measures fits the four bytes that it has for it. -/
structure Fits (t : Transaction) : Prop where
  inputs : t.inputs.length < UInt32.size
  outputs : t.outputs.length < UInt32.size
  conditions : ∀ o ∈ t.outputs, o.condition.length < UInt32.size

variable {t u : Transaction}

/-- Reading a layout from its head gives the fields of the transaction one after the other. -/
theorem Fits.parts_of_layout_eq (ht : t.Fits) (hu : u.Fits) (h : t.layout = u.layout) :
    t.lockTime = u.lockTime ∧ t.outputs = u.outputs ∧
      t.inputs.map Input.signed = u.inputs.map Input.signed := by
  simp only [layout, List.append_assoc] at h
  obtain ⟨hlock, h⟩ := Bytes.bigEndian_append_inj t.lockTime.toNat_lt u.lockTime.toNat_lt h
  obtain ⟨hcount, h⟩ := Bytes.bigEndian_append_inj ht.inputs hu.inputs h
  obtain ⟨hinputs, h⟩ := flatMap_append_inj (fun _ _ _ _ _ _ => inputLayout_append_inj) hcount h
  obtain ⟨hcount, h⟩ := Bytes.bigEndian_append_inj ht.outputs hu.outputs h
  rw [← List.append_nil (t.outputs.flatMap _), ← List.append_nil (u.outputs.flatMap _)] at h
  have houtputs := (flatMap_append_inj (g := id) (fun o ho p hp _ _ =>
    outputLayout_append_inj (ht.conditions o ho) (hu.conditions p hp)) hcount h).1
  rw [List.map_id, List.map_id] at houtputs
  exact ⟨UInt32.toNat_inj.1 hlock, houtputs, hinputs⟩

/-- Two transactions that fit have one layout exactly if they have the same lock time and, in the same
order, the same outputs and the same inputs but for their witnesses. -/
theorem layout_eq_iff (ht : t.Fits) (hu : u.Fits) :
    t.layout = u.layout ↔
      t.lockTime = u.lockTime ∧ t.outputs = u.outputs ∧
        t.inputs.map Input.signed = u.inputs.map Input.signed := by
  refine ⟨ht.parts_of_layout_eq hu, ?_⟩
  rintro ⟨hlock, houtputs, hinputs⟩
  have hcount : t.inputs.length = u.inputs.length := by
    simpa using congrArg List.length hinputs
  rw [layout, layout, hlock, houtputs, hcount, (flatMap_inputLayout_eq_iff hcount).2 hinputs]

/-- Takes one outpoint and pays two outputs, the first with a condition of one byte and the second with
none. -/
def split : Transaction where
  inputs := [{ point := ⟨.zero, 0⟩ }]
  outputs := [⟨1, [2]⟩, ⟨3, []⟩]

/-- With another witness the transaction has the layout it had; with the byte in the other condition it
has another layout. -/
theorem layout_eq_iff_split :
    split.Fits ∧
    split.layout = layout { split with inputs := [{ point := ⟨.zero, 0⟩, witness := [1] }] } ∧
    split.layout ≠ layout { split with outputs := [⟨1, []⟩, ⟨3, [2]⟩] } := by
  have hsplit : split.Fits := ⟨by decide, by decide, by decide⟩
  have hwitness : Fits { split with inputs := [{ point := ⟨.zero, 0⟩, witness := [1] }] } :=
    ⟨by decide, by decide, by decide⟩
  have hmoved : Fits { split with outputs := [⟨1, []⟩, ⟨3, [2]⟩] } :=
    ⟨by decide, by decide, by decide⟩
  refine ⟨hsplit, (layout_eq_iff hsplit hwitness).2 ⟨rfl, rfl, rfl⟩, fun h => ?_⟩
  obtain ⟨-, houtputs, -⟩ := (layout_eq_iff hsplit hmoved).1 h
  exact absurd houtputs (by decide)

end Transaction

theorem Distinct.of_layouts {ts : List Transaction} (fits : ∀ t ∈ ts, t.Fits)
    (apart : ∀ t ∈ ts, ∀ u ∈ ts, t.hash = u.hash → t.layout = u.layout) : Distinct ts := by
  intro t ht u hu hhash
  obtain ⟨hlock, houtputs, hinputs⟩ :=
    (fits t ht).parts_of_layout_eq (fits u hu) (apart t ht u hu hhash)
  -- an input without its witness is what is signed of it
  have hsigned : ∀ v : Transaction, v.unsigned.inputs =
      (v.inputs.map Input.signed).map fun x => ⟨x.1, [], x.2⟩ := by
    intro v
    rw [List.map_map]
    rfl
  calc t.unsigned = ⟨t.unsigned.inputs, t.outputs, t.lockTime⟩ := rfl
    _ = ⟨u.unsigned.inputs, u.outputs, u.lockTime⟩ := by
      rw [hsigned, hsigned, hinputs, houtputs, hlock]
    _ = u.unsigned := rfl

end Settlement
