import Settlement.Proofs.Iteration
import Settlement.Proofs.Run

/-!
# The key space

All records lie in one store, and the names in their keys are chosen by whoever opens an escrow or pays
somebody. The key of a thing says what it is: its path says of which kind, no path begins another one, and
what is behind the path says which one of the kind. So no name, whatever it looks like, makes two things
share a key, and a listing of a path meets the things of its kind only.

Results:
* `Key.bytes_inj`: two things have one key only if they are the same thing.
* `Store.Keyed.lists`: what a listing meets in a store in which all keys are those of things.
* `Ledger.keys_never_clash`: the keys are told apart, the listings of the unspent outputs meet what they are
  for, and this is so in every run.
-/
namespace Settlement

theorem Key.bytes_inj {a b : Key} : a.bytes = b.bytes ↔ a = b :=
  ⟨bytes_injective, congrArg bytes⟩

/-- A listing in the namespace of the unspent outputs has exactly the entries under the keys that a table
gives its things. -/
def Unspent.Lists {α : Type} (s : Store) (start : Bytes) (keyOf : α → Bytes) : Prop :=
  ∀ key value, (key, value) ∈ space.iterate s start ↔
    ∃ a, key = keyOf a ∧ space.get? s (keyOf a) = some value

namespace Store

/-- Every key in the store is that of a thing the ledger keeps records about. -/
def Keyed (s : Store) : Prop := ∀ e ∈ s.entries, ∃ k : Key, e.1 = k.bytes

variable {s : Store}

theorem keyed_empty : Keyed .empty := by
  intro e he
  cases he

theorem Keyed.insert (h : s.Keyed) (k : Key) (value : Bytes) :
    Keyed (Table.insert s k.bytes value) := by
  intro e he
  rcases Table.mem_place he with rfl | he
  · exact ⟨k, rfl⟩
  · exact h e he

theorem Sound.keyed (hs : s.Sound) : s.Keyed := by
  rintro ⟨key, value⟩ he
  obtain ⟨r, hr⟩ := hs key value (Table.mem_entries_iff.1 he)
  exact ⟨r.key, (congrArg Prod.fst hr).symm⟩

/-- A listing of the path of a kind meets the keys of that kind only. -/
theorem Keyed.kind_of_mem_iterate (h : s.Keyed) {n : Namespace} {start key value : Bytes}
    {kind : Kind} (lead : kind.lead = n.full start) (listed : (key, value) ∈ n.iterate s start) :
    ∃ k : Key, k.kind = kind ∧ k.bytes = n.full key := by
  obtain ⟨begins, there⟩ := Namespace.mem_iterate.1 listed
  obtain ⟨k, hk⟩ := h (n.full key, value) (Table.mem_entries_iff.2 there)
  have path : kind.lead.isPrefixOf k.bytes = true := by
    rw [← hk, lead, List.isPrefixOf_iff_prefix]
    exact (List.prefix_append_right_inj n.path).2 begins
  exact ⟨k, Key.lead_isPrefixOf_bytes.1 path, hk.symm⟩

/-- If a table names all the keys of a kind, and all its keys begin as the kind does, its listing has exactly
the entries under them. -/
theorem Keyed.lists {α : Type} (h : s.Keyed) {start : Bytes} {keyOf : α → Bytes} (kind : Kind)
    (lead : kind.lead = Unspent.space.full start) (begins : ∀ a, start <+: keyOf a)
    (names : ∀ k : Key, k.kind = kind → ∃ a, k.bytes = Unspent.space.full (keyOf a)) :
    Unspent.Lists s start keyOf := by
  intro key value
  constructor
  · intro listed
    obtain ⟨k, hkind, hkey⟩ := h.kind_of_mem_iterate lead listed
    obtain ⟨a, ha⟩ := names k hkind
    obtain rfl : key = keyOf a := Namespace.full_inj.1 (hkey.symm.trans ha)
    exact ⟨a, rfl, (Namespace.mem_iterate.1 listed).2⟩
  · rintro ⟨a, rfl, there⟩
    exact Namespace.mem_iterate.2 ⟨begins a, there⟩

theorem Keyed.lists_accounts (h : s.Keyed) :
    Unspent.Lists s Unspent.accountKeys Unspent.accountKey := by
  refine h.lists .account rfl (fun id => List.prefix_append _ _) ?_
  rintro (id | _ | _ | _ | _) hk <;> cases hk
  exact ⟨id, rfl⟩

theorem Keyed.lists_points (h : s.Keyed) :
    Unspent.Lists s Unspent.outPointKeys Unspent.outPointKey := by
  refine h.lists .point rfl (fun p => List.prefix_append _ _) ?_
  rintro (_ | _ | p | _ | _) hk <;> cases hk
  exact ⟨p, rfl⟩

theorem Keyed.lists_transactions (h : s.Keyed) :
    Unspent.Lists s Unspent.transactionKeys Unspent.transactionKey := by
  refine h.lists .transaction rfl (fun hash => List.prefix_append _ _) ?_
  rintro (_ | hash | _ | _ | _) hk <;> cases hk
  exact ⟨hash, rfl⟩

end Store

namespace Ledger

/-- Account outputs, outpoints with any index, transactions, contracts and escrows of any name have keys of
their own, all different. In a store with such keys only, the three listings of the unspent outputs meet the
account outputs, the outpoints and the transactions, each all of its own and nothing else. And every run
leaves such a store. -/
theorem keys_never_clash (rules : Rules) (ops : List Operation) :
    (∀ a b : Key, a.bytes = b.bytes ↔ a = b) ∧
    (∀ s : Store, s.Keyed → Unspent.Lists s Unspent.accountKeys Unspent.accountKey ∧
      Unspent.Lists s Unspent.outPointKeys Unspent.outPointKey ∧
      Unspent.Lists s Unspent.transactionKeys Unspent.transactionKey) ∧
    (run rules ops).store.Keyed :=
  ⟨fun _ _ => Key.bytes_inj, fun _ h => ⟨h.lists_accounts, h.lists_points, h.lists_transactions⟩,
    (sound_run rules ops).keyed⟩

/-- Something of every kind under the digest of zeros, and an escrow that is named like the path to an
account output. -/
def crowded : Store :=
  let s := Table.insert .empty (Key.account .zero).bytes [1]
  let s := Table.insert s (Key.point ⟨.zero, -2147483648⟩).bytes [2]
  let s := Table.insert s (Key.transaction .zero).bytes [3]
  let s := Table.insert s (Key.contract .zero).bytes [4]
  Table.insert s (Key.escrow ⟨"/../utxo/acc/00"⟩).bytes [5]

/-- The escrow is not among the account outputs. -/
theorem keys_never_clash_crowded :
    crowded.Keyed ∧
    (Unspent.accountKey .zero, [1]) ∈ Unspent.space.iterate crowded Unspent.accountKeys ∧
    ∀ key, (key, [5]) ∉ Unspent.space.iterate crowded Unspent.accountKeys := by
  have keyed : crowded.Keyed :=
    ((((Store.keyed_empty.insert _ _).insert _ _).insert _ _).insert _ _).insert _ _
  obtain ⟨apart, lists, -⟩ := keys_never_clash {} []
  have accounts := (lists crowded keyed).1
  refine ⟨keyed, (accounts _ _).2 ⟨.zero, rfl, by decide +kernel⟩, fun key listed => ?_⟩
  obtain ⟨id, -, there⟩ := (accounts _ _).1 listed
  change crowded.get? (Key.account id).bytes = some [5] at there
  simp only [crowded, Table.get?_insert, apart, reduceCtorEq, if_false] at there
  split at there <;> cases there

end Ledger

end Settlement
