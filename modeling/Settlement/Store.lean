import Settlement.Table
import Settlement.Transaction

/-!
# The store, its namespaces and its records

The store maps byte keys to byte values. A part of the ledger sees only its own namespace: all its keys
get the namespace's path in front, and what it lists comes back without the path. Namespaces nest.
Records are stored as JSON under their keys.

Results:
* `Namespace.get?_set`, `Namespace.get?_delete`: an update is seen under its own key, and under no other.
* `Namespace.load_of_get?`: a record is loaded from where its written form is, if its codec reads what it
  writes.
-/
namespace Settlement

/-- Values under byte keys, in the lexicographic order of the keys. -/
abbrev Store := Table Bytes Bytes

/-- The entries whose keys begin with `start`, in key order. They stand next to each other, from the
place where `start` itself would stand. -/
def Store.iterate (s : Store) (start : Bytes) : List (Bytes × Bytes) :=
  (s.entries.dropWhile fun e => (compare e.1 start).isLT).takeWhile fun e => start.isPrefixOf e.1

/-- A part of the store, given by what all its keys begin with. -/
structure Namespace where
  path : Bytes
  deriving DecidableEq

namespace Namespace

/-- The whole store. -/
def top : Namespace := ⟨[]⟩

/-- The namespace of a name inside another one. -/
def child (n : Namespace) (name : String) : Namespace :=
  ⟨n.path ++ Text.utf8 name ++ [0x2F]⟩

/-- The key in the store of a key in the namespace. -/
def full (n : Namespace) (key : Bytes) : Bytes := n.path ++ key

def get? (n : Namespace) (s : Store) (key : Bytes) : Option Bytes := s.get? (n.full key)

def has (n : Namespace) (s : Store) (key : Bytes) : Bool := s.contains (n.full key)

def iterate (n : Namespace) (s : Store) (start : Bytes) : List (Bytes × Bytes) :=
  (s.iterate (n.full start)).map fun e => (e.1.drop n.path.length, e.2)

def set (n : Namespace) (s : Store) (key value : Bytes) : Store := s.insert (n.full key) value

def delete (n : Namespace) (s : Store) (key : Bytes) : Store := s.erase (n.full key)

theorem full_inj {n : Namespace} {a b : Bytes} : n.full a = n.full b ↔ a = b :=
  List.append_right_inj n.path

theorem get?_set {n : Namespace} {s : Store} {a b value : Bytes} :
    n.get? (n.set s a value) b = if a = b then some value else n.get? s b := by
  simp [get?, set, Table.get?_insert, full_inj]

theorem get?_delete {n : Namespace} {s : Store} {a b : Bytes} :
    n.get? (n.delete s a) b = if a = b then none else n.get? s b := by
  simp [get?, delete, Table.get?_erase, full_inj]

end Namespace

/-!
## Records

A record that cannot be read, or that refers to one that is not there, is damage: it is not the message
that is at fault, and the host has to stop.
-/

/-- What a live outpoint refers to. -/
inductive Referent
  | accountOutput
  | transaction
  | outputIndex
  deriving DecidableEq

def Referent.text : Referent → String
  | accountOutput => "account output"
  | transaction => "transaction"
  | outputIndex => "output index"

/-- What is wrong with a stored record. -/
inductive DamageKind
  | unreadable (fault : Json.Fault)
  | missing (referent : Referent)
  | badCondition (cause : SpendCondition.Error)
  deriving DecidableEq

def DamageKind.message : DamageKind → String
  | unreadable fault => fault.message
  | missing referent => "live outpoint references missing " ++ referent.text
  | badCondition cause => cause.message

/-- A stored record that cannot be used, by its key in its namespace. -/
structure Damage where
  key : Bytes
  kind : DamageKind
  deriving DecidableEq

def Damage.message (d : Damage) : String :=
  "Corrupt state record at " ++ Text.lossy d.key ++ ": " ++ d.kind.message

namespace Namespace

variable {α : Type}

def decode (codec : Json.Codec α) (key value : Bytes) : Except Damage α :=
  match codec.decode value with
  | .ok a => .ok a
  | .error fault => .error ⟨key, .unreadable fault⟩

/-- The record under a key, if there is one. -/
def load (n : Namespace) (codec : Json.Codec α) (s : Store) (key : Bytes) :
    Except Damage (Option α) :=
  match n.get? s key with
  | none => .ok none
  | some value => (decode codec key value).map some

/-- All records whose keys begin with `start`, with their keys, in key order. -/
def loadAll (n : Namespace) (codec : Json.Codec α) (s : Store) (start : Bytes) :
    Except Damage (List (Bytes × α)) :=
  (n.iterate s start).mapM fun e => (decode codec e.1 e.2).map fun a => (e.1, a)

def put (n : Namespace) (codec : Json.Codec α) (s : Store) (key : Bytes) (a : α) : Store :=
  n.set s key (codec.encode a)

variable {n : Namespace} {codec : Json.Codec α} {s t : Store} {key : Bytes}

theorem load_congr (h : t.get? (n.full key) = s.get? (n.full key)) :
    n.load codec t key = n.load codec s key := by
  simp only [load, get?, h]

theorem load_of_none (h : s.get? (n.full key) = none) : n.load codec s key = .ok none := by
  simp only [load, get?, h]

theorem load_of_get? {a : α} (back : codec.decode (codec.encode a) = .ok a)
    (there : s.get? (n.full key) = some (codec.encode a)) : n.load codec s key = .ok (some a) := by
  simp only [load, get?, there, decode, back, Except.map]

end Namespace

end Settlement
