/-!
# Maps that remember the order of insertion

The entries stand in the order in which their keys came first. Inserting a key again replaces its
value in place.
-/

namespace Nativize

/-- A map from texts to values in order of first insertion. -/
structure OrderedMap (α : Type) where
  entries : List (String × α)
deriving DecidableEq, Repr

namespace OrderedMap

variable {α : Type}

def empty : OrderedMap α := ⟨[]⟩

instance : Inhabited (OrderedMap α) := ⟨empty⟩

/-- Replace the value of the first entry with the key, or add the entry at the end. -/
def insertEntry (key : String) (value : α) : List (String × α) → List (String × α)
  | [] => [(key, value)]
  | entry :: rest =>
    if entry.1 = key then (key, value) :: rest else entry :: insertEntry key value rest

def insert (m : OrderedMap α) (key : String) (value : α) : OrderedMap α :=
  ⟨insertEntry key value m.entries⟩

/-- Insert the pairs one after the other. -/
def insertAll (m : OrderedMap α) (pairs : List (String × α)) : OrderedMap α :=
  pairs.foldl (fun acc p => acc.insert p.1 p.2) m

def ofList (pairs : List (String × α)) : OrderedMap α := empty.insertAll pairs

def get? (m : OrderedMap α) (key : String) : Option α := m.entries.lookup key

def contains (m : OrderedMap α) (key : String) : Bool := (m.get? key).isSome

def size (m : OrderedMap α) : Nat := m.entries.length

def isEmpty (m : OrderedMap α) : Bool := m.entries.isEmpty

def keys (m : OrderedMap α) : List String := m.entries.map (·.1)

def map {β : Type} (f : α → β) (m : OrderedMap α) : OrderedMap β :=
  ⟨m.entries.map fun p => (p.1, f p.2)⟩

end OrderedMap

end Nativize
