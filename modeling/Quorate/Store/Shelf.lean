import Quorate.Association
import Quorate.Store.Version

/-!
The contents that one peer holds, by version key.
-/

namespace Quorate.Store

/-- Contents by version key, no key twice. -/
structure Shelf where
  entries : List (VersionKey × List UInt8) := []
deriving DecidableEq, Repr

namespace Shelf

def get? (shelf : Shelf) (key : VersionKey) : Option (List UInt8) := shelf.entries.lookup key

def holds (shelf : Shelf) (key : VersionKey) : Bool := (shelf.get? key).isSome

def erase (shelf : Shelf) (key : VersionKey) : Shelf :=
  ⟨shelf.entries.filter fun entry => entry.1 ≠ key⟩

def insert (shelf : Shelf) (key : VersionKey) (value : List UInt8) : Shelf :=
  ⟨(key, value) :: (shelf.erase key).entries⟩

@[simp]
theorem get?_erase (shelf : Shelf) (key erased : VersionKey) :
    (shelf.erase erased).get? key = if key = erased then none else shelf.get? key :=
  Association.lookup_filter_ne shelf.entries key erased

@[simp]
theorem get?_insert (shelf : Shelf) (key inserted : VersionKey) (value : List UInt8) :
    (shelf.insert inserted value).get? key =
      if key = inserted then some value else shelf.get? key := by
  by_cases same : key = inserted
  · subst same
    simp [insert, get?]
  · have miss : (key == inserted) = false := by simp [same]
    have erased := get?_erase shelf key inserted
    simp only [get?, same, if_false] at erased
    simp [insert, get?, List.lookup_cons, miss, same, erased]

end Shelf
end Quorate.Store
