import Reroute.Count
import Reroute.Text

/-!
Data in the form in which it is stored, and how values are read from it.

What is stored as a record can mostly be read from a list of its fields as well. Fields that nobody asks
for are passed over.
-/

namespace Reroute

/-- Stored data: the values of JSON. Of the numbers only whole ones are told apart. -/
inductive Stored where
  | null
  | bool (b : Bool)
  | whole (n : Int)
  | fraction
  | text (t : Text)
  | list (items : List Stored)
  | record (fields : List (Text × Stored))
  deriving Inhabited, Repr

namespace Stored

def ofFields (fields : List (String × Stored)) : Stored :=
  .record (fields.map fun (name, value) => (name.toList, value))

def ofText? (t : Option Text) : Stored :=
  match t with
  | some t => .text t
  | none => .null

def bool? : Stored → Option Bool
  | .bool b => some b
  | _ => none

def text? : Stored → Option Text
  | .text t => some t
  | _ => none

def list? : Stored → Option (List Stored)
  | .list items => some items
  | _ => none

def count? : Stored → Option Nat
  | .whole (.ofNat n) => if n < Count.bound then some n else none
  | _ => none

def optionalText? : Option Stored → Option (Option Text)
  | none | some .null => some none
  | some (.text t) => some (some t)
  | some _ => none

def orDefault {α : Type} (read : Stored → Option α) (default : α) : Option Stored → Option α
  | none => some default
  | some value => read value

def record? : Stored → Option (String → Option Stored)
  | .record fields => some fun name => fields.lookup name.toList
  | _ => none

/-- The fields of a record by their names. A list gives them in the order of `names`, all of them
or, if that is allowed, no more than the first few. -/
def fields? (names : List String) (allowFewer : Bool) : Stored → Option (String → Option Stored)
  | .list items =>
    if items.length = names.length ∨ (allowFewer ∧ items.length < names.length) then
      some fun name => items[names.idxOf name]?
    else none
  | s => s.record?

end Stored

end Reroute
