import PlanarDynamics.Scalar.Binary32

/-!
# Scene trees

The written form of a scene is a tree of plain data. A number that is written whole is kept apart
from every other number, because a count is only read from the former while a measurement is
read from both. Measurements are binary32; one that is infinite or undefined has
no written form and becomes `null`.

A record is read by the names of its fields, in any order, and unknown fields are passed over. A
list stands for the record that has its items as fields in order, and may not be longer
(`Tree.fields?`).
-/

set_option autoImplicit false

namespace PlanarDynamics

/-- Plain data. -/
inductive Tree
  | null
  | bool (b : Bool)
  | integer (n : Int)
  | decimal (x : Float32)
  | text (s : String)
  | list (items : List Tree)
  | record (fields : List (String × Tree))

/-- Values that have a written form. -/
class TreeForm (β : Type) where
  /-- The written form. -/
  toTree : β → Tree
  /-- The value of a written form, if it is one. -/
  ofTree? : Tree → Option β

export TreeForm (toTree ofTree?)

namespace Tree

/-- The fields of a record with the given names, also when it is written as a list. -/
def fields? (names : List String) : Tree → Option (List (String × Tree))
  | record fields => some fields
  | list items => if items.length ≤ names.length then some (names.zip items) else none
  | _ => none

/-- The value of a field that has to be there. -/
def need {β : Type} [TreeForm β] (fields : List (String × Tree)) (name : String) : Option β :=
  (fields.lookup name).bind ofTree?

/-- The value of a field, or another value when it is missing. -/
def needOr {β : Type} [TreeForm β] (fields : List (String × Tree)) (name : String) (other : β) :
    Option β :=
  match fields.lookup name with
  | none => some other
  | some t => ofTree? t

/-- One of several names, written as text or as the only field of a record, with nothing in it. -/
def oneOf? {β : Type} (names : List (String × β)) : Tree → Option β
  | text s => names.lookup s
  | record [(s, null)] => names.lookup s
  | _ => none

end Tree

instance : TreeForm Bool where
  toTree := .bool
  ofTree?
    | .bool b => some b
    | _ => none

instance : TreeForm Nat where
  toTree n := .integer n
  ofTree?
    | .integer (.ofNat n) => some n
    | _ => none

instance : TreeForm Float32 where
  toTree x := if x.isFinite then .decimal x else .null
  ofTree?
    | .integer n => some (Binary32.ofInteger n)
    | .decimal x => some x
    | _ => none

instance {β : Type} [TreeForm β] : TreeForm (List β) where
  toTree items := .list (items.map toTree)
  ofTree?
    | .list items => items.mapM ofTree?
    | _ => none

end PlanarDynamics
