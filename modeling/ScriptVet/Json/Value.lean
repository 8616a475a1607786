import ScriptVet.Decimal.Double
import ScriptVet.Keyed

/-!
# JSON values

A value keeps the order of the fields of its objects, because that order shows wherever the value
is written again. Integers are unbounded and are told apart from floating-point numbers. An object
has each key once: a field that is put again keeps its place and takes the new value.
-/

namespace ScriptVet

open Decimal (Double)

/-- A JSON value. -/
inductive Json where
  | null
  | bool (b : Bool)
  | int (n : Int)
  | float (x : Double)
  | str (s : String)
  | arr (items : List Json)
  | obj (fields : List (String × Json))
  deriving Repr, BEq, Inhabited

namespace Json

/-- Puts a field: in its old place if the key is there, otherwise at the end. -/
def putField (key : String) (value : Json) (fields : List (String × Json)) :
    List (String × Json) :=
  Keyed.put key value fields

/-- The value of a field. -/
def getField? (key : String) (fields : List (String × Json)) : Option Json :=
  fields.lookup key

/-- The fields, each key once. -/
def ofFields (fields : List (String × Json)) : List (String × Json) :=
  Keyed.merge [] fields

/-- The value of a field, if the value is an object and has it. -/
def field? (key : String) : Json → Option Json
  | .obj fields => getField? key fields
  | _ => none

/-- The fields of an object. -/
def fields? : Json → Option (List (String × Json))
  | .obj fields => some fields
  | _ => none

def str? : Json → Option String
  | .str s => some s
  | _ => none

def items? : Json → Option (List Json)
  | .arr items => some items
  | _ => none

def isNull : Json → Bool
  | .null => true
  | _ => false

/-- Booleans count as the integers zero and one. -/
def toInt? : Json → Option Int
  | .int n => some n
  | .bool b => some (if b then 1 else 0)
  | _ => none

/-- An optional string, absent as null. -/
def ofOption (s : Option String) : Json :=
  s.elim .null .str

def ofStrings (xs : List String) : Json :=
  .arr (xs.map .str)

/-- Merges objects field by field, at every depth; otherwise the second value replaces the
first. -/
def mergeFields : List (String × Json) → List (String × Json) → List (String × Json)
  | base, [] => base
  | base, (key, value) :: rest =>
    let merged :=
      match getField? key base, value with
      | some (.obj old), .obj new => .obj (mergeFields old new)
      | _, _ => value
    mergeFields (putField key merged base) rest

@[simp] theorem getField?_putField (key : String) (value : Json) (fields : List (String × Json)) :
    getField? key (putField key value fields) = some value :=
  Keyed.lookup_put_self key value fields

theorem getField?_putField_of_ne {key other : String} (h : other ≠ key) (value : Json)
    (fields : List (String × Json)) :
    getField? other (putField key value fields) = getField? other fields :=
  Keyed.lookup_put_of_ne h value fields

end Json

end ScriptVet
