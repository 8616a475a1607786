import ScriptVet.Json.Writer

/-!
# What can be written

Data from outside is kept as it came, but not all of it can be written again: it may be nested too
deep, and text that holds half of a surrogate pair has no octets. Numbers that are not finite have
no JSON form; where data is given out they are replaced by null.
-/

namespace ScriptVet

/-- Why something cannot be written. -/
inductive WriteFault where
  | tooDeep
  /-- The text holds half of a surrogate pair. -/
  | brokenText (text : String)
  deriving Repr, DecidableEq

namespace WriteFault

/-- The name of the kind of a fault. -/
def kindName : WriteFault → String
  | tooDeep => "ValueError"
  | brokenText _ => "UnicodeEncodeError"

/-- The text of a fault. -/
def message : WriteFault → String
  | tooDeep => "Maximum serialization depth exceeded"
  | brokenText text => Text.noOctetsMessage text

end WriteFault

namespace Json

mutual

/-- How many values lie inside one another, the value itself included. -/
def height : Json → Nat
  | .arr items => itemsHeight items + 1
  | .obj fields => fieldsHeight fields + 1
  | _ => 1

/-- The height of the highest item. -/
def itemsHeight : List Json → Nat
  | [] => 0
  | item :: items => max (height item) (itemsHeight items)

/-- The height of the highest field. -/
def fieldsHeight : List (String × Json) → Nat
  | [] => 0
  | (_, value) :: fields => max (height value) (fieldsHeight fields)

end

mutual

/-- The first text inside that holds half of a surrogate pair. -/
def brokenText? : Json → Option String
  | .str s => if Text.holdsHalf s then some s else none
  | .arr items => brokenItem? items
  | .obj fields => brokenField? fields
  | _ => none

/-- The first such text in items. -/
def brokenItem? : List Json → Option String
  | [] => none
  | item :: items => (brokenText? item).or (brokenItem? items)

/-- The first such text in fields and their keys. -/
def brokenField? : List (String × Json) → Option String
  | [] => none
  | (key, value) :: fields =>
    if Text.holdsHalf key then some key else (brokenText? value).or (brokenField? fields)

end

mutual

/-- The value with null for numbers that are not finite. -/
def finite : Json → Json
  | .float x => if x.isFinite then .float x else .null
  | .arr items => .arr (finiteItems items)
  | .obj fields => .obj (finiteFields fields)
  | value => value

/-- The items with null for numbers that are not finite. -/
def finiteItems : List Json → List Json
  | [] => []
  | item :: items => finite item :: finiteItems items

/-- The fields with null for numbers that are not finite. -/
def finiteFields : List (String × Json) → List (String × Json)
  | [] => []
  | (key, value) :: fields => (key, finite value) :: finiteFields fields

end

/-- The greatest height that is written. -/
def heightLimit : Nat := 255

/-- Values kept as they came are written only up to a height. -/
def checkHeights (fields : List (String × Json)) : Except WriteFault Unit :=
  if heightLimit < fieldsHeight fields then .error .tooDeep else .ok ()

/-- A value is written only if all its text is whole. -/
def checkText (value : Json) : Except WriteFault Unit :=
  value.brokenText?.elim (.ok ()) fun text => .error (.brokenText text)

@[simp] theorem height_pos (value : Json) : 0 < value.height := by
  cases value <;> simp [height]

end Json

end ScriptVet
