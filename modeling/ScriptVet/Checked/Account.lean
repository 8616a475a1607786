import ScriptVet.Checked.Problem
import ScriptVet.Json.Writer
import ScriptVet.Text.Utf8

/-!
# Accounts of problems

What a reader is told about data that is not as it should be: for each problem where it is, what is
wrong, and what was found there. What was found is shown only in part if it is long.
-/

namespace ScriptVet

/-- The value at the end of a way into data; where the way leads nowhere there is nothing. -/
def Json.follow (data : Json) : List DataStep → Json
  | [] => data
  | .key name :: rest => ((data.field? name).getD .null).follow rest
  | .index n :: rest => ((data.items?.bind (·[n]?)).getD .null).follow rest

/-- The name of the kind of a value. -/
def Json.kindName : Json → String
  | .null => "NoneType"
  | .bool _ => "bool"
  | .int _ => "int"
  | .float _ => "float"
  | .str _ => "str"
  | .arr _ => "list"
  | .obj _ => "dict"

/-- A step as it is written in an account. -/
def DataStep.text : DataStep → String
  | .key name => if name.toList.contains '.' then Text.phrase ["`", name, "`"] else name
  | .index n => Nat.repr n

namespace Problem

/-- What was found: the value at the place of the problem, or for a missing field the value that
should have it. -/
def found (data : Json) (problem : Problem) : Json :=
  match problem.wrong with
  | .missing => data.follow problem.place.dropLast
  | _ => data.follow problem.place

end Problem

namespace Account

/-- The octets of a text that are shown without leaving any out. -/
def shownWhole : Nat := 50

/-- The octets that are shown of the beginning of a longer text. -/
def shownFirst : Nat := 25

/-- The octets that are shown of its end. -/
def shownLast : Nat := 24

/-- The longest beginning that has at most so many octets. -/
def takeOctets (octets : Nat) : List Char → List Char
  | [] => []
  | c :: rest =>
    let width := (Text.Utf8.encodeString (String.ofList [c])).length
    if width ≤ octets then c :: takeOctets (octets - width) rest else []

/-- A text, or its beginning and its end if it is long. -/
def shorten (cs : List Char) : List Char :=
  if (Text.Utf8.encodeString (String.ofList cs)).length ≤ shownWhole then cs
  else
    takeOctets shownFirst cs ++ ['.', '.', '.'] ++
      (takeOctets shownLast cs.reverse).reverse

/-- What is said about a problem. -/
def entry (data : Json) (problem : Problem) : String :=
  let place :=
    if problem.place.isEmpty then ""
    else "\n" ++ ".".intercalate (problem.place.map DataStep.text)
  let found := problem.found data
  Text.phrase [
    place, "\n  ", problem.wrong.message, " [type=", problem.wrong.tag, ", input_value=",
    String.ofList (shorten found.showNested), ", input_type=", found.kindName, "]"]

/-- How many problems there are with data that should be what a title says. -/
def heading (title : String) (count : Nat) : String :=
  let noun := if count = 1 then " validation error for " else " validation errors for "
  Text.phrase [Nat.repr count, noun, title]

/-- What is said about all problems with data that should be what a title says. -/
def text (title : String) (data : Json) (problems : List Problem) : String :=
  Text.phrase (heading title problems.length :: problems.map (entry data))

/-- A short text is shown whole. -/
theorem shorten_eq_self {cs : List Char}
    (h : (Text.Utf8.encodeString (String.ofList cs)).length ≤ shownWhole) : shorten cs = cs := by
  rw [shorten, if_pos h]

end Account

end ScriptVet
