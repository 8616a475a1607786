import ScriptVet.Shell.Words

/-!
# Variables in shell text

A variable is assigned at the start of a line, perhaps after a word that declares it. It is referred
to as `$NAME` or `${NAME…}`. A reference such as `${NAME:-default}` guards its variable: it says
what to do when the variable has no value.
-/

namespace ScriptVet.Shell

open Text (isBlank)

/-- The words that declare variables. -/
def declaringWords : List (List Char) :=
  ["export", "local", "readonly", "declare", "typeset"].map String.toList

/-- Passes over options such as `-r`, each followed by blanks; every option uses up one unit of
fuel. -/
def skipOptions : Nat → List Char → List Char
  | 0, cs => cs
  | fuel + 1, cs =>
    match Text.dropStart? ['-'] cs |>.bind (skipSome? Char.isAlpha) |>.bind (skipSome? isBlank) with
    | none => cs
    | some rest => skipOptions fuel rest

/-- The assigned name at the start of a text, which may stand behind a declaring word and
options. -/
def assignedName? (cs : List Char) : Option (List Char × List Char) := do
  let (name, rest) ← spanName? cs
  match skipSome? isBlank rest with
  | none => some (name, rest)
  | some after =>
    if declaringWords.contains name then spanName? (skipOptions after.length after) else none

/-- Passes over an index between brackets, if there is one. -/
def skipIndex : List Char → Option (List Char)
  | '[' :: rest => Text.dropStart? [']'] (rest.dropWhile (· != ']'))
  | cs => some cs

/-- Passes over the sign of an assignment. -/
def skipAssign : List Char → Option (List Char)
  | '+' :: '=' :: rest => some rest
  | '=' :: rest => some rest
  | _ => none

/-- An assignment at the start of a line. The blanks before it may go over several lines. -/
def assignment : Recogniser := fun before text =>
  if !atLineStart before then none
  else do
    let (name, rest) ← assignedName? (text.dropWhile isBlank)
    let rest ← skipAssign (← skipIndex rest)
    some (taken text rest, name)

/-- A reference with a brace, also to the length of a variable or through it. -/
def bracedReference : Recogniser := fun _ text =>
  match text with
  | '$' :: '\x7b' :: rest => do
    let inner :=
      match rest with
      | '#' :: inner => inner
      | '!' :: inner => inner
      | _ => rest
    let (name, rest) ← spanName? inner
    some (taken text rest, name)
  | _ => none

/-- A reference without a brace. -/
def plainReference : Recogniser := fun _ text =>
  match text with
  | '$' :: rest => (spanName? rest).map fun (name, rest) => (taken text rest, name)
  | _ => none

/-- The names that are assigned, in ascending order. -/
def assignedNames (text : List Char) : List String :=
  sortedSet ((findAll assignment text).map fun found => String.ofList found.part)

/-- Every reference with its line. -/
def referenceLines (text : List Char) : List (String × Nat) :=
  (findAll bracedReference text ++ findAll plainReference text).map fun found =>
    (String.ofList found.part, found.lineIn text)

/-- The first line, if there is any, on which a name stands. -/
def firstLineOf (uses : List (String × Nat)) (name : String) : Nat :=
  ((uses.filter (·.1 == name)).map (·.2)).min?.getD 0

/-- The names that are referred to, in ascending order, with the first line of each. -/
def references (text : List Char) : List (String × Nat) :=
  let uses := referenceLines text
  (sortedSet (uses.map (·.1))).map fun name => (name, firstLineOf uses name)

/-- The text goes on with what makes a reference a guard. -/
def beginsGuard : List Char → Bool
  | ':' :: c :: _ => isGuardSign c
  | c :: _ => isGuardSign c
  | [] => false
where
  isGuardSign (c : Char) : Bool := c == '-' || c == '=' || c == '?'

/-- A reference that guards the variable of a name begins here. -/
def guardsAt (name text : List Char) : Bool :=
  ((Text.dropStart? ('$' :: '\x7b' :: name) text).map beginsGuard).getD false

/-- The variable of a name is guarded somewhere in a text. -/
def isGuarded (name : List Char) : List Char → Bool
  | [] => false
  | c :: rest => guardsAt name (c :: rest) || isGuarded name rest

/-- The references to variables that are nowhere assigned, nowhere guarded and not ignored. -/
def unguarded (ignored : List String) (text : List Char) : List (String × Nat) :=
  let assigned := assignedNames text
  (references text).filter fun (name, _) =>
    !assigned.contains name && !ignored.contains name && !isGuarded name.toList text

end ScriptVet.Shell
