import ScriptVet.Shell.Variables

/-!
# Strict mode in shell text

Whether a script asks the shell to be strict: by options of `set`, short or long, or by a trap for
errors; and whether it has pipelines at all.
-/

namespace ScriptVet.Shell

open Text (isBlank isWord?)

/-- A `set` command at the start of a line, with its arguments up to a comment or the end of the
line. The blanks before and after the command may go over several lines. -/
def setCommand : Recogniser := fun before text =>
  if !atLineStart before then none
  else do
    let rest ← Text.dropStart? "set".toList (text.dropWhile isBlank)
    let rest ← skipSome? isBlank rest
    let arguments := rest.takeWhile fun c => c != '#' && c != '\n'
    some (taken text rest + arguments.length, arguments)

/-- The arguments of every `set` command. -/
def setArguments (text : List Char) : List (List Char) :=
  (findAll setCommand text).map (·.part)

/-- A cluster of short options, given with the text after it, has a flag. -/
def hasFlag (flag : Char) (cluster rest : List Char) : Bool :=
  cluster.contains flag && !isWord? rest.head?

/-- A cluster of short options, given with the text after it, ends in `o` and an option of a long
name follows. -/
def hasLongName (longName : List Char) (cluster rest : List Char) : Bool :=
  cluster.getLast? == some 'o' &&
    match (skipSome? isBlank rest).bind (Text.dropStart? longName) with
    | none => false
    | some after => !isWord? after.head?

/-- Some cluster of short options among arguments has a property, which also sees the text after the
cluster. A cluster is a hyphen at the start or after a blank, and letters. -/
def anyCluster (property : List Char → List Char → Bool) : Option Char → List Char → Bool
  | _, [] => false
  | before, c :: rest =>
    (c == '-' && before.all isBlank &&
        property (rest.takeWhile Char.isAlpha) (rest.dropWhile Char.isAlpha)) ||
      anyCluster property (some c) rest

/-- Options of `set` by a flag or a long name. -/
structure StrictOption where
  flag : Option Char
  longName : String

namespace StrictOption

/-- Variables without a value are errors. -/
def nounset : StrictOption := ⟨some 'u', "nounset"⟩

/-- A command that fails ends the script. -/
def errexit : StrictOption := ⟨some 'e', "errexit"⟩

/-- A pipeline fails if any of its commands does. -/
def pipefail : StrictOption := ⟨none, "pipefail"⟩

end StrictOption

/-- Arguments of `set` that switch an option on. -/
def switchesOn (option : StrictOption) (arguments : List Char) : Bool :=
  anyCluster (fun cluster rest =>
    option.flag.any (hasFlag · cluster rest) || hasLongName option.longName.toList cluster rest)
    none arguments

/-- Some `set` command of a text switches an option on. -/
def hasOption (option : StrictOption) (text : List Char) : Bool :=
  (setArguments text).any (switchesOn option)

/-- A part stands in a line as a word of its own. -/
def holdsWord (part : List Char) : Option Char → List Char → Bool
  | _, [] => false
  | before, c :: rest =>
    (!isWord? before &&
        ((Text.dropStart? part (c :: rest)).map fun after => !isWord? after.head?).getD false) ||
      holdsWord part (some c) rest

/-- A `trap` command for errors at the start of a line. -/
def errorTrap : Recogniser := fun before text =>
  if !atLineStart before then none
  else do
    let rest ← Text.dropStart? "trap".toList (text.dropWhile isBlank)
    let rest ← skipSome? isBlank rest
    let line := rest.takeWhile (· != '\n')
    if holdsWord "ERR".toList none line then some (taken text rest + line.length, line) else none

/-- A text sets a trap for errors. -/
def hasErrorTrap (text : List Char) : Bool :=
  !(findAll errorTrap text).isEmpty

/-- A single bar, which joins two commands into a pipeline. -/
def pipe : Recogniser := fun before text =>
  match text with
  | '|' :: rest => if before == some '|' || rest.head? == some '|' then none else some (1, ['|'])
  | _ => none

end ScriptVet.Shell
