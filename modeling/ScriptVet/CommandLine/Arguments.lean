import ScriptVet.Text.Phrase

/-!
# Arguments of a command

The arguments of a command are options and words. An option begins with a dash. It stands for
itself, or it takes a text: the one after an equals sign or else the next argument, whatever that
looks like. Options with one letter may be written together, and the text of the last one may follow
without a blank. After a double dash there are only words.
-/

namespace ScriptVet.CommandLine

/-- What is wrong with the arguments. -/
inductive UsageFault where
  | unknownOption (name : String)
  /-- An option that takes a text has none. -/
  | missingText (name : String)
  /-- An option that takes no text has one. -/
  | unexpectedText (name : String)
  | missingWord (meaning : String)
  | extraWord (word : String)
  | unknownCommand (word : String)
  | missingCommand
  | notAChoice (option word : String) (choices : List String)
  | noFile (path : String)
  | isFolder (path : String)
  | isFile (path : String)
  deriving Repr, DecidableEq

/-- The text about wrong arguments. -/
def UsageFault.message : UsageFault → String
  | .unknownOption name => Text.phrase ["No such option: ", name]
  | .missingText name => Text.phrase ["Option ", name, " requires an argument."]
  | .unexpectedText name => Text.phrase ["Option ", name, " does not take a value."]
  | .missingWord meaning => Text.phrase ["Missing argument ", meaning, "."]
  | .extraWord word => Text.phrase ["Got unexpected extra argument (", word, ")"]
  | .unknownCommand word => Text.phrase ["No such command ", word, "."]
  | .missingCommand => "Missing command."
  | .notAChoice option word choices =>
    Text.phrase
      ["Invalid value for ", option, ": ", word, " is not one of ", ", ".intercalate choices, "."]
  | .noFile path => Text.phrase ["File ", path, " does not exist."]
  | .isFolder path => Text.phrase ["File ", path, " is a directory."]
  | .isFile path => Text.phrase ["Directory ", path, " is a file."]

/-- What an option does. -/
inductive OptionForm (α : Type) where
  /-- It stands for itself. -/
  | switch (value : α)
  /-- It takes a text. -/
  | text (make : String → α)

/-- The options of a command by their spellings, each with its dashes. -/
abbrev OptionTable (α : Type) := List (String × OptionForm α)

/-- The options and the words among arguments, each in their order. -/
structure Arguments (α : Type) where
  options : List α
  words : List String
  deriving Repr

/-- What one argument gives: options, and perhaps one more that takes the next argument. -/
structure Reading (α : Type) where
  options : List α
  waiting : Option (String × (String → α)) := none

namespace Arguments

variable {α : Type}

/-- Options are put before those that are there. -/
def withOptions (options : List α) (rest : Arguments α) : Arguments α :=
  { rest with options := options ++ rest.options }

/-- A word is put before those that are there. -/
def withWord (word : String) (rest : Arguments α) : Arguments α :=
  { rest with words := word :: rest.words }

/-- An argument is read as an option. -/
def isOption (argument : String) : Bool :=
  match argument.toList with
  | '-' :: _ :: _ => true
  | _ => false

/-- The form of an option of one letter. -/
def letterForm? (table : OptionTable α) (letter : Char) : Option (OptionForm α) :=
  table.lookup (String.ofList ['-', letter])

/-- Options of one letter that are written together. -/
def readLetters (table : OptionTable α) : List Char → Except UsageFault (Reading α)
  | [] => .ok ⟨[], none⟩
  | letter :: rest =>
    let name := String.ofList ['-', letter]
    match letterForm? table letter with
    | none => .error (.unknownOption name)
    | some (.switch value) =>
      (readLetters table rest).map fun reading =>
        { reading with options := value :: reading.options }
    | some (.text make) =>
      if rest.isEmpty then .ok ⟨[], some (name, make)⟩
      else .ok ⟨[make (String.ofList rest)], none⟩

/-- The form of an option whose name has more than one letter. -/
def longForm? (table : OptionTable α) (name : String) : Option (OptionForm α) :=
  if name.length ≤ 2 then none else table.lookup name

/-- An argument that is read as an option. -/
def readOption (table : OptionTable α) (argument : String) : Except UsageFault (Reading α) :=
  let cs := argument.toList
  let name := String.ofList (cs.takeWhile (· != '='))
  let text? := ((cs.dropWhile (· != '=')).tail?).map String.ofList
  match longForm? table name, text? with
  | some (.switch value), none => .ok ⟨[value], none⟩
  | some (.switch _), some _ => .error (.unexpectedText name)
  | some (.text make), some text => .ok ⟨[make text], none⟩
  | some (.text make), none => .ok ⟨[], some (name, make)⟩
  | none, _ =>
    match cs with
    | '-' :: '-' :: _ => .error (.unknownOption name)
    | _ => readLetters table cs.tail

/-- Reads arguments after an option that may still wait for its text. -/
def readAfter (table : OptionTable α) (mixed : Bool) :
    Option (String × (String → α)) → List String → Except UsageFault (Arguments α)
  | none, [] => .ok ⟨[], []⟩
  | some (name, _), [] => .error (.missingText name)
  | some (_, make), text :: rest => (readAfter table mixed none rest).map (withOptions [make text])
  | none, argument :: rest =>
    if argument = "--" then .ok ⟨[], rest⟩
    else if isOption argument then
      match readOption table argument with
      | .error fault => .error fault
      | .ok reading =>
        (readAfter table mixed reading.waiting rest).map (withOptions reading.options)
    else if mixed then (readAfter table mixed none rest).map (withWord argument)
    else .ok ⟨[], argument :: rest⟩

/-- Reads arguments. Where words and options are not mixed, everything after the first word is
words. -/
def read (table : OptionTable α) (mixed : Bool) (arguments : List String) :
    Except UsageFault (Arguments α) :=
  readAfter table mixed none arguments

/-- The first word. -/
def firstWord (arguments : Arguments α) (meaning : String) : Except UsageFault String :=
  (arguments.words.head?).elim (.error (.missingWord meaning)) .ok

/-- Refuses more words than there should be. -/
def atMost (count : Nat) (arguments : Arguments α) : Except UsageFault Unit :=
  ((arguments.words.drop count).head?).elim (.ok ()) fun extra => .error (.extraWord extra)

/-- The last value that options give. -/
def last? {β : Type} (arguments : Arguments α) (value? : α → Option β) : Option β :=
  (arguments.options.filterMap value?).getLast?

/-- All values that options give. -/
def every {β : Type} (arguments : Arguments α) (value? : α → Option β) : List β :=
  arguments.options.filterMap value?

end Arguments

end ScriptVet.CommandLine
