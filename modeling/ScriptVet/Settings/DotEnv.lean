import ScriptVet.Text.Blank
import ScriptVet.Text.Search

/-!
# Environment files

A file of lines `NAME=value`. A line may begin with `export` and end in a comment; a value may stand
between quotes, where escapes are read and lines may end; and a value may refer to variables, as
`${NAME}` or `${NAME:-default}`. A line that has none of these forms is passed over.
-/

namespace ScriptVet.DotEnv

/-- A name and its value; a name without an equals sign has none. -/
structure Binding where
  name : String
  value : Option String
  deriving Repr, DecidableEq

/-- Blanks within a line. -/
def isInlineBlank (c : Char) : Bool :=
  Text.isBlank c && c != '\n' && c != '\r'

/-- The text up to a closing quote, and the text after it. A quote after a backslash closes only if
no other one does. -/
def closeQuote (quote : Char) : List Char → Option (List Char × List Char)
  | [] => none
  | '\\' :: c :: rest =>
    if c = quote then
      match closeQuote quote rest with
      | some (value, after) => some ('\\' :: c :: value, after)
      | none => some (['\\'], rest)
    else (closeQuote quote (c :: rest)).map fun (value, after) => ('\\' :: value, after)
  | c :: rest =>
    if c = quote then some ([], rest)
    else (closeQuote quote rest).map fun (value, after) => (c :: value, after)

/-- The character that a letter after a backslash stands for between double quotes. -/
def escaped? : Char → Option Char
  | '\\' => some '\\'
  | '\'' => some '\''
  | '"' => some '"'
  | 'a' => some '\x07'
  | 'b' => some '\x08'
  | 'f' => some '\x0c'
  | 'n' => some '\n'
  | 'r' => some '\r'
  | 't' => some '\t'
  | 'v' => some '\x0b'
  | _ => none

/-- The character that follows a backslash between single quotes. -/
def plainEscaped? : Char → Option Char
  | '\\' => some '\\'
  | '\'' => some '\''
  | _ => none

/-- Reads the escapes of a quoted value; a backslash before another character stands for itself. -/
def readEscapes (escape? : Char → Option Char) : List Char → List Char
  | [] => []
  | '\\' :: c :: rest =>
    match escape? c with
    | some d => d :: readEscapes escape? rest
    | none => '\\' :: readEscapes escape? (c :: rest)
  | c :: rest => c :: readEscapes escape? rest

/-- A value without quotes ends before a comment, which begins with a blank and a number sign. -/
def dropComment (afterBlank : Bool) : List Char → List Char
  | [] => []
  | c :: rest =>
    if afterBlank && c = '#' then [] else c :: dropComment (Text.isBlank c) rest

/-- The text without blanks at its end. -/
def dropBlanksAtEnd (cs : List Char) : List Char :=
  (cs.reverse.dropWhile Text.isBlank).reverse

/-- Splits a text at the end of its first line. -/
def spanLine (cs : List Char) : List Char × List Char :=
  cs.span fun c => c != '\n' && c != '\r'

/-- A value at the start of the text, and the text after it. -/
def readValue : List Char → Option (List Char × List Char)
  | '\'' :: rest =>
    (closeQuote '\'' rest).map fun (value, after) => (readEscapes plainEscaped? value, after)
  | '"' :: rest =>
    (closeQuote '"' rest).map fun (value, after) => (readEscapes escaped? value, after)
  | cs =>
    let (line, after) := spanLine cs
    some (dropBlanksAtEnd (dropComment false line), after)

/-- A name at the start of the text, and the text after it; a comment has the empty name. -/
def readName : List Char → Option (List Char × List Char)
  | '#' :: rest => some ([], '#' :: rest)
  | '\'' :: rest =>
    match rest.span (· != '\'') with
    | (name, _ :: after) => if name.isEmpty then none else some (name, after)
    | (_, []) => none
  | cs =>
    match cs.span fun c => c != '=' && c != '#' && !Text.isBlank c with
    | ([], _) => none
    | (name, after) => some (name, after)

/-- What may end a line: blanks and a comment. -/
def readLineEnd (cs : List Char) : Option (List Char) :=
  let rest :=
    match cs.dropWhile isInlineBlank with
    | '#' :: comment => (spanLine comment).2
    | rest => rest
  match rest with
  | [] => some []
  | c :: rest => if c = '\n' || c = '\r' then some rest else none

/-- Passes over the word `export` and the blanks after it. -/
def dropExport (cs : List Char) : List Char :=
  match Text.dropStart? "export".toList cs with
  | some rest => if rest.head?.any isInlineBlank then rest.dropWhile isInlineBlank else cs
  | none => cs

/-- A binding at the start of the text and the text after its line; nothing, and the rest of the
text, if the line has none of the forms. -/
def readBinding (cs : List Char) : Option Binding × List Char :=
  let cs := dropExport cs
  match readName cs with
  | none => refuse cs
  | some (name, rest) =>
    let rest := rest.dropWhile isInlineBlank
    match rest with
    | '=' :: rest =>
      let rest := rest.dropWhile isInlineBlank
      match readValue rest with
      | none => refuse rest
      | some (value, rest) => finish name (some (String.ofList value)) rest
    | rest => finish name none rest
where
  refuse (cs : List Char) : Option Binding × List Char :=
    (none, (spanLine cs).2.drop 1)
  finish (name : List Char) (value : Option String) (cs : List Char) :
      Option Binding × List Char :=
    match readLineEnd cs with
    | none => refuse (cs.dropWhile isInlineBlank)
    | some rest =>
      (if name.isEmpty then none else some ⟨String.ofList name, value⟩, rest)

/-- The bindings of a text; every line passed over uses up one unit of fuel. -/
def readBindings : Nat → List Char → List Binding
  | 0, _ => []
  | fuel + 1, cs =>
    match cs.dropWhile Text.isBlank with
    | [] => []
    | cs =>
      let (binding, rest) := readBinding cs
      binding.toList ++ readBindings fuel rest

/-- The bindings of a file. -/
def bindings (text : List Char) : List Binding :=
  readBindings (text.length + 1) text

/-- A piece of a value. -/
inductive Piece where
  | literal (c : Char)
  | reference (name default : String)
  deriving Repr, DecidableEq

/-- A reference after its opening brace, and the text after it. -/
def readReference (cs : List Char) : Option (Piece × List Char) :=
  let (name, rest) := cs.span fun c => c != '\x7d' && c != ':'
  match rest with
  | '\x7d' :: after => some (.reference (String.ofList name) "", after)
  | ':' :: '-' :: rest =>
    match rest.span (· != '\x7d') with
    | (default, _ :: after) =>
      some (.reference (String.ofList name) (String.ofList default), after)
    | (_, []) => none
  | _ => none

/-- The pieces of a value; every piece uses up one unit of fuel. -/
def pieces : Nat → List Char → List Piece
  | 0, _ => []
  | _, [] => []
  | fuel + 1, '$' :: '\x7b' :: rest =>
    match readReference rest with
    | some (piece, after) => piece :: pieces fuel after
    | none => .literal '$' :: pieces fuel ('\x7b' :: rest)
  | fuel + 1, c :: rest => .literal c :: pieces fuel rest

/-- A value with its references resolved by known variables; a variable without a value counts as
empty text. -/
def resolveValue (known : List (String × Option String)) (value : String) : String :=
  let cs := value.toList
  String.ofList <| (pieces cs.length cs).flatMap fun
    | .literal c => [c]
    | .reference name default =>
      match known.lookup name with
      | some value => (value.getD "").toList
      | none => default.toList

/-- The variables of a file: a later binding sees the ones before it, and they hide the variables
of the environment. -/
def values (environment : List (String × String)) (text : List Char) :
    List (String × Option String) :=
  let outer := environment.map fun (name, value) => (name, some value)
  let found := (bindings text).foldl
    (fun (known : List (String × Option String)) binding =>
      (binding.name, binding.value.map (resolveValue (known ++ outer))) :: known) []
  found.reverse

end ScriptVet.DotEnv
