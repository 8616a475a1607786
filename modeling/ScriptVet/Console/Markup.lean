import ScriptVet.Console.Cells
import ScriptVet.Console.Emoji
import ScriptVet.Console.Literal
import ScriptVet.Console.Style
import ScriptVet.Console.Tag
import ScriptVet.Fault
import ScriptVet.Text.Word

/-!
# Marked-up text

A tag begins a style, as in `[bold]`, or ends one, as in `[/bold]`; `[/]` ends the style that was
begun last. A tag that begins with `@` names an action, and its parameters have to be literal
values. In text between tags names of emoji stand for the emoji. The console draws no styles, so
tags disappear; but a style that is ended must have begun, and a style that is applied must not name
a color by something that is no number.
-/

namespace ScriptVet.Console

/-- A style that has begun and not ended. -/
structure OpenTag where
  /-- The name in its normal form. -/
  name : String
  /-- What follows the first equals sign. -/
  parameters : Option String
  /-- How many characters came before the style began. -/
  start : Nat
  deriving Repr, DecidableEq

/-- A style and the characters it applies to. -/
structure Span where
  definition : String
  start : Nat
  stop : Nat
  deriving Repr, DecidableEq

/-- What a marked-up text shows, and the styles in it. -/
structure Marked where
  text : List Char
  spans : List Span
  deriving Repr, DecidableEq

namespace Markup

/-- The control characters that the console leaves out. -/
def isLeftOut (c : Char) : Bool :=
  [0x07, 0x08, 0x0B, 0x0C, 0x0D].contains c.toNat

/-- What a piece of text shows. -/
def shownText (cs : List Char) : List Char :=
  (Emoji.replace cs).filter fun c => !isLeftOut c

/-- A style by its normal form, or the fault that keeps it from having one. -/
def normalName (name : String) : Result String :=
  (Style.normalForm name).mapError .notANumber

/-- The characters of a name of an action. -/
def isActionName (c : Char) : Bool :=
  Text.isWord c || c == '.'

/-- The values that are handed to an action: those in the brackets behind its name, if there is a
name. -/
def actionValues (parameters : List Char) : List Char :=
  match parameters.dropWhile isActionName with
  | [] => ['(', ')']
  | '(' :: rest =>
    if rest.getLast? = some ')' && !rest.contains '\n' then '(' :: rest else parameters
  | _ => parameters

/-- The parameters of an action have to be literal values. -/
def checkAction (parameters : String) : Result Unit :=
  if parameters.isEmpty then .ok ()
  else
    let stripped := Text.stripWhere Text.isBlank parameters.toList
    if Literal.isLiteral (actionValues stripped) then .ok () else .error (.badParameters parameters)

end Markup

namespace OpenTag

/-- The tag names an action. -/
def isAction (tag : OpenTag) : Bool :=
  tag.name.toList.head? == some '@'

/-- The style of a tag up to a number of characters. -/
def span (tag : OpenTag) (stop : Nat) : Span :=
  ⟨tag.parameters.elim tag.name fun parameters => tag.name ++ " " ++ parameters, tag.start, stop⟩

/-- The styles that the end of a tag gives. -/
def ended (tag : OpenTag) (stop : Nat) : Result (List Span) :=
  if tag.isAction then do
    Markup.checkAction (tag.parameters.getD "")
    return []
  else return [tag.span stop]

end OpenTag

namespace Markup

/-- Where the reading of pieces stands: what is shown so far, from its end to its beginning, how
much that is, the tags that are open, the innermost first, and the styles that have ended. -/
structure State where
  shown : List Char := []
  length : Nat := 0
  openTags : List OpenTag := []
  spans : List Span := []
  deriving Repr, DecidableEq

namespace State

/-- Shows a text. -/
def withText (state : State) (cs : List Char) : State :=
  let shown := shownText cs
  { state with shown := shown.reverse ++ state.shown, length := state.length + shown.length }

/-- Begins a style. -/
def withOpened (state : State) (name : List Char) (parameters : Option String) :
    Result State := do
  let name ← normalName (String.ofList name)
  return { state with openTags := ⟨name, parameters, state.length⟩ :: state.openTags }

/-- Ends a style. -/
def withEnded (state : State) (tag : OpenTag) : Result State := do
  return {
    state with
    openTags := state.openTags.erase tag, spans := state.spans ++ (← tag.ended state.length) }

/-- Ends the style with a name, or the innermost one if there is no name. -/
def withClosed (state : State) (name : List Char) : Result State := do
  let stray : Fault := .strayClosingTag (String.ofList ('/' :: name))
  let name := Text.strip (String.ofList name)
  let tag? ←
    if name.isEmpty then pure state.openTags.head?
    else
      let name ← normalName name
      pure (state.openTags.find? (·.name = name))
  match tag? with
  | none => throw stray
  | some tag => state.withEnded tag

/-- Reads a piece. What follows an equals sign in a tag is no part of the name. -/
def withPiece (state : State) : Piece → Result State
  | .text cs => .ok (state.withText cs)
  | .tag body =>
    match body.takeWhile (· != '=') with
    | '/' :: name => state.withClosed name
    | name =>
      state.withOpened name (((body.dropWhile (· != '=')).tail?).map String.ofList)

/-- The marked-up text that has been read; styles that are open end with it. -/
def marked (state : State) : Marked where
  text := state.shown.reverse
  spans := state.spans ++ state.openTags.map (·.span state.length)

end State

/-- Reads a marked-up text. -/
def read (s : String) : Result Marked :=
  ((Piece.split [] s.toList).foldlM State.withPiece {}).map State.marked

end Markup

namespace Marked

/-- Applies the styles. Where the text is divided into parts, styles that apply to no character are
lost. -/
def checkStyles (marked : Marked) (isDivided : Bool) : Result Unit :=
  (marked.spans.filter fun span => span.start < span.stop || !isDivided).forM fun span =>
    (Style.check span.definition).mapError .notANumber

/-- The lines of the text, with blanks in place of tabs. -/
def lines (marked : Marked) : List (List Char) :=
  (Text.split '\n' marked.text).map expandTabs

/-- The text is divided into parts even before its lines are broken. -/
def isDivided (marked : Marked) : Bool :=
  marked.text.any fun c => c == '\n' || c == '\t'

end Marked

/-- A text that is written has to be whole: half of a surrogate pair has no octets. -/
def written (text : String) : Result String :=
  if Text.holdsHalf text then .error (.unwritable (.brokenText text)) else .ok text

namespace Markup

/-- A marked-up text as it is shown, with the end of the line. -/
def line (s : String) : Result String := do
  let marked ← read s
  marked.checkStyles marked.isDivided
  return String.ofList (['\n'].intercalate marked.lines ++ ['\n'])

/-- A marked-up text as it is printed, with the end of the line. -/
def print (s : String) : Result String := do
  written (← line s)

end Markup

end ScriptVet.Console
