import ScriptVet.Console.EmojiNames
import ScriptVet.Text.Blank
import ScriptVet.Text.Case

/-!
# Emoji by name

A name between colons stands for an emoji. It may end in the form that is wanted: as text or as a
picture. A name that no emoji has is text, and so are its colons.
-/

namespace ScriptVet.Console.Emoji

/-- Names and emoji that stand in turn. -/
def pairs : List String → List (String × String)
  | name :: emoji :: rest => (name, emoji) :: pairs rest
  | _ => []

/-- The emoji by their names. -/
def table : List (String × String) :=
  lines.flatMap fun line => pairs (line.splitOn " ")

/-- The forms of an emoji: how a name asks for them, and the characters that choose them. -/
def forms : List (String × Char) := [("-text", '\uFE0E'), ("-emoji", '\uFE0F')]

/-- A name without the end that asks for a form, and the form. -/
def splitForm (name : List Char) : List Char × List Char :=
  match forms.find? fun form => form.1.toList.isSuffixOf name with
  | some (ending, form) => (name.take (name.length - ending.length), [form])
  | none => (name, [])

/-- The emoji that a name stands for, in the form it asks for. -/
def named? (name : List Char) : Option (List Char) :=
  let (base, form) := splitForm name
  (table.lookup (Text.lower (String.ofList base))).map fun emoji => emoji.toList ++ form

/-- The characters of a name between colons. -/
def isNameChar (c : Char) : Bool :=
  c != ':' && !Text.isBlank c

/-- A name between colons at the front of a text, and what follows it. -/
def name? : List Char → Option (List Char × List Char)
  | ':' :: rest =>
    match rest.dropWhile isNameChar with
    | ':' :: after => some (rest.takeWhile isNameChar, after)
    | _ => none
  | _ => none

/-- A name between colons is a part of the text. -/
theorem name?_eq_some {cs name after : List Char} (h : name? cs = some (name, after)) :
    cs = ':' :: name ++ ':' :: after := by
  unfold name? at h
  split at h
  · next rest =>
    split at h
    · next after' e =>
      simp only [Option.some.injEq, Prod.mk.injEq] at h
      rw [← h.1, ← h.2, ← e]
      simp [List.takeWhile_append_dropWhile]
    · simp at h
  · simp at h

theorem length_lt_of_name? {cs name after : List Char} (h : name? cs = some (name, after)) :
    after.length < cs.length := by
  rw [name?_eq_some h]
  simp only [List.length_append, List.length_cons]
  omega

/-- The text with emoji in place of their names. -/
def replace (cs : List Char) : List Char :=
  match h : name? cs with
  | some (name, after) =>
    have := length_lt_of_name? h
    (named? name).getD (':' :: name ++ [':']) ++ replace after
  | none =>
    match cs with
    | [] => []
    | c :: rest => c :: replace rest
termination_by cs.length

end ScriptVet.Console.Emoji
