/-!
# Tags

Text for the console may hold tags in square brackets. Brackets that hold anything but a small
letter, `#`, `/` or `@` at their beginning are text, and so is a tag behind a backslash. So a
marked-up text is cut into pieces, which are text or tags.
-/

namespace ScriptVet.Console

/-- A piece of marked-up text. -/
inductive Piece where
  | text (cs : List Char)
  /-- A tag with what stands between its brackets. -/
  | tag (body : List Char)
  deriving Repr, DecidableEq

namespace Piece

/-- The characters that a tag may begin with. -/
def isTagStart (c : Char) : Bool :=
  ('a' ≤ c && c ≤ 'z') || c == '#' || c == '/' || c == '@'

/-- The characters that may follow in a tag. -/
def isTagInner (c : Char) : Bool :=
  c != '[' && c != ']'

/-- The tag at the front of a text, and what follows it. -/
def tag? : List Char → Option (List Char × List Char)
  | '[' :: c :: rest =>
    match rest.dropWhile isTagInner with
    | ']' :: after => if isTagStart c then some (c :: rest.takeWhile isTagInner, after) else none
    | _ => none
  | _ => none

/-- A tag is a part of the text, between brackets. -/
theorem tag?_eq_some {cs body after : List Char} (h : tag? cs = some (body, after)) :
    cs = '[' :: body ++ ']' :: after := by
  unfold tag? at h
  split at h
  · next c rest =>
    split at h
    · next after' e =>
      split at h
      · simp only [Option.some.injEq, Prod.mk.injEq] at h
        rw [← h.1, ← h.2, ← e]
        simp [List.takeWhile_append_dropWhile]
      · simp at h
    · simp at h
  · simp at h

theorem length_lt_of_tag? {cs body after : List Char} (h : tag? cs = some (body, after)) :
    after.length < cs.length := by
  rw [tag?_eq_some h]
  simp only [List.length_append, List.length_cons]
  omega

/-- The text without a backslash before each bracket that has one. -/
def unescapeBrackets : List Char → List Char
  | [] => []
  | '\\' :: '[' :: rest => '[' :: unescapeBrackets rest
  | c :: rest => c :: unescapeBrackets rest

/-- Text between tags, given from its end to its beginning. -/
def textBefore (before : List Char) : List Piece :=
  if before.isEmpty then [] else [.text (unescapeBrackets before.reverse)]

/-- The pieces that a tag behind backslashes is: each pair of them is one backslash, and one more
makes the tag text. -/
def escapedPieces (backslashes : Nat) (body : List Char) : List Piece :=
  [.text (List.replicate (backslashes / 2) '\\'),
    if backslashes % 2 = 1 then .text ('[' :: body ++ [']']) else .tag body]

/-- The pieces of a text. What was read since the last tag is given from its end to its
beginning. -/
def split (before : List Char) (cs : List Char) : List Piece :=
  match cs with
  | [] => textBefore before
  | c :: rest =>
    match h : tag? (c :: rest) with
    | some (body, after) =>
      have := length_lt_of_tag? h
      let backslashes := (before.takeWhile (· == '\\')).length
      textBefore (before.drop backslashes) ++ escapedPieces backslashes body ++ split [] after
    | none => split (c :: before) rest
termination_by cs.length
decreasing_by
  · assumption
  · exact Nat.lt_succ_self _

end Piece

end ScriptVet.Console
