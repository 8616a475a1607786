import Mathlib.Data.List.TakeWhile
import ScriptVet.Console.Display
import ScriptVet.Proofs.Result

/-!
# What the console can always show

Marked-up text cannot be shown if it ends a style that has not begun or names a color by something
that is no number. Neither happens where the only tags are the pairs that the program itself puts
around a text in one of its own styles, so such texts are always read, and their styles apply.
-/

namespace ScriptVet.Console

/-- What holds of the characters of a text is decided by reading the text, and not by trying all
characters there are. -/
instance (priority := 1100) decidableForallMem (P : Char → Prop) [DecidablePred P]
    (cs : List Char) : Decidable (∀ c ∈ cs, P c) :=
  List.decidableBAll P cs

/-! ## Cutting a text into pieces -/

namespace Piece

theorem tag?_of_ne {c : Char} (h : c ≠ '[') (rest : List Char) : tag? (c :: rest) = none := by
  unfold tag?
  split
  · next c' rest' e => exact absurd (List.cons.inj e).1 h
  · rfl

theorem tag?_bracketed {c : Char} {body : List Char} (start : isTagStart c)
    (inner : ∀ d ∈ body, isTagInner d) (after : List Char) :
    tag? ('[' :: c :: (body ++ ']' :: after)) = some (c :: body, after) := by
  have stops : isTagInner ']' = false := rfl
  have front : (body ++ ']' :: after).takeWhile isTagInner = body := by
    rw [List.takeWhile_append_of_pos inner, List.takeWhile_cons_of_neg (by simp [stops]),
      List.append_nil]
  have back : (body ++ ']' :: after).dropWhile isTagInner = ']' :: after := by
    rw [List.dropWhile_append_of_pos inner, List.dropWhile_cons_of_neg (by simp [stops])]
  simp [tag?, front, back, start]

theorem split_nil (before : List Char) : split before [] = textBefore before := by
  rw [split]

theorem split_cons {c : Char} {rest : List Char} (h : tag? (c :: rest) = none)
    (before : List Char) : split before (c :: rest) = split (c :: before) rest := by
  rw [split]
  split
  · next e =>
    rw [h] at e
    cases e
  · rfl

/-- Text without an opening bracket is kept for the piece that it will be part of. -/
theorem split_append {cs : List Char} (plain : '[' ∉ cs) (before rest : List Char) :
    split before (cs ++ rest) = split (cs.reverse ++ before) rest := by
  induction cs generalizing before with
  | nil => rfl
  | cons c cs ih =>
      rw [List.mem_cons, not_or] at plain
      have none : tag? (c :: (cs ++ rest)) = none := tag?_of_ne (Ne.symm plain.1) _
      rw [List.cons_append, split_cons none, ih plain.2, List.reverse_cons, List.append_assoc]
      rfl

/-- A tag that no backslash is in front of is a piece of its own. -/
theorem split_tag {cs body after before : List Char} (h : tag? cs = some (body, after))
    (unescaped : '\\' ∉ before) :
    split before cs = textBefore before ++ .text [] :: .tag body :: split [] after := by
  have none : before.takeWhile (· == '\\') = [] := by
    cases before with
    | nil => rfl
    | cons c before =>
        rw [List.mem_cons, not_or] at unescaped
        exact List.takeWhile_cons_of_neg (by simpa using Ne.symm unescaped.1)
  cases cs with
  | nil => cases h
  | cons c rest =>
      rw [split]
      split
      · next body' after' e =>
        obtain ⟨rfl, rfl⟩ := Prod.mk.inj (Option.some.inj (h.symm.trans e))
        simp [none, escapedPieces]
      · next e =>
        rw [h] at e
        cases e

end Piece

/-! ## Styles that apply -/

namespace Color

/-- The word does not begin as a color does that is given by its parts. -/
def HasNoParts (word : String) : Prop :=
  argument? "rgb(" (Text.lower word).toList = none

instance (word : String) : Decidable (HasNoParts word) :=
  inferInstanceAs (Decidable (_ = _))

theorem ofWord_eq_or {word : String} (h : HasNoParts word) :
    ofWord word = .ok (Text.lower word) ∨ ofWord word = .error .notAStyle := by
  rw [ofWord]
  split
  · exact .inl rfl
  · rw [h]
    exact .inr rfl

end Color

namespace Style

/-- The words describe a style or none, but no part of a color that is no number. -/
def IsCounted {α : Type} (x : Except StyleFault α) : Prop :=
  ∀ shownPart, x ≠ .error (.notANumber shownPart)

theorem isCounted_ofWordsOn {words : List String} (h : ∀ word ∈ words, Color.HasNoParts word)
    (style : Style) : IsCounted (ofWordsOn style words) := by
  have color {word : String} (h : Color.HasNoParts word) {next : String → Except StyleFault Style}
      (goesOn : ∀ name, IsCounted (next name)) : IsCounted (Color.ofWord word >>= next) := by
    rcases Color.ofWord_eq_or h with given | given
    · rw [given]
      exact goesOn _
    · rw [given]
      nofun
  fun_induction ofWordsOn style words with
  | case1 style => nofun
  | case2 style word => nofun
  | case3 style word => exact color (h word List.mem_cons_self) fun name => nofun
  | case4 style word next rest key isOn ih =>
      rw [List.forall_mem_cons, List.forall_mem_cons] at h
      exact color h.2.1 fun name => ih name h.2.2
  | case5 style word next rest key notOn isNot mark given ih =>
      rw [List.forall_mem_cons, List.forall_mem_cons] at h
      exact ih h.2.2
  | case6 => nofun
  | case7 style word next rest key notOn notNot isLink ih =>
      rw [List.forall_mem_cons, List.forall_mem_cons] at h
      exact ih h.2.2
  | case8 style word next rest key notOn notNot notLink mark given ih =>
      rw [List.forall_mem_cons] at h
      exact ih h.2
  | case9 style word next rest key notOn notNot notLink unmarked ih =>
      rw [List.forall_mem_cons] at h
      exact color h.1 fun name => ih name h.2

theorem isCounted_ofText {definition : String}
    (h : ∀ word ∈ splitWords definition, Color.HasNoParts word) :
    IsCounted (ofText definition) := by
  rw [ofText]
  split
  · intro shownPart unread
    cases unread
  · exact isCounted_ofWordsOn h {}

theorem check_eq_ok {definition : String}
    (h : ∀ word ∈ splitWords definition, Color.HasNoParts word) : check definition = .ok () := by
  have counted := isCounted_ofText h
  rw [check]
  cases described : ofText definition with
  | ok style => rfl
  | error fault =>
      cases fault with
      | notAStyle => rfl
      | notANumber shownPart => exact absurd described (counted shownPart)

/-- A word in small letters that stands for no mark is its own normal form, whether it names a color
or not. -/
theorem normalForm_of_word {word : String} (one : splitWords word = [word])
    (whole : Text.strip word = word) (small : Text.lower word = word)
    (unmarked : Mark.ofWord? word = none) (noParts : Color.HasNoParts word) :
    normalForm word = .ok word := by
  rw [normalForm, ofText, whole, small]
  split
  · next plain => rw [plain]; rfl
  · have words : ofWordsOn {} [word] = do return { color := some (← Color.ofWord word) } := by
      rw [ofWordsOn, small, unmarked]
    rw [one, words]
    rcases Color.ofWord_eq_or noParts with given | given
    · rw [given, small]
      rfl
    · rw [given]
      rfl

/-- A name of a style as the program puts it in tags. -/
structure IsName (name : String) : Prop where
  some : name.toList ≠ []
  small : ∀ c ∈ name.toList, 'a' ≤ c ∧ c ≤ 'z'
  whole : Text.strip name = name
  normal : Markup.normalName name = .ok name
  applied : check name = .ok ()

theorem IsName.of_normalForm {name : String} (some : name.toList ≠ [])
    (small : ∀ c ∈ name.toList, 'a' ≤ c ∧ c ≤ 'z') (whole : Text.strip name = name)
    (normal : normalForm name = .ok name)
    (noParts : ∀ word ∈ splitWords name, Color.HasNoParts word) : IsName name where
  some := some
  small := small
  whole := whole
  normal := by
    rw [Markup.normalName, normal]
    rfl
  applied := check_eq_ok noParts

/-- The names of the styles that the program uses. -/
def names : List String := ["bold", "dim", "cyan", "green", "red", "yellow"]

theorem normalForm_of_mem {name : String} (h : name ∈ names) : normalForm name = .ok name := by
  have marks : normalForm "bold" = .ok "bold" ∧ normalForm "dim" = .ok "dim" := ⟨rfl, rfl⟩
  have colors : ∀ name ∈ names, name = "bold" ∨ name = "dim" ∨
      splitWords name = [name] ∧ Text.strip name = name ∧ Text.lower name = name ∧
        Mark.ofWord? name = none ∧ Color.HasNoParts name := by
    decide +kernel
  rcases colors name h with rfl | rfl | ⟨one, whole, small, unmarked, noParts⟩
  · exact marks.1
  · exact marks.2
  · exact normalForm_of_word one whole small unmarked noParts

theorem isName_of_mem {name : String} (h : name ∈ names) : IsName name := by
  have all : ∀ name ∈ names, name.toList ≠ [] ∧ (∀ c ∈ name.toList, 'a' ≤ c ∧ c ≤ 'z') ∧
      Text.strip name = name ∧ ∀ word ∈ splitWords name, Color.HasNoParts word := by
    decide +kernel
  obtain ⟨some, small, whole, noParts⟩ := all name h
  exact .of_normalForm some small whole (normalForm_of_mem h) noParts

end Style

/-! ## Reading marked-up text -/

/-- All styles can be applied, and only characters with a property are shown. -/
structure Marked.Applies (P : Char → Prop) (marked : Marked) : Prop where
  applied : ∀ span ∈ marked.spans, Style.check span.definition = .ok ()
  shown : ∀ c ∈ marked.text, P c

theorem Marked.Applies.checkStyles_eq_ok {P : Char → Prop} {marked : Marked}
    (h : marked.Applies P) (isDivided : Bool) : marked.checkStyles isDivided = .ok () := by
  refine Result.forM_eq_ok_iff.mpr fun span hspan => ?_
  rw [h.applied span (List.mem_filter.mp hspan).1]
  rfl

namespace Piece

theorem unescapeBrackets_eq_self {cs : List Char} (plain : '[' ∉ cs) :
    unescapeBrackets cs = cs := by
  fun_induction unescapeBrackets cs with
  | case1 => rfl
  | case2 rest ih => simp at plain
  | case3 c rest other ih =>
      rw [List.mem_cons, not_or] at plain
      rw [ih plain.2]

end Piece

namespace Markup

/-- A text without tags that shows only characters with a property. -/
structure Shows (P : Char → Prop) (cs : List Char) : Prop where
  noTag : '[' ∉ cs
  shown : ∀ c ∈ shownText cs, P c

/-- A text without tags, whatever it shows. -/
theorem Shows.any {cs : List Char} (noTag : '[' ∉ cs) : Shows (fun _ => True) cs :=
  ⟨noTag, fun _ _ => trivial⟩

/-- No style is open, those that have ended can be applied, and only characters with a property are
shown. -/
structure State.IsSettled (P : Char → Prop) (state : State) : Prop where
  closed : state.openTags = []
  applied : ∀ span ∈ state.spans, Style.check span.definition = .ok ()
  shown : ∀ c ∈ state.shown, P c

/-- What has been read after a text without tags. -/
structure State.After (front : List Char) (state read : State) : Prop where
  openTags : read.openTags = state.openTags
  spans : read.spans = state.spans
  shown : ∀ c ∈ read.shown, c ∈ state.shown ∨ c ∈ shownText front

/-- A text can be read from a state on, and all styles can be applied in the end. -/
def Settles (P : Char → Prop) (cs : List Char) (state : State) : Prop :=
  ∃ last, (Piece.split [] cs).foldlM State.withPiece state = .ok last ∧ last.marked.Applies P

/-- A text cannot be read from a state on. -/
def Breaks (cs : List Char) (state : State) : Prop :=
  ∃ fault, (Piece.split [] cs).foldlM State.withPiece state = .error fault

variable {P : Char → Prop} {state : State} {front : List Char}

theorem State.isSettled_empty : State.IsSettled P {} := ⟨rfl, nofun, nofun⟩

theorem State.IsSettled.after {next : State} (h : state.IsSettled P)
    (after : state.After front next) (shows : Shows P front) : next.IsSettled P where
  closed := after.openTags.trans h.closed
  applied := by
    rw [after.spans]
    exact h.applied
  shown c hc := (after.shown c hc).elim (h.shown c) (shows.shown c)

theorem State.IsSettled.applies (h : state.IsSettled P) : state.marked.Applies P where
  applied := by
    have spans : state.marked.spans = state.spans := by simp [State.marked, h.closed]
    rw [spans]
    exact h.applied
  shown c hc := h.shown c (List.mem_reverse.mp hc)

theorem State.after_withText (state : State) (cs : List Char) :
    state.After cs (state.withText cs) := by
  refine ⟨rfl, rfl, fun c hc => ?_⟩
  rcases List.mem_append.mp hc with new | old
  · exact .inr (List.mem_reverse.mp new)
  · exact .inl old

/-- Text that has been kept for a piece is read before the pieces behind it. -/
theorem foldlM_textBefore (state : State) (noTag : '[' ∉ front) (pieces : List Piece) :
    ∃ read, state.After front read ∧
      (Piece.textBefore front.reverse ++ pieces).foldlM State.withPiece state =
        pieces.foldlM State.withPiece read := by
  rw [Piece.textBefore, List.reverse_reverse, Piece.unescapeBrackets_eq_self noTag]
  split
  · exact ⟨state, ⟨rfl, rfl, fun c hc => .inl hc⟩, rfl⟩
  · exact ⟨state.withText front, state.after_withText front, rfl⟩

/-- Text without tags can be read. -/
theorem settles_plain (h : state.IsSettled P) (shows : Shows P front) :
    Settles P front state := by
  obtain ⟨read, after, reads⟩ := foldlM_textBefore state shows.noTag []
  have pieces : Piece.split [] front = Piece.textBefore front.reverse ++ [] := by
    have cut := Piece.split_append shows.noTag [] []
    rwa [List.append_nil, Piece.split_nil, List.append_nil,
      ← List.append_nil (Piece.textBefore _)] at cut
  rw [Settles, pieces]
  exact ⟨read, reads, (h.after after shows).applies⟩

/-- A tag behind a text without tags: first the text is read, then the tag. -/
theorem foldlM_split_tag (state : State) {body : List Char} {c : Char}
    (plain : '[' ∉ front ∧ '\\' ∉ front) (start : Piece.isTagStart c)
    (inner : ∀ d ∈ body, Piece.isTagInner d) (after : List Char) :
    ∃ read, state.After front read ∧
      (Piece.split [] (front ++ '[' :: c :: (body ++ ']' :: after))).foldlM State.withPiece state =
        read.withPiece (.tag (c :: body)) >>= fun next =>
          (Piece.split [] after).foldlM State.withPiece next := by
  have unescaped : '\\' ∉ front.reverse := by simpa using plain.2
  have cut := Piece.split_append plain.1 [] ('[' :: c :: (body ++ ']' :: after))
  rw [List.append_nil, Piece.split_tag (Piece.tag?_bracketed start inner after) unescaped] at cut
  obtain ⟨read, reads, rest⟩ := foldlM_textBefore state plain.1
    (.text [] :: .tag (c :: body) :: Piece.split [] after)
  have empty := read.after_withText []
  have none : shownText [] = [] := by simp [shownText, Emoji.replace, Emoji.name?]
  refine ⟨read.withText [], ⟨empty.openTags.trans reads.openTags, empty.spans.trans reads.spans,
    fun c hc => reads.shown c ?_⟩, ?_⟩
  · rcases empty.shown c hc with old | new
    · exact old
    · rw [none] at new
      cases new
  · rw [cut, rest]
    rfl

theorem takeWhile_of_isName {name : String} (h : Style.IsName name) :
    name.toList.takeWhile (· != '=') = name.toList ∧ name.toList.dropWhile (· != '=') = [] := by
  have small : ∀ c ∈ name.toList, (c != '=') = true := by
    intro c hc
    have above := (h.small c hc).1
    rw [bne_iff_ne]
    rintro rfl
    exact absurd above (by decide)
  exact ⟨List.takeWhile_eq_self_iff.mpr small, List.dropWhile_eq_nil_iff.mpr small⟩

/-- A tag begins a style. -/
theorem withPiece_opening {name : String} (h : Style.IsName name) :
    state.withPiece (.tag name.toList) =
      .ok { state with openTags := ⟨name, none, state.length⟩ :: state.openTags } := by
  obtain ⟨front, back⟩ := takeWhile_of_isName h
  have opening : ∀ rest, name.toList ≠ '/' :: rest := by
    intro rest begins
    have above := (h.small '/' (by simp [begins])).1
    exact absurd above (by decide)
  rw [State.withPiece, front, back]
  split
  · next rest begins => exact absurd begins (opening rest)
  · rw [State.withOpened, String.ofList_toList, h.normal]
    rfl

/-- A tag ends the style that was begun last. -/
theorem withPiece_closing {name : String} (h : Style.IsName name) {start : Nat}
    {others : List OpenTag} (opened : state.openTags = ⟨name, none, start⟩ :: others) :
    state.withPiece (.tag ('/' :: name.toList)) =
      .ok { state with
        openTags := others, spans := state.spans ++ [⟨name, start, state.length⟩] } := by
  obtain ⟨front, -⟩ := takeWhile_of_isName h
  have closing : ('/' :: name.toList).takeWhile (· != '=') = '/' :: name.toList := by
    rw [List.takeWhile_cons_of_pos (by decide), front]
  have some : name.isEmpty = false := by
    rw [← Bool.not_eq_true, String.isEmpty_iff]
    rintro rfl
    exact h.some rfl
  have plain : OpenTag.isAction ⟨name, none, start⟩ = false := by
    rw [OpenTag.isAction, beq_eq_false_iff_ne]
    intro begins
    have above := (h.small '@' (List.mem_of_head? begins)).1
    exact absurd above (by decide)
  have found : (OpenTag.mk name none start :: others).find? (fun tag => tag.name = name) =
      Option.some ⟨name, none, start⟩ := by simp
  have ended : OpenTag.ended ⟨name, none, start⟩ state.length =
      .ok [⟨name, start, state.length⟩] := by
    rw [OpenTag.ended, plain]
    rfl
  simp only [State.withPiece, closing, State.withClosed, String.ofList_toList, h.whole, some,
    h.normal, opened, Bool.false_eq_true, if_false, Result.ok_bind, Result.pure_eq_ok, found,
    State.withEnded, ended, List.erase_cons_head]

/-- A text in one of the styles of the program is read before what follows it. -/
theorem foldlM_split_styled (h : state.IsSettled P) {name text : String}
    (isName : Style.IsName name) (plainFront : Shows P front ∧ '\\' ∉ front)
    (plain : Shows P text.toList ∧ '\\' ∉ text.toList) (rest : List Char) :
    ∃ next, next.IsSettled P ∧
      (Piece.split [] (front ++ (styled name text).toList ++ rest)).foldlM State.withPiece state =
        (Piece.split [] rest).foldlM State.withPiece next := by
  obtain ⟨c, body, letters⟩ := List.exists_cons_of_ne_nil isName.some
  have small (d : Char) (hd : d ∈ c :: body) : Piece.isTagStart d ∧ Piece.isTagInner d := by
    obtain ⟨low, high⟩ := isName.small d (letters ▸ hd)
    have noBracket : d ≠ '[' ∧ d ≠ ']' := by
      constructor <;> rintro rfl <;> exact absurd low (by decide)
    exact ⟨by simp [Piece.isTagStart, low, high], by simp [Piece.isTagInner, noBracket]⟩
  have parts : front ++ (styled name text).toList ++ rest =
      front ++ '[' :: c :: (body ++ ']' ::
        (text.toList ++ '[' :: '/' :: (name.toList ++ ']' :: rest))) := by
    simp [styled, toString, letters]
  obtain ⟨opening, after, reads⟩ := foldlM_split_tag state ⟨plainFront.1.noTag, plainFront.2⟩
    (small c List.mem_cons_self).1 (fun d hd => (small d (List.mem_cons_of_mem c hd)).2)
    (text.toList ++ '[' :: '/' :: (name.toList ++ ']' :: rest))
  rw [← letters, withPiece_opening isName, Result.ok_bind] at reads
  have opened := h.after after plainFront.1
  have slash : Piece.isTagStart '/' := rfl
  have inner : ∀ d ∈ name.toList, Piece.isTagInner d := fun d hd => (small d (letters ▸ hd)).2
  obtain ⟨closing, after', reads'⟩ := foldlM_split_tag
    { opening with openTags := ⟨name, none, opening.length⟩ :: opening.openTags }
    ⟨plain.1.noTag, plain.2⟩ slash inner rest
  rw [withPiece_closing isName after'.openTags, Result.ok_bind] at reads'
  rw [parts, reads, reads']
  refine ⟨{ closing with
    openTags := opening.openTags
    spans := closing.spans ++ [⟨name, opening.length, closing.length⟩] }, ?_, rfl⟩
  refine ⟨opened.closed, fun span hspan => ?_, fun d hd => ?_⟩
  · rcases List.mem_append.mp hspan with old | new
    · exact opened.applied span (by rwa [after'.spans] at old)
    · obtain rfl := List.mem_singleton.mp new
      exact isName.applied
  · exact (after'.shown d hd).elim (opened.shown d) (plain.1.shown d)

/-- A text in one of the styles of the program can be read between two texts. -/
theorem settles_styled (h : state.IsSettled P) {name text : String} (isName : Style.IsName name)
    {rest : List Char} (plainFront : Shows P front ∧ '\\' ∉ front)
    (plain : Shows P text.toList ∧ '\\' ∉ text.toList)
    (goesOn : ∀ next : State, next.IsSettled P → Settles P rest next) :
    Settles P (front ++ (styled name text).toList ++ rest) state := by
  obtain ⟨next, settled, reads⟩ := foldlM_split_styled h isName plainFront plain rest
  rw [Settles, reads]
  exact goesOn next settled

/-- Where no style is open a tag that ends one cannot be read. -/
theorem withPiece_stray (closed : state.openTags = []) (body : List Char) :
    ∃ fault, state.withPiece (.tag ('/' :: body)) = .error fault := by
  have ending : ('/' :: body).takeWhile (· != '=') = '/' :: body.takeWhile (· != '=') :=
    List.takeWhile_cons_of_pos (by decide)
  simp only [State.withPiece, ending, State.withClosed, closed]
  split
  · exact ⟨_, rfl⟩
  · cases normalName (Text.strip (String.ofList (body.takeWhile (· != '=')))) with
    | error fault => exact ⟨fault, rfl⟩
    | ok name => exact ⟨_, rfl⟩

/-- Nor can a text with such a tag. -/
theorem breaks_stray (closed : state.openTags = []) {body : List Char}
    (plain : '[' ∉ front ∧ '\\' ∉ front) (inner : ∀ d ∈ body, Piece.isTagInner d)
    (after : List Char) : Breaks (front ++ '[' :: '/' :: (body ++ ']' :: after)) state := by
  obtain ⟨read, reads, ends⟩ := foldlM_split_tag state plain (show Piece.isTagStart '/' from rfl)
    inner after
  obtain ⟨fault, stray⟩ := withPiece_stray (reads.openTags.trans closed) body
  exact ⟨fault, by rw [ends, stray]; rfl⟩

/-- What cannot be read behind a text in one of the styles of the program cannot be read with it. -/
theorem breaks_styled (h : state.IsSettled P) {name text : String} (isName : Style.IsName name)
    {rest : List Char} (plainFront : Shows P front ∧ '\\' ∉ front)
    (plain : Shows P text.toList ∧ '\\' ∉ text.toList)
    (goesOn : ∀ next : State, next.IsSettled P → Breaks rest next) :
    Breaks (front ++ (styled name text).toList ++ rest) state := by
  obtain ⟨next, settled, reads⟩ := foldlM_split_styled h isName plainFront plain rest
  rw [Breaks, reads]
  exact goesOn next settled

/-- A tag with parameters at the end of a text begins a style that ends with it. -/
theorem settles_opening (h : state.IsSettled P) {body parameters : List Char} {c : Char}
    {name : String} (plain : Shows P front ∧ '\\' ∉ front) (start : Piece.isTagStart c)
    (inner : ∀ d ∈ body, Piece.isTagInner d) (opening : c ≠ '/')
    (named : (c :: body).takeWhile (· != '=') = name.toList)
    (rest : (c :: body).dropWhile (· != '=') = '=' :: parameters)
    (normal : normalName name = .ok name)
    (applied : Style.check (name ++ " " ++ String.ofList parameters) = .ok ()) :
    Settles P (front ++ '[' :: c :: (body ++ [']'])) state := by
  obtain ⟨read, after, reads⟩ := foldlM_split_tag state ⟨plain.1.noTag, plain.2⟩ start inner []
  have begins : ∀ rest, name.toList ≠ '/' :: rest := by
    intro rest same
    rw [← named, List.takeWhile_cons] at same
    split at same
    · exact opening (List.cons.inj same).1
    · cases same
  have opened : read.withPiece (.tag (c :: body)) = .ok { read with
      openTags := ⟨name, some (String.ofList parameters), read.length⟩ :: read.openTags } := by
    rw [State.withPiece, named, rest]
    split
    · next rest same => exact absurd same (begins rest)
    · rw [State.withOpened, String.ofList_toList, normal]
      rfl
  have settled := h.after after plain.1
  rw [opened, Result.ok_bind, Piece.split_nil] at reads
  refine ⟨_, reads, fun span hspan => ?_, fun c hc => settled.shown c (List.mem_reverse.mp hc)⟩
  simp only [State.marked, settled.closed, List.map_cons, List.map_nil, List.mem_append,
    List.mem_singleton] at hspan
  rcases hspan with old | rfl
  · exact settled.applied span old
  · exact applied

/-! ## Showing what has been read -/

/-- The styles of a text that can be read to its end can be applied. -/
theorem exists_read_of_settles {s : String} (h : Settles P s.toList {}) :
    ∃ marked, read s = .ok marked ∧ marked.Applies P := by
  obtain ⟨last, reads, applies⟩ := h
  refine ⟨last.marked, ?_, applies⟩
  rw [read, reads]
  rfl

/-- Such a text can be shown. -/
theorem exists_line_of_settles {s : String} (h : Settles P s.toList {}) :
    ∃ shown, line s = .ok shown := by
  obtain ⟨marked, reads, applies⟩ := exists_read_of_settles h
  rw [line, reads, Result.ok_bind, applies.checkStyles_eq_ok, Result.ok_bind]
  exact ⟨_, rfl⟩

/-- A text that cannot be read is not printed. -/
theorem exists_print_error_of_breaks {s : String} (h : Breaks s.toList {}) :
    ∃ fault, print s = .error fault := by
  obtain ⟨fault, breaks⟩ := h
  exact ⟨fault, by rw [print, line, read, breaks]; rfl⟩

end Markup

/-! ## Text that is shown as it is -/

namespace Emoji

/-- Every colon is followed by a blank, so that no name of an emoji begins. -/
def namesNone : List Char → Bool
  | [] => true
  | c :: rest => (c != ':' || rest.head?.any Text.isBlank) && namesNone rest

theorem replace_of_namesNone {cs : List Char} (h : namesNone cs) : replace cs = cs := by
  induction cs with
  | nil => simp [replace, name?]
  | cons c rest ih =>
      rw [namesNone, Bool.and_eq_true] at h
      have none : name? (c :: rest) = none := by
        by_cases colon : c = ':'
        · subst colon
          cases rest with
          | nil => rfl
          | cons d rest =>
              have blank : Text.isBlank d := by simpa using h.1
              have other : d ≠ ':' := by
                rintro rfl
                exact absurd blank (by decide)
              simp [name?, isNameChar, blank, other]
        · unfold name?
          split
          · next e => exact absurd (List.cons.inj e).1 colon
          · rfl
      rw [replace]
      split
      · next e =>
        rw [none] at e
        cases e
      · simp only [ih h.2]

theorem namesNone_append {cs cs' : List Char} (h : namesNone cs) (h' : namesNone cs') :
    namesNone (cs ++ cs') := by
  induction cs with
  | nil => exact h'
  | cons c rest ih =>
      rw [namesNone, Bool.and_eq_true] at h
      rw [List.cons_append, namesNone, ih h.2, Bool.and_true]
      cases rest with
      | nil =>
          have other : c ≠ ':' := by simpa using h.1
          simp [other]
      | cons d rest => exact h.1

theorem namesNone_of_notMem {cs : List Char} (h : ':' ∉ cs) : namesNone cs := by
  induction cs with
  | nil => rfl
  | cons c rest ih =>
      rw [List.mem_cons, not_or] at h
      simp [namesNone, ih h.2, Ne.symm h.1]

end Emoji

/-- A character that is no half of a surrogate pair. -/
abbrev IsWhole (c : Char) : Prop :=
  Text.isHalf c = false

/-- Text without tags, names of emoji and halves of surrogate pairs. -/
structure IsPlain (cs : List Char) : Prop where
  noTag : '[' ∉ cs
  noBackslash : '\\' ∉ cs
  noName : Emoji.namesNone cs
  whole : ∀ c ∈ cs, IsWhole c

instance (cs : List Char) : Decidable (IsPlain cs) :=
  decidable_of_iff
    ('[' ∉ cs ∧ '\\' ∉ cs ∧ Emoji.namesNone cs ∧ ∀ c ∈ cs, IsWhole c)
    ⟨fun ⟨noTag, noBackslash, noName, whole⟩ => ⟨noTag, noBackslash, noName, whole⟩,
      fun h => ⟨h.noTag, h.noBackslash, h.noName, h.whole⟩⟩

namespace IsPlain

variable {cs cs' : List Char}

theorem append (h : IsPlain cs) (h' : IsPlain cs') : IsPlain (cs ++ cs') where
  noTag := by simp [h.noTag, h'.noTag]
  noBackslash := by simp [h.noBackslash, h'.noBackslash]
  noName := Emoji.namesNone_append h.noName h'.noName
  whole c hc := (List.mem_append.mp hc).elim (h.whole c) (h'.whole c)

theorem shows (h : IsPlain cs) : Markup.Shows IsWhole cs where
  noTag := h.noTag
  shown c hc := by
    rw [Markup.shownText, Emoji.replace_of_namesNone h.noName] at hc
    exact h.whole c (List.mem_filter.mp hc).1

end IsPlain

end ScriptVet.Console
