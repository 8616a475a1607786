import ScriptVet.Proofs.Analyzer.Comments

/-!
# The two forms of a report

A linter lists its comments in an array, or in an object that has the array as its comments. Both
forms tell the same, with one difference: the object is one more that is open while the array is
read, so an array that goes as deep as the reader goes is read alone and not in the object.
-/

namespace ScriptVet

namespace Json.Reader

/-! ## Arrays inside one another -/

/-- Arrays inside one another, the innermost without items. -/
def arrays : Nat → Json
  | 0 => .arr []
  | n + 1 => .arr [arrays n]

/-- Their text before another one. -/
def arraysText : Nat → List Char → List Char
  | 0, rest => '[' :: ']' :: rest
  | n + 1, rest => '[' :: arraysText n (']' :: rest)

theorem arraysText_eq_cons (n : Nat) (rest : List Char) :
    ∃ tail, arraysText n rest = '[' :: tail := by
  cases n <;> exact ⟨_, rfl⟩

theorem length_arraysText (n : Nat) (rest : List Char) :
    (arraysText n rest).length = 2 * n + 2 + rest.length := by
  induction n generalizing rest with
  | zero =>
      simp only [arraysText, List.length_cons]
      omega
  | succ n ih =>
      rw [arraysText, List.length_cons, ih, List.length_cons]
      omega

/-- Arrays inside one another are read exactly by those who may go as deep. -/
theorem readValue_arraysText {dialect : JsonDialect} (counts : dialect.countsEmpty) {n fuel : Nat}
    (enough : 2 * n < fuel) (depth : Nat) (rest : List Char) :
    readValue dialect fuel depth (arraysText n rest) =
      if n < depth then .ok (arrays n, rest) else .error (.tooDeep false) := by
  induction n generalizing fuel depth rest with
  | zero =>
      obtain ⟨fuel, rfl⟩ : ∃ k, fuel = k + 1 := Nat.exists_eq_succ_of_ne_zero (by omega)
      cases depth with
      | zero => simp [readValue, arraysText, counts]
      | succ depth =>
          rw [if_pos (Nat.zero_lt_succ _), arraysText]
          exact readValue_eq_ok_iff.mpr (.noItems (by simp) rfl)
  | succ n ih =>
      obtain ⟨fuel, rfl⟩ : ∃ k, fuel = k + 2 := ⟨fuel - 2, by omega⟩
      cases depth with
      | zero => simp [readValue, arraysText, counts]
      | succ depth =>
          obtain ⟨tail, begins⟩ := arraysText_eq_cons n (']' :: rest)
          have inner : skipSpace (arraysText n (']' :: rest)) = '[' :: tail := by
            rw [begins]
            exact skipSpace_cons (by decide) tail
          rw [arraysText, readValue_bracket dialect (fuel + 1) (by omega) inner (by decide),
            ← begins, readItems, Nat.add_sub_cancel, ih (by omega)]
          by_cases fits : n < depth
          · rw [if_pos fits, if_pos (by omega)]
            rfl
          · rw [if_neg fits, if_neg (by omega)]
            rfl

theorem read_arraysText {dialect : JsonDialect} (counts : dialect.countsEmpty) (n : Nat) :
    read dialect (arraysText n []) =
      if n < dialect.depth then .ok (arrays n) else .error (.tooDeep false) := by
  obtain ⟨tail, begins⟩ := arraysText_eq_cons n []
  have start : skipSpace (arraysText n []) = arraysText n [] := by
    rw [begins]
    exact skipSpace_cons (by decide) tail
  rw [read, start, readValue_arraysText counts (by rw [length_arraysText]; omega)]
  split <;> rfl

end Json.Reader

namespace Lint

open Json.Reader (IsModest Spells)

/-- An array of comments in the form of an object. -/
def named (s : String) : String :=
  "\x7b\"comments\":" ++ s ++ "\x7d"

/-- The text can be read inside an object, where so many more arrays and objects may be opened. -/
def FitsInside (depth : Nat) (s : String) : Prop :=
  ∃ v, Json.parseWithin depth s = .ok v

theorem toList_named (s : String) :
    (named s).toList = Json.Reader.objectText "comments" s.toList := by
  have key : "\x7b\"comments\":".toList = '\x7b' :: (Json.quote false "comments" ++ [':']) := by
    decide +kernel
  rw [named, String.toList_append, String.toList_append, key, Json.Reader.objectText]
  simp

variable {depth : Nat}

/-- The object is what it would be with the array read by itself, one array less deep. -/
theorem parse_named {s : String} (isJson : Json.parseWithin depth s ≠ .error .malformed) :
    Json.parseWithin (depth + 1) (named s) =
      (Json.parseWithin depth s).map fun v => .obj [("comments", v)] := by
  rw [Json.parseWithin, toList_named]
  exact Json.Reader.read_objectText rfl (Nat.succ_ne_zero depth) "comments" isJson

section

variable {s : String} {v : Json} (spelled : Spells (.lenient depth) s.toList v)

include spelled

/-- A text is read inside an object as it is read alone. -/
theorem parse_named_of_fitsInside (fits : FitsInside depth s) :
    Json.parseWithin (depth + 1) s = .ok v ∧
      Json.parseWithin (depth + 1) (named s) = .ok (.obj [("comments", v)]) := by
  have inside : Json.parseWithin depth s = .ok v := by
    obtain ⟨v', given⟩ := fits
    have same : Spells (.lenient depth) s.toList v' := Json.Reader.spells_of_read given
    rw [Spells, spelled] at same
    rw [given, ← Except.ok.inj same]
  have deeper : depth ≤ (JsonDialect.lenient (depth + 1)).depth := Nat.le_succ depth
  refine ⟨Json.Reader.read_of_withLimits deeper inside, ?_⟩
  rw [parse_named (by simp [inside]), inside]
  rfl

theorem parse_named_of_not_fitsInside (not : ¬ FitsInside depth s) :
    ∃ fault, fault ≠ .malformed ∧ Json.parseWithin (depth + 1) (named s) = .error fault := by
  rcases spelled.read_eq with inside | ⟨fault, reason, refused⟩
  · exact absurd ⟨v, inside⟩ not
  · have here : Json.parseWithin depth s = .error fault := refused
    refine ⟨fault, reason, ?_⟩
    rw [parse_named (by rw [here]; exact fun same => reason (Except.error.inj same)), here]
    rfl

end

section

variable {s : String} {items : List Json} (spelled : Spells (.lenient depth) s.toList (.arr items))

include spelled

/-- The comments of both forms of a report. -/
theorem comments?_named_of_fitsInside (fits : FitsInside depth s) :
    comments? (depth + 1) s = .ok (some (items.filterMap Json.fields?)) ∧
      comments? (depth + 1) (named s) = .ok (some (items.filterMap Json.fields?)) := by
  obtain ⟨bare, wrapped⟩ := parse_named_of_fitsInside spelled fits
  exact ⟨comments?_of_lists bare (.bare items), comments?_of_lists wrapped (.named rfl)⟩

/-- What cannot be read inside an object makes linting break off there. -/
theorem comments?_named_of_not_fitsInside (not : ¬ FitsInside depth s) :
    ∃ fault, fault ≠ .malformed ∧ comments? (depth + 1) (named s) = .error (.json fault) := by
  obtain ⟨fault, reason, refused⟩ := parse_named_of_not_fitsInside spelled not
  exact ⟨fault, reason, comments?_of_error refused reason⟩

end

/-! ## Arrays that go as deep as the reader goes -/

/-- Arrays that leave no room for the object around them. -/
def deepest (depth : Nat) : String :=
  String.ofList (Json.Reader.arraysText depth [])

theorem parse_deepest (depth : Nat) :
    Json.parseWithin (depth + 1) (deepest depth) = .ok (Json.Reader.arrays depth) := by
  rw [Json.parseWithin, deepest, String.toList_ofList, Json.Reader.read_arraysText rfl]
  exact if_pos (Nat.lt_succ_self depth)

/-- Alone they are a report without comments. -/
theorem comments?_deepest (depth : Nat) :
    comments? (depth + 1) (deepest depth) = .ok (some []) := by
  cases depth with
  | zero => exact comments?_of_lists (parse_deepest 0) (.bare [])
  | succ n =>
      have noObject : [Json.Reader.arrays n].filterMap Json.fields? = [] := by
        cases n <;> rfl
      rw [comments?_of_lists (parse_deepest (n + 1)) (.bare [Json.Reader.arrays n]), noObject]

/-- In an object they are refused. -/
theorem comments?_named_deepest (depth : Nat) :
    comments? (depth + 1) (named (deepest depth)) = .error (.json (.tooDeep false)) := by
  have inside : Json.parseWithin depth (deepest depth) = .error (.tooDeep false) := by
    rw [Json.parseWithin, deepest, String.toList_ofList, Json.Reader.read_arraysText rfl]
    exact if_neg (Nat.lt_irrefl depth)
  have refused :
      Json.parseWithin (depth + 1) (named (deepest depth)) = .error (.tooDeep false) := by
    rw [parse_named (by simp [inside]), inside]
    rfl
  exact comments?_of_error refused (by simp)

end Lint

namespace Analyzer

open Json.Reader (IsModest Spells)

/-- An array of comments is read alone and in an object alike exactly if it can be read inside an
object, and then linting comes to the same. That it can is plain for an array that opens few others
and has no long integers; if it cannot, the object is refused. All of that is so however deep the
reader goes, if it goes into anything at all. -/
theorem lint_forms_agree {depth : Nat} {s : String} {items : List Json}
    (spelled : Spells (.lenient depth) s.toList (.arr items)) :
    let comments := items.filterMap Json.fields?
    (Lint.comments? (depth + 1) s = .ok (some comments) ∧
        Lint.comments? (depth + 1) (Lint.named s) = .ok (some comments) ↔
      Lint.FitsInside depth s) ∧
    (Lint.FitsInside depth s → ∀ settings script m m' stdout stdout' stderr code,
      LinterEnds settings script m stdout stderr code →
      LinterEnds settings script m' stdout' stderr code →
      Text.Utf8.decodeLossy stdout = s → Text.Utf8.decodeLossy stdout' = Lint.named s →
        (((lintWithin (depth + 1) settings).analyze script).run m).1 =
          (((lintWithin (depth + 1) settings).analyze script).run m').1) ∧
    (¬ Lint.FitsInside depth s → ∃ fault, fault ≠ .malformed ∧
      Lint.comments? (depth + 1) (Lint.named s) = .error (.json fault)) ∧
    (IsModest (.lenient depth) s.toList → Lint.FitsInside depth s) := by
  intro comments
  refine ⟨⟨fun both => ?_, fun fits => Lint.comments?_named_of_fitsInside spelled fits⟩, ?_,
    Lint.comments?_named_of_not_fitsInside spelled, fun modest => ?_⟩
  · by_contra not
    obtain ⟨fault, -, refused⟩ := Lint.comments?_named_of_not_fitsInside spelled not
    rw [refused] at both
    cases both.2
  · intro fits settings script m m' stdout stdout' stderr code ends ends' bare wrapped
    obtain ⟨alone, inside⟩ := Lint.comments?_named_of_fitsInside spelled fits
    rw [run_lintWithin_of_linterEnds ends, run_lintWithin_of_linterEnds ends', bare, wrapped,
      Lint.verdict, Lint.verdict, alone, inside]
  · exact ⟨_, spelled.read_of_isModest modest⟩

/-- An array with one comment comes to the same in both forms for a reader that goes four deep. -/
theorem lint_forms_agree_on_comment :
    let script : Script := ⟨"s", .bash, none, "ls", [], true⟩
    let s := "[\x7b\"level\":\"error\"\x7d]"
    let run (output : String) :=
      (((lintWithin 4 .atRoot).analyze script).run
        (.answering (.finished (Text.Utf8.encodeString output) [] 1))).1
    Lint.FitsInside 3 s ∧
      Lint.comments? 4 s = .ok (some [[("level", .str "error")]]) ∧
      Lint.comments? 4 (Lint.named s) = .ok (some [[("level", .str "error")]]) ∧
      run s = run (Lint.named s) := by
  intro script s run
  have plain : (Json.arr [.obj [("level", .str "error")]]).IsPlain :=
    ⟨⟨⟨trivial, trivial⟩, by simp⟩, trivial⟩
  have given : Json.parseWithin 3 s = .ok (.arr [.obj [("level", .str "error")]]) := by
    rw [Lint.parse_of_written (by decide +kernel) plain (by decide)]
    rfl
  obtain ⟨alike, agree, -, -⟩ := lint_forms_agree (Json.Reader.spells_of_read given)
  have fits : Lint.FitsInside 3 s := ⟨_, given⟩
  obtain ⟨alone, inside⟩ := alike.mpr fits
  exact ⟨fits, alone, inside, agree fits _ _ _ _ _ _ _ _ (linterEnds_answering script _ [] 1)
    (linterEnds_answering script _ [] 1) (Text.Utf8.decodeLossy_encodeString _)
    (Text.Utf8.decodeLossy_encodeString _)⟩

/-- However deep the reader goes, arrays that go as deep are read alone and make linting break off
in an object. For the usual depth they are 975. -/
theorem lint_breaks_at_deep_comments :
    let script : Script := ⟨"s", .bash, none, "ls", [], true⟩
    let run (depth : Nat) (output : String) :=
      (((lintWithin depth .atRoot).analyze script).run
        (.answering (.finished (Text.Utf8.encodeString output) [] 0))).1
    let Differs (depth : Nat) (s : String) : Prop :=
      Lint.comments? depth s = .ok (some []) ∧ (∃ r, run depth s = .ok r) ∧
        Lint.comments? depth (Lint.named s) = .error (.json (.tooDeep false)) ∧
        run depth (Lint.named s) = .error (.json (.tooDeep false))
    Differs JsonDialect.usualDepth (Lint.deepest 974) ∧
      ∀ depth, Differs (depth + 1) (Lint.deepest depth) := by
  intro script run Differs
  have runs (depth : Nat) (output : String) :
      run depth output = Lint.verdict depth output (Text.Utf8.decodeLossy []) 0 := by
    have comes := run_lintWithin_of_linterEnds
      (linterEnds_answering script (Text.Utf8.encodeString output) [] 0) depth
    rwa [Text.Utf8.decodeLossy_encodeString] at comes
  have differs (depth : Nat) : Differs (depth + 1) (Lint.deepest depth) := by
    have alone := Lint.comments?_deepest depth
    have wrapped := Lint.comments?_named_deepest depth
    refine ⟨alone, ?_, wrapped, ?_⟩
    · rw [runs]
      exact (Lint.exists_translation alone (by simp) _ (by decide)).imp fun _ both => both.1
    · rw [runs, Lint.verdict_of_error wrapped]
  exact ⟨differs 974, differs⟩

end Analyzer

end ScriptVet
