import ScriptVet.Proofs.Json.Depth
import ScriptVet.Proofs.Json.Limits

/-!
# A text inside another

What a reader makes of a text does not change when the text goes on behind the value, as long as
nothing stands there that a number could go on into. So a text that is put into an object is read
as it is read alone, by a reader that may open one less.
-/

namespace ScriptVet.Json.Reader

/-- The character may stand in a number. -/
def isNumeric (c : Char) : Bool :=
  c.isDigit || ['.', 'e', 'E', '-', '+'].contains c

/-- A text that a value before it does not go on into, even if the value breaks off. -/
def EndsValue (more : List Char) : Prop :=
  ∀ c ∈ more.head?, isNumeric c = false

theorem EndsValue.endsNumber {more : List Char} (ends : EndsValue more) : EndsNumber more := by
  intro c first
  have foreign := ends c first
  simp only [isNumeric, Bool.or_eq_false_iff, List.contains_cons, beq_eq_false_iff_ne] at foreign
  exact ⟨foreign.1, foreign.2.1, foreign.2.2.1, foreign.2.2.2.1⟩

/-- What is read of a text with more behind it: the same, and more is left. Nothing is said about
texts that are no JSON. -/
def Extends {α : Type} (more : List Char) (first second : Except JsonFault (α × List Char)) :
    Prop :=
  first = .error .malformed ∨ second = first.map fun (a, rest) => (a, rest ++ more)

section

variable {α β : Type} {more : List Char} {first second : Except JsonFault (α × List Char)}

theorem Extends.map (f : α → β) (extends' : Extends more first second) :
    Extends more (first.map fun (a, tail) => (f a, tail))
      (second.map fun (a, tail) => (f a, tail)) := by
  rcases extends' with rfl | rfl
  · exact .inl rfl
  · right
    cases first <;> rfl

theorem Extends.bind {next next' : α × List Char → Except JsonFault (β × List Char)}
    (extends' : Extends more first second)
    (later : ∀ a rest, Extends more (next (a, rest)) (next' (a, rest ++ more))) :
    Extends more (first >>= next) (second >>= next') := by
  rcases extends' with rfl | rfl
  · exact .inl rfl
  · cases first with
    | error fault => exact .inr rfl
    | ok read => exact later read.1 read.2

theorem extends_malformed (more : List Char) (second : Except JsonFault (α × List Char)) :
    Extends more (.error .malformed) second :=
  .inl rfl

theorem extends_ok (a : α) (rest more : List Char) :
    Extends more (.ok (a, rest)) (.ok (a, rest ++ more)) :=
  .inr rfl

theorem extends_error (more : List Char) (fault : JsonFault) :
    Extends (α := α) more (.error fault) (.error fault) :=
  .inr rfl

end

/-- How a text begins is seen at its first character. -/
theorem cons_append_ne {c d : Char} {cs : List Char} (other : ∀ tail, d :: cs ≠ c :: tail)
    (more tail : List Char) : d :: cs ++ more ≠ c :: tail :=
  fun begins => other cs (congrArg (· :: cs) (List.cons.inj begins).1)

section

variable {more : List Char} (ends : EndsValue more)

include ends

/-- What does not begin like the rest of a number does not so with more behind it. -/
theorem append_ne_cons {c : Char} (numeric : isNumeric c) {cs : List Char}
    (other : ∀ tail, cs ≠ c :: tail) (tail : List Char) : cs ++ more ≠ c :: tail := by
  intro begins
  cases cs with
  | nil =>
      rw [List.nil_append] at begins
      have foreign : isNumeric c = false := ends c (by rw [begins]; rfl)
      rw [numeric] at foreign
      cases foreign
  | cons d cs => exact cons_append_ne other more tail begins

theorem spanDigits_extended (cs : List Char) :
    spanDigits (cs ++ more) = ((spanDigits cs).1, (spanDigits cs).2 ++ more) := by
  induction cs with
  | nil =>
      have none : ∀ c ∈ ([] : List Char), c.isDigit := nofun
      exact spanDigits_append none ends.endsNumber
  | cons c cs ih =>
      simp only [spanDigits_eq, Prod.mk.injEq, List.cons_append] at ih ⊢
      by_cases digit : c.isDigit
      · simp only [List.takeWhile_cons_of_pos digit, List.dropWhile_cons_of_pos digit, ih]
        trivial
      · simp only [List.takeWhile_cons_of_neg digit, List.dropWhile_cons_of_neg digit,
          List.cons_append]
        trivial

theorem spanFraction_extended (cs : List Char) :
    spanFraction (cs ++ more) = ((spanFraction cs).1, (spanFraction cs).2 ++ more) := by
  fun_cases spanFraction cs with
  | case1 rest _ found =>
      rw [List.cons_append, spanFraction, spanDigits_extended ends, found]
  | case2 rest digits after some found =>
      rw [List.cons_append, spanFraction, spanDigits_extended ends, found]
      cases digits with
      | nil => exact absurd rfl some
      | cons c digits => rfl
  | case3 cs noPoint =>
      rw [spanFraction]
      exact append_ne_cons ends (by decide) fun tail begins => noPoint tail begins

theorem exponentOf_extended (whole : List Char) (negative : Bool) (rest : List Char) :
    exponentOf (whole ++ more) negative (rest ++ more) =
      ((exponentOf whole negative rest).1, (exponentOf whole negative rest).2 ++ more) := by
  rw [exponentOf, exponentOf, spanDigits_extended ends]
  rcases spanDigits rest with ⟨_ | ⟨c, digits⟩, after⟩ <;> rfl

theorem spanExponent_extended (cs : List Char) :
    spanExponent (cs ++ more) = ((spanExponent cs).1, (spanExponent cs).2 ++ more) := by
  fun_cases spanExponent cs with
  | case1 rest => exact exponentOf_extended ends ('e' :: '-' :: rest) true rest
  | case2 rest => exact exponentOf_extended ends ('E' :: '-' :: rest) true rest
  | case3 rest => exact exponentOf_extended ends ('e' :: '+' :: rest) false rest
  | case4 rest => exact exponentOf_extended ends ('E' :: '+' :: rest) false rest
  | case5 rest noMinus noPlus =>
      rw [List.cons_append, spanExponent]
      · exact exponentOf_extended ends ('e' :: rest) false rest
      · exact append_ne_cons ends (by decide) noMinus
      · exact append_ne_cons ends (by decide) noPlus
  | case6 rest noMinus noPlus =>
      rw [List.cons_append, spanExponent]
      · exact exponentOf_extended ends ('E' :: rest) false rest
      · exact append_ne_cons ends (by decide) noMinus
      · exact append_ne_cons ends (by decide) noPlus
  | case7 cs _ _ _ _ noSmall noCapital =>
      have small := append_ne_cons ends (by decide) noSmall
      have capital := append_ne_cons ends (by decide) noCapital
      rw [spanExponent] <;> first | exact fun _ => small _ | exact fun _ => capital _

/-- A leading zero stands alone, whatever comes behind. -/
theorem spanWhole_extended (cs : List Char) :
    spanWhole (cs ++ more) = ((spanWhole cs).1, (spanWhole cs).2 ++ more) := by
  fun_cases spanWhole cs with
  | case1 rest => rfl
  | case2 cs noZero =>
      rw [spanWhole]
      · exact spanDigits_extended ends cs
      · exact append_ne_cons ends (by decide) fun tail begins => noZero tail begins

theorem extends_readUnsigned (dialect : JsonDialect) (negative : Bool) (cs : List Char) :
    Extends more (readUnsigned dialect negative cs)
      (readUnsigned dialect negative (cs ++ more)) := by
  simp only [readUnsigned, spanWhole_extended ends, spanFraction_extended ends,
    spanExponent_extended ends]
  split
  · exact .inl rfl
  · split
    · exact .inr rfl
    · split <;> exact .inr rfl

omit ends in
theorem readName_extended {cs rest : List Char} {v : Json} (named : readName cs = .ok (v, rest)) :
    readName (cs ++ more) = .ok (v, rest ++ more) := by
  fun_cases readName cs with
  | case7 others =>
      rw [readName] at named
      · cases named
      all_goals assumption
  | _ =>
      cases named
      rfl

omit ends in
theorem readUnsigned_of_not_isDigit (dialect : JsonDialect) (negative : Bool) {cs : List Char}
    (other : ∀ c ∈ cs.head?, c.isDigit = false) :
    readUnsigned dialect negative cs = .error .malformed := by
  have nothing : spanWhole cs = ([], cs) := by
    cases cs with
    | nil => rfl
    | cons c cs =>
        have digit : c.isDigit = false := other c rfl
        rw [spanWhole]
        · rw [spanDigits_eq, List.takeWhile_cons_of_neg (by rw [digit]; decide),
            List.dropWhile_cons_of_neg (by rw [digit]; decide)]
        · rintro tail ⟨⟩
          cases digit
  rw [readUnsigned, nothing]
  rfl

omit ends in
/-- A value with neither a name nor a digit at its beginning. -/
theorem readScalar_malformed (dialect : JsonDialect) {cs : List Char} {fault : JsonFault}
    (unnamed : readName cs = .error fault) (other : ∀ c ∈ cs.head?, c.isDigit = false)
    (unsigned : ∀ c rest, cs = '-' :: c :: rest → c.isDigit = false) :
    readScalar dialect cs = .error .malformed := by
  unfold readScalar
  split
  · next named =>
    rw [named] at unnamed
    cases unnamed
  · next rest _ =>
    refine readUnsigned_of_not_isDigit dialect true fun c first => ?_
    obtain ⟨tail, begins⟩ := List.head?_eq_some_iff.mp first
    exact unsigned c tail (by rw [begins])
  · exact readUnsigned_of_not_isDigit dialect false other

/-- More behind a value completes no name, or the text was no JSON without. -/
theorem extends_readScalar (dialect : JsonDialect) (cs : List Char) :
    Extends more (readScalar dialect cs) (readScalar dialect (cs ++ more)) := by
  cases named : readName cs with
  | ok read =>
      right
      obtain ⟨v, rest⟩ := read
      simp only [readScalar, named, readName_extended named]
      rfl
  | error fault =>
      -- A name may be completed by what comes behind, a number that has begun may not.
      by_cases digit : ∃ c rest, cs = c :: rest ∧ c.isDigit
      · obtain ⟨c, rest, rfl, digit⟩ := digit
        rw [List.cons_append, readScalar_of_isDigit dialect digit,
          readScalar_of_isDigit dialect digit]
        exact extends_readUnsigned ends dialect false (c :: rest)
      · by_cases signed : ∃ c rest, cs = '-' :: c :: rest ∧ c.isDigit
        · obtain ⟨c, rest, rfl, after⟩ := signed
          rw [List.cons_append, List.cons_append, readScalar_minus dialect after,
            readScalar_minus dialect after]
          exact extends_readUnsigned ends dialect true (c :: rest)
        · left
          refine readScalar_malformed dialect named (fun c first => ?_) fun c rest begins => ?_
          · obtain ⟨rest, begins⟩ := List.head?_eq_some_iff.mp first
            exact Bool.eq_false_iff.mpr fun is => digit ⟨c, rest, begins, is⟩
          · exact Bool.eq_false_iff.mpr fun is => signed ⟨c, rest, begins, is⟩

end

/-- A text ends with its closing quote. -/
theorem extends_readText (dialect : JsonDialect) (cs more : List Char) :
    Extends more (readText dialect cs) (readText dialect (cs ++ more)) := by
  cases read : readText dialect cs with
  | error fault => exact .inl (congrArg _ (readText_error read))
  | ok found =>
      obtain ⟨used, rfl, whatever⟩ := exists_used_of_readText read
      right
      rw [List.append_assoc, whatever]
      rfl

/-- Blanks at the beginning are skipped whatever comes behind, unless there is nothing else. -/
theorem skipSpace_append {cs : List Char} (some : skipSpace cs ≠ []) (more : List Char) :
    skipSpace (cs ++ more) = skipSpace cs ++ more := by
  rw [skipSpace, List.dropWhile_append, if_neg]
  · rfl
  · rwa [List.isEmpty_iff]

theorem skipSpace_append_of_cons {c : Char} {cs tail : List Char}
    (inner : skipSpace cs = c :: tail) (more : List Char) :
    skipSpace (cs ++ more) = c :: (tail ++ more) := by
  have some : skipSpace cs ≠ [] := by simp [inner]
  rw [skipSpace_append some, inner, List.cons_append]

theorem skipSpace_blanks {cs : List Char} (nothing : skipSpace cs = []) (more : List Char) :
    skipSpace (cs ++ more) = skipSpace more := by
  rw [skipSpace] at nothing
  rw [skipSpace, List.dropWhile_append, if_pos (List.isEmpty_iff.mpr nothing)]
  rfl

theorem readValue_nil (dialect : JsonDialect) (fuel depth : Nat) :
    readValue dialect fuel depth [] = .error .malformed := by
  cases fuel <;> rfl

/-- The characters that a value may begin with, digits aside. -/
def beginnings : List Char :=
  ['"', '[', '\x7b', 'n', 't', 'f', 'N', 'I', '-']

theorem readValue_of_notMem_beginnings (dialect : JsonDialect) (fuel depth : Nat) {c : Char}
    (foreign : c ∉ beginnings) (digit : c.isDigit = false) (rest : List Char) :
    readValue dialect fuel depth (c :: rest) = .error .malformed := by
  have other {d : Char} (listed : d ∈ beginnings) (tail : List Char) : c :: rest ≠ d :: tail := by
    rintro ⟨⟩
    exact foreign listed
  have unnamed : readName (c :: rest) = .error .malformed := by
    rw [readName] <;> exact fun _ => other (by decide) _
  cases fuel with
  | zero => rfl
  | succ fuel =>
      rw [readValue_other dialect fuel depth (other (by decide)) (other (by decide))
        (other (by decide))]
      refine readScalar_malformed dialect unnamed ?_ fun d tail signed => ?_
      · rintro _ ⟨⟩
        exact digit
      · exact absurd signed (other (by decide) _)

theorem readItems_nil (dialect : JsonDialect) (fuel depth : Nat) :
    readItems dialect fuel depth [] = .error .malformed := by
  cases fuel with
  | zero => rfl
  | succ fuel => rw [readItems_succ, readValue_nil, Result.error_bind]

theorem readFields_nil (dialect : JsonDialect) (fuel depth : Nat) :
    readFields dialect fuel depth [] = .error .malformed := by
  cases fuel <;> rfl

/-- More behind a text changes nothing but what a step with so much fuel leaves. -/
def IsLocal {α : Type} (more : List Char)
    (step : Nat → Nat → List Char → Except JsonFault (α × List Char)) (fuel : Nat) : Prop :=
  ∀ fuel' depth cs, fuel ≤ fuel' → Extends more (step fuel depth cs) (step fuel' depth (cs ++ more))

section

variable {α : Type} {more : List Char}

theorem Extends.opened {close : Char} {empty : Json}
    {step step' : List Char → Except JsonFault (Json × List Char)}
    (nothing : step [] = .error .malformed)
    (later : ∀ inner, Extends more (step inner) (step' (inner ++ more))) (cs : List Char) :
    Extends more (opened close empty step cs) (opened close empty step' (cs ++ more)) := by
  cases inner : skipSpace cs with
  | nil =>
      left
      rw [Reader.opened, inner]
      exact nothing
  | cons c tail =>
      rw [Reader.opened, Reader.opened, skipSpace_append_of_cons inner, inner]
      simp only
      split
      · exact extends_ok empty tail more
      · exact later (c :: tail)

theorem Extends.listed {close : Char} {first : α}
    {others others' : List Char → Except JsonFault (List α × List Char)}
    (nothing : others [] = .error .malformed)
    (later : ∀ rest, Extends more (others rest) (others' (rest ++ more))) (cs : List Char) :
    Extends more (listed close first others cs) (listed close first others' (cs ++ more)) := by
  cases inner : skipSpace cs with
  | nil =>
      left
      rw [Reader.listed, inner]
  | cons c tail =>
      rw [Reader.listed, Reader.listed, skipSpace_append_of_cons inner, inner]
      simp only
      split
      · exact extends_ok [first] tail more
      split
      · by_cases blank : skipSpace tail = []
        · rw [blank, nothing]
          exact extends_malformed more _
        · rw [skipSpace_append blank]
          exact (later _).map (first :: ·)
      · exact extends_malformed more _

theorem Extends.keyed {step step' : List Char → Except JsonFault (α × List Char)}
    (nothing : step [] = .error .malformed)
    (later : ∀ rest, Extends more (step rest) (step' (rest ++ more))) (cs : List Char) :
    Extends more (keyed step cs) (keyed step' (cs ++ more)) := by
  cases inner : skipSpace cs with
  | nil =>
      left
      rw [Reader.keyed, inner]
  | cons c tail =>
      rw [Reader.keyed, Reader.keyed, skipSpace_append_of_cons inner, inner]
      simp only
      split
      · by_cases blank : skipSpace tail = []
        · rw [blank, nothing]
          exact extends_malformed more _
        · rw [skipSpace_append blank]
          exact later _
      · exact extends_malformed more _

end

/-- An array or object that holds nothing has to count among the open ones: else it is seen only
behind the bracket how deep it is. -/
theorem extends_collection {dialect : JsonDialect} (counts : dialect.countsEmpty)
    {more : List Char} {close : Char} {empty : Json} (inObject : Bool) (depth : Nat)
    {step step' : List Char → Except JsonFault (Json × List Char)}
    (nothing : step [] = .error .malformed)
    (later : ∀ inner, Extends more (step inner) (step' (inner ++ more))) (cs : List Char) :
    Extends more
      (if depth = 0 && dialect.countsEmpty then .error (.tooDeep inObject)
        else opened close empty
          (fun inner => if depth = 0 then .error (.tooDeep inObject) else step inner) cs)
      (if depth = 0 && dialect.countsEmpty then .error (.tooDeep inObject)
        else opened close empty
          (fun inner => if depth = 0 then .error (.tooDeep inObject) else step' inner)
          (cs ++ more)) := by
  by_cases zero : depth = 0
  · simp only [zero, counts, decide_true, Bool.and_true, if_true]
    exact extends_error more _
  · simp only [zero, decide_false, Bool.false_and, Bool.false_eq_true, if_false]
    exact Extends.opened nothing later cs

/-- Step by step, more behind a text changes nothing but what is left. -/
theorem isLocal_steps {dialect : JsonDialect} (counts : dialect.countsEmpty) {more : List Char}
    (ends : EndsValue more) (fuel : Nat) :
    IsLocal more (readValue dialect) fuel ∧ IsLocal more (readItems dialect) fuel ∧
      IsLocal more (readFields dialect) fuel := by
  induction fuel with
  | zero => exact ⟨fun _ _ _ _ => .inl rfl, fun _ _ _ _ => .inl rfl, fun _ _ _ _ => .inl rfl⟩
  | succ fuel ih =>
      obtain ⟨value, items, fields⟩ := ih
      refine ⟨fun fuel' depth cs enough => ?_, fun fuel' depth cs enough => ?_,
        fun fuel' depth cs enough => ?_⟩
      all_goals
        obtain ⟨fuel', rfl⟩ : ∃ n, fuel' = n + 1 := Nat.exists_eq_succ_of_ne_zero (by omega)
        have enough : fuel ≤ fuel' := by omega
      · cases begins cs with
        | text rest =>
            rw [List.cons_append, readValue_text, readValue_text]
            exact (extends_readText dialect rest more).map Json.str
        | array rest =>
            rw [List.cons_append, readValue_array, readValue_array]
            refine extends_collection counts false depth ?_ (fun inner => ?_) rest
            · rw [readItems_nil]
              rfl
            · exact (items fuel' (depth - 1) inner enough).map Json.arr
        | object rest =>
            rw [List.cons_append, readValue_object, readValue_object]
            refine extends_collection counts true depth ?_ (fun inner => ?_) rest
            · rw [readFields_nil]
              rfl
            · exact (fields fuel' (depth - 1) inner enough).map fun fields =>
                Json.obj (ofFields fields)
        | other noText noArray noObject =>
            cases cs with
            | nil => exact .inl (readValue_nil dialect _ depth)
            | cons c tail =>
                rw [readValue_other dialect fuel depth noText noArray noObject,
                  readValue_other dialect fuel' depth (cons_append_ne noText more)
                    (cons_append_ne noArray more) (cons_append_ne noObject more)]
                exact extends_readScalar ends dialect (c :: tail)
      · rw [readItems_succ, readItems_succ]
        exact (value fuel' depth cs enough).bind fun item rest =>
          Extends.listed (readItems_nil dialect fuel depth)
            (fun rest => items fuel' depth rest enough) rest
      · by_cases named : ∃ text, cs = '"' :: text
        · obtain ⟨text, rfl⟩ := named
          rw [List.cons_append, readFields_text, readFields_text]
          refine (extends_readText dialect text more).bind fun key rest => ?_
          refine Extends.keyed ?_ (fun blanks => ?_) rest
          · rw [readValue_nil, Result.error_bind]
          · exact (value fuel' depth blanks enough).bind fun v rest =>
              Extends.listed (readFields_nil dialect fuel depth)
                (fun rest => fields fuel' depth rest enough) rest
        · rw [readFields_other dialect fuel depth (not_exists.mp named)]
          exact extends_malformed more _

/-! ## A text in an object -/

/-- The steps of a reader know how deep they may go; the reader need not tell them. -/
theorem steps_withLimits (dialect : JsonDialect) (deep fuel : Nat) :
    readValue (dialect.withLimits deep dialect.digitLimit) fuel = readValue dialect fuel ∧
      readItems (dialect.withLimits deep dialect.digitLimit) fuel = readItems dialect fuel ∧
      readFields (dialect.withLimits deep dialect.digitLimit) fuel = readFields dialect fuel := by
  induction fuel with
  | zero => exact ⟨rfl, rfl, rfl⟩
  | succ fuel ih =>
      obtain ⟨value, items, fields⟩ := ih
      have scalar (cs : List Char) : readScalar (dialect.withLimits deep dialect.digitLimit) cs =
          readScalar dialect cs := rfl
      have empty : (dialect.withLimits deep dialect.digitLimit).countsEmpty = dialect.countsEmpty :=
        rfl
      refine ⟨?_, ?_, ?_⟩
      all_goals
        funext depth cs
      · simp only [readValue, readText_withLimits, items, fields, scalar, empty]
      · simp only [readItems, value, items]
      · simp only [readFields, readText_withLimits, value, fields]

/-- A reader that differs in its depth goes the same steps. -/
theorem read_withLimits (dialect : JsonDialect) (deep : Nat) (cs : List Char) :
    read (dialect.withLimits deep dialect.digitLimit) cs = (do
      let (v, rest) ← readValue dialect (2 * cs.length + 2) deep (skipSpace cs)
      if (skipSpace rest).isEmpty then .ok v else .error .malformed) := by
  rw [read, (steps_withLimits dialect _ _).1]
  rfl

/-- Who may go deeper reads what was read. -/
theorem read_of_withLimits {dialect : JsonDialect} {deep : Nat} (le : deep ≤ dialect.depth)
    {cs : List Char} {v : Json}
    (given : read (dialect.withLimits deep dialect.digitLimit) cs = .ok v) :
    read dialect cs = .ok v := by
  rw [read_withLimits, Result.bind_eq_ok] at given
  obtain ⟨⟨v', rest⟩, value, ends⟩ := given
  rw [read, (read_of_le dialect _).1 le value]
  exact ends

/-- The text of an object whose only field holds what another text spells. -/
def objectText (key : String) (cs : List Char) : List Char :=
  '\x7b' :: (quote false key ++ ':' :: (cs ++ ['\x7d']))

theorem readValue_objectText (dialect : JsonDialect) (fuel : Nat) {depth : Nat}
    (opens : depth ≠ 0) (key : String) (cs : List Char) :
    readValue dialect (fuel + 1) depth (objectText key cs) =
      (readFields dialect fuel (depth - 1)
        (quote false key ++ ':' :: (cs ++ ['\x7d']))).map fun (fields, tail) =>
          (.obj (ofFields fields), tail) :=
  readValue_brace dialect fuel opens (skipSpace_quote false key _) (by decide)

/-- A value that is text already, as the only field of an object. -/
theorem readFields_only (dialect : JsonDialect) (fuel depth : Nat) (key : String)
    (text : List Char) :
    (∀ fault, readValue dialect fuel depth (skipSpace text) = .error fault →
      readFields dialect (fuel + 1) depth (quote false key ++ ':' :: text) = .error fault) ∧
    ∀ v rest tail, readValue dialect fuel depth (skipSpace text) = .ok (v, rest) →
      skipSpace rest = '\x7d' :: tail →
      readFields dialect (fuel + 1) depth (quote false key ++ ':' :: text) =
        .ok ([(key, v)], tail) := by
  have whole : false → Text.holdsHalf key = false := nofun
  have colon : skipSpace (':' :: text) = ':' :: text := skipSpace_cons (by decide) text
  rw [readFields_quote dialect fuel depth whole, keyed_of_colon colon]
  refine ⟨fun fault failed => ?_, fun v rest tail read closes => ?_⟩
  · rw [failed, Result.error_bind]
  · rw [read, Result.ok_bind]
    exact listed_of_close closes

/-- A text that is put into an object is read there as it is read alone by a reader that may open
one less. -/
theorem read_objectText {dialect : JsonDialect} (counts : dialect.countsEmpty)
    (opens : dialect.depth ≠ 0) (key : String) {cs : List Char}
    (isJson : read (dialect.withLimits (dialect.depth - 1) dialect.digitLimit) cs ≠
      .error .malformed) :
    read dialect (objectText key cs) =
      (read (dialect.withLimits (dialect.depth - 1) dialect.digitLimit) cs).map fun v =>
        .obj [(key, v)] := by
  have ends : EndsValue ['\x7d'] := by
    rintro c ⟨⟩
    decide
  obtain ⟨fuel, long, enough⟩ : ∃ fuel, 2 * (objectText key cs).length + 2 = fuel + 2 ∧
      2 * cs.length + 2 ≤ fuel := by
    refine ⟨2 * (objectText key cs).length, rfl, ?_⟩
    simp only [objectText, List.length_cons, List.length_append]
    omega
  have whole : skipSpace (objectText key cs) = objectText key cs := skipSpace_cons (by decide) _
  rw [read_withLimits] at isJson ⊢
  have some : skipSpace cs ≠ [] := by
    intro nothing
    rw [nothing, readValue_nil] at isJson
    exact isJson rfl
  obtain ⟨fails, goesOn⟩ := readFields_only dialect fuel (dialect.depth - 1) key
    (cs ++ ['\x7d'])
  rw [skipSpace_append some] at fails goesOn
  rw [read, long, whole, readValue_objectText dialect (fuel + 1) opens]
  -- Behind the key the value is read with more fuel and with the closing brace behind it.
  rcases (isLocal_steps counts ends _).1 fuel (dialect.depth - 1) (skipSpace cs) enough with
    malformed | value
  · rw [malformed] at isJson
    exact absurd rfl isJson
  · cases inner : readValue dialect (2 * cs.length + 2) (dialect.depth - 1) (skipSpace cs) with
    | error fault =>
        rw [inner] at value
        rw [fails fault value]
        rfl
    | ok read =>
        obtain ⟨v, rest⟩ := read
        rw [inner] at value isJson
        by_cases ended : skipSpace rest = []
        · have closes : skipSpace (rest ++ ['\x7d']) = ['\x7d'] := skipSpace_blanks ended _
          rw [goesOn v _ [] value closes, Result.ok_bind]
          simp only [ended]
          rfl
        · rw [Result.ok_bind] at isJson
          simp only [List.isEmpty_iff, if_neg ended] at isJson
          exact absurd rfl isJson

end ScriptVet.Json.Reader
