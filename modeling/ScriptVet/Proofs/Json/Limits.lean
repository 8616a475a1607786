import Mathlib.Data.List.TakeDrop
import ScriptVet.Proofs.Json.Steps

/-!
# What stops a reader

Besides what is no JSON, a reader refuses a text for two reasons of its own: too many arrays and
objects would be open at once, or an integer has too many digits. Each reason is a good one: the
text does open so many, or holds so many digits in a row. Readers that differ in their limits alone
do not differ in what they read, so there is one value that a text spells, limits aside, and a
reader either reads that value or gives one of its reasons.
-/

namespace ScriptVet

/-- The same reader with other limits. -/
def JsonDialect.withLimits (dialect : JsonDialect) (depth : Nat) (limit : Option Nat) :
    JsonDialect :=
  { dialect with depth := depth, digitLimit := limit }

namespace Json.Reader

/-! ## Good reasons -/

/-- How many arrays and objects a text opens. -/
def opens (cs : List Char) : Nat :=
  cs.countP fun c => c == '[' || c == '\x7b'

/-- The text holds a run of so many digits. -/
def HoldsDigits (length : Nat) (cs : List Char) : Prop :=
  ∃ digits, digits <:+: cs ∧ (∀ c ∈ digits, c.isDigit) ∧ digits.length = length

/-- A reader that may open `depth` more arrays and objects is right to refuse the text. -/
def IsReason (dialect : JsonDialect) (depth : Nat) (cs : List Char) : JsonFault → Prop
  | .malformed => True
  | .tooDeep _ => depth < opens cs
  | .numeralTooLong digits => dialect.digitLimit.any (· < digits) ∧ HoldsDigits digits cs

/-- Either the end of the text is left, or there is a reason. -/
def Accounts {α : Type} (dialect : JsonDialect) (depth : Nat) (cs : List Char) :
    Except JsonFault (α × List Char) → Prop :=
  Result.Meets (fun read => read.2 <:+ cs) (IsReason dialect depth cs)

section

variable {α β : Type} {dialect : JsonDialect} {depth : Nat} {cs cs' : List Char}

theorem IsReason.of_suffix {fault : JsonFault} (inside : cs' <:+ cs)
    (reason : IsReason dialect depth cs' fault) : IsReason dialect depth cs fault := by
  cases fault with
  | malformed => trivial
  | tooDeep inObject => exact Nat.lt_of_lt_of_le reason (inside.sublist.countP_le)
  | numeralTooLong length =>
      obtain ⟨limit, digits, part, all, long⟩ := reason
      exact ⟨limit, digits, part.trans inside.isInfix, all, long⟩

theorem Accounts.of_suffix {read : Except JsonFault (α × List Char)} (inside : cs' <:+ cs)
    (accounts : Accounts dialect depth cs' read) : Accounts dialect depth cs read := by
  cases read with
  | ok read => exact accounts.trans inside
  | error fault => exact IsReason.of_suffix inside accounts

theorem Accounts.bind {read : Except JsonFault (α × List Char)}
    {next : α × List Char → Except JsonFault (β × List Char)}
    (first : Accounts dialect depth cs read)
    (later : ∀ a rest, Accounts dialect depth rest (next (a, rest))) :
    Accounts dialect depth cs (read >>= next) := by
  cases read with
  | ok read => exact (later read.1 read.2).of_suffix first
  | error fault => exact first

theorem Accounts.map {read : Except JsonFault (α × List Char)} (f : α → β)
    (accounts : Accounts dialect depth cs read) :
    Accounts dialect depth cs (read.map fun (a, tail) => (f a, tail)) := by
  cases read <;> exact accounts

/-- What is inside an array or object may open one less. -/
theorem Accounts.inside {c : Char} (opening : c = '[' ∨ c = '\x7b')
    {read : Except JsonFault (α × List Char)} (accounts : Accounts dialect (depth - 1) cs read) :
    Accounts dialect depth (c :: cs) read := by
  cases read with
  | ok read => exact accounts.trans (List.suffix_cons c cs)
  | error fault =>
      cases fault with
      | malformed => trivial
      | tooDeep inObject =>
          have one : opens (c :: cs) = opens cs + 1 := by
            rcases opening with rfl | rfl <;> simp [opens]
          have inner : depth - 1 < opens cs := accounts
          change depth < opens (c :: cs)
          omega
      | numeralTooLong length =>
          have reason : IsReason dialect depth cs (.numeralTooLong length) := accounts
          exact reason.of_suffix (List.suffix_cons c cs)

theorem skipSpace_suffix (cs : List Char) : skipSpace cs <:+ cs :=
  List.dropWhile_suffix _

end

/-! ## What a string uses -/

/-- A string that was read uses the beginning of the text, whatever comes behind. -/
def Uses (dialect : JsonDialect) (pending : Option Nat) (cs text rest : List Char) : Prop :=
  ∃ used, cs = used ++ rest ∧
    ∀ more, readString dialect pending (used ++ more) = some (text, more)

/-- A step that changes the text that was read and leaves the rest. -/
def ActsOnText (step : Option (List Char × List Char) → Option (List Char × List Char)) : Prop :=
  ∀ read text rest, step read = some (text, rest) →
    ∃ others, read = some (others, rest) ∧ ∀ more, step (some (others, more)) = some (text, more)

theorem actsOnText_addChar (c? : Option Char) : ActsOnText (addChar c?) := by
  intro read text rest added
  obtain ⟨c, rfl, mapped⟩ := Option.bind_eq_some_iff.mp added
  obtain ⟨⟨others, rest'⟩, same, parts⟩ := Option.map_eq_some_iff.mp mapped
  cases parts
  exact ⟨others, same, fun more => rfl⟩

theorem actsOnText_addHalf (dialect : JsonDialect) (pending : Option Nat) :
    ActsOnText (addHalf dialect pending) := by
  intro read text rest added
  cases pending with
  | none => exact ⟨text, added, fun more => rfl⟩
  | some unit => exact actsOnText_addChar _ _ _ _ added

theorem ActsOnText.comp {second first : Option (List Char × List Char) →
    Option (List Char × List Char)} (later : ActsOnText second) (earlier : ActsOnText first) :
    ActsOnText (second ∘ first) := by
  intro read text rest done
  obtain ⟨others, same, again⟩ := later _ _ _ done
  obtain ⟨others', same', again'⟩ := earlier _ _ _ same
  exact ⟨others', same', fun more => (congrArg second (again' more)).trans (again more)⟩

theorem Uses.step {dialect : JsonDialect} {pending : Option Nat} {cs text rest : List Char}
    (head : List Char) (pending' : Option Nat)
    {step : Option (List Char × List Char) → Option (List Char × List Char)}
    (acts : ActsOnText step)
    (goes : ∀ tail, readString dialect pending (head ++ tail) =
      step (readString dialect pending' tail))
    (later : ∀ {others}, readString dialect pending' cs = some (others, rest) →
      Uses dialect pending' cs others rest)
    (read : readString dialect pending (head ++ cs) = some (text, rest)) :
    Uses dialect pending (head ++ cs) text rest := by
  rw [goes] at read
  obtain ⟨others, same, again⟩ := acts _ _ _ read
  obtain ⟨used, rfl, whatever⟩ := later same
  refine ⟨head ++ used, (List.append_assoc _ _ _).symm, fun more => ?_⟩
  rw [List.append_assoc, goes, whatever, again]

theorem uses_of_readString {dialect : JsonDialect} {pending : Option Nat}
    {cs text rest : List Char} (read : readString dialect pending cs = some (text, rest)) :
    Uses dialect pending cs text rest := by
  induction pending, cs using readString.induct generalizing text with
  | case1 => cases read
  | case2 pending tail =>
      have ends (more : List Char) : readString dialect pending ('"' :: more) =
          addHalf dialect pending (some ([], more)) := by
        rw [readString]
      rw [ends] at read
      obtain ⟨others, same, again⟩ := actsOnText_addHalf dialect pending _ _ _ read
      cases same
      exact ⟨['"'], rfl, fun more => (ends more).trans (again more)⟩
  | case3 pending a b c d tail number =>
      rw [readString, number] at read
      cases read
  | case4 pending a b c d tail unit number high ih =>
      refine Uses.step ['\\', 'u', a, b, c, d] (some unit)
        (actsOnText_addHalf dialect pending) (fun more => ?_) ih read
      change readString dialect pending ('\\' :: 'u' :: a :: b :: c :: d :: more) = _
      rw [readString, number]
      simp only [high, if_true]
  | case5 a b c d tail unit number notHigh ih =>
      refine Uses.step ['\\', 'u', a, b, c, d] none
        (actsOnText_addChar (unitChar? dialect unit)) (fun more => ?_) ih read
      change readString dialect none ('\\' :: 'u' :: a :: b :: c :: d :: more) = _
      rw [readString, number]
      simp only [notHigh, Bool.false_eq_true, if_false]
  | case6 a b c d tail unit number notHigh first low ih =>
      refine Uses.step ['\\', 'u', a, b, c, d] none
        (actsOnText_addChar (some (pairChar first unit))) (fun more => ?_) ih read
      change readString dialect (some first) ('\\' :: 'u' :: a :: b :: c :: d :: more) = _
      rw [readString, number]
      simp only [notHigh, Bool.false_eq_true, if_false, low, if_true]
  | case7 a b c d tail unit number notHigh first notLow ih =>
      refine Uses.step ['\\', 'u', a, b, c, d] none
        ((actsOnText_addHalf dialect (some first)).comp
          (actsOnText_addChar (unitChar? dialect unit)))
        (fun more => ?_) ih read
      change readString dialect (some first) ('\\' :: 'u' :: a :: b :: c :: d :: more) = _
      rw [readString, number]
      simp only [notHigh, Bool.false_eq_true, if_false, notLow, Function.comp_apply]
  | case8 pending c tail incomplete ih =>
      have escape (h : c ≠ 'u') (more : List Char) :
          readString dialect pending ('\\' :: c :: more) =
            addHalf dialect pending (addChar (simpleEscape? c) (readString dialect none more)) := by
        rw [readString]
        exact fun a b c' d more' named _ => h named
      by_cases named : c = 'u'
      · rw [readString] at read
        · obtain ⟨others, same, -⟩ := actsOnText_addHalf dialect pending _ _ _ read
          rw [named] at same
          cases same
        · exact incomplete
      · exact Uses.step ['\\', c] none
          ((actsOnText_addHalf dialect pending).comp (actsOnText_addChar (simpleEscape? c)))
          (escape named) ih read
  | case9 pending c tail notQuote noUnit noEscape refused =>
      rw [readString, if_pos refused] at read
      · cases read
      · exact notQuote
      · exact noUnit
      · exact noEscape
  | case10 pending c tail notQuote noUnit noEscape plain ih =>
      refine Uses.step [c] none
        ((actsOnText_addHalf dialect pending).comp (actsOnText_addChar (some c)))
        (fun more => ?_) ih read
      have noBackslash : c ≠ '\\' := by
        simp only [Bool.or_eq_true, decide_eq_true_eq, not_or] at plain
        exact plain.2
      rw [List.singleton_append, readString, if_neg plain]
      · rfl
      · exact notQuote
      · exact fun a b c' d more' escaped _ => noBackslash escaped
      · exact fun c' more' escaped _ => noBackslash escaped

/-- A text that was read uses the beginning, whatever comes behind it. -/
theorem exists_used_of_readText {dialect : JsonDialect} {cs rest : List Char} {s : String}
    (read : readText dialect cs = .ok (s, rest)) :
    ∃ used, cs = used ++ rest ∧ ∀ more, readText dialect (used ++ more) = .ok (s, more) := by
  rw [readText] at read
  split at read
  · cases read
  · next text tail found =>
    cases read
    obtain ⟨used, same, whatever⟩ := uses_of_readString found
    exact ⟨used, same, fun more => by rw [readText, whatever]⟩

theorem readText_error {dialect : JsonDialect} {cs : List Char} {fault : JsonFault}
    (failed : readText dialect cs = .error fault) : fault = .malformed := by
  rw [readText] at failed
  split at failed <;> cases failed
  rfl

/-! ## What a number uses -/

theorem spanDigits_eq (cs : List Char) :
    spanDigits cs = (cs.takeWhile Char.isDigit, cs.dropWhile Char.isDigit) :=
  List.span_eq_takeWhile_dropWhile _ _

theorem spanDigits_suffix (cs : List Char) : (spanDigits cs).2 <:+ cs := by
  rw [spanDigits_eq]
  exact List.dropWhile_suffix _

theorem spanFraction_suffix (cs : List Char) : (spanFraction cs).2 <:+ cs := by
  fun_cases spanFraction cs with
  | case1 rest => exact List.suffix_refl _
  | case2 rest digits after _ found =>
      have tail : (spanDigits rest).2 <:+ rest := spanDigits_suffix rest
      rw [found] at tail
      exact tail.trans (List.suffix_cons '.' rest)
  | case3 cs _ => exact List.suffix_refl _

/-- The exponent that digits after a letter and a sign write; nothing is read if there are none. -/
def exponentOf (whole : List Char) (negative : Bool) (rest : List Char) :
    Option Int × List Char :=
  match spanDigits rest with
  | ([], _) => (none, whole)
  | (digits, after) =>
    let size : Int := natOfDigits digits
    (some (if negative then -size else size), after)

theorem exponentOf_suffix {whole rest : List Char} (inside : rest <:+ whole) (negative : Bool) :
    (exponentOf whole negative rest).2 <:+ whole := by
  have tail := (spanDigits_suffix rest).trans inside
  rw [exponentOf]
  split
  · exact List.suffix_refl _
  · next digits after _ found =>
    rw [found] at tail
    exact tail

theorem spanExponent_suffix (cs : List Char) : (spanExponent cs).2 <:+ cs := by
  fun_cases spanExponent cs with
  | case1 rest => exact exponentOf_suffix (List.suffix_append ['e', '-'] rest) true
  | case2 rest => exact exponentOf_suffix (List.suffix_append ['E', '-'] rest) true
  | case3 rest => exact exponentOf_suffix (List.suffix_append ['e', '+'] rest) false
  | case4 rest => exact exponentOf_suffix (List.suffix_append ['E', '+'] rest) false
  | case5 rest | case6 rest => exact exponentOf_suffix (List.suffix_cons _ rest) false
  | case7 => exact List.suffix_refl _

/-- The digits before a point stand at the beginning. -/
theorem spanWhole_spec (cs : List Char) :
    cs = (spanWhole cs).1 ++ (spanWhole cs).2 ∧ ∀ c ∈ (spanWhole cs).1, c.isDigit := by
  fun_cases spanWhole cs with
  | case1 rest => exact ⟨rfl, List.forall_mem_singleton.mpr rfl⟩
  | case2 cs _ =>
      rw [spanDigits_eq]
      exact ⟨List.takeWhile_append_dropWhile.symm, List.all_eq_true.mp List.all_takeWhile⟩

theorem accounts_readUnsigned (dialect : JsonDialect) (depth : Nat) (negative : Bool)
    (cs : List Char) : Accounts dialect depth cs (readUnsigned dialect negative cs) := by
  obtain ⟨parts, digits⟩ := spanWhole_spec cs
  have rest : (spanExponent (spanFraction (spanWhole cs).2).2).2 <:+ cs := by
    have tail := (spanExponent_suffix _).trans (spanFraction_suffix (spanWhole cs).2)
    exact tail.trans ⟨_, parts.symm⟩
  simp only [readUnsigned]
  split
  · trivial
  · split
    · next long =>
      rw [Bool.and_eq_true] at long
      exact ⟨long.2, _, ⟨[], (spanWhole cs).2, by rw [List.nil_append, ← parts]⟩, digits, rfl⟩
    · split <;> exact rest

theorem accounts_readName (dialect : JsonDialect) (depth : Nat) (cs : List Char) :
    Accounts dialect depth cs (readName cs) := by
  fun_cases readName cs with
  | case1 rest => exact List.suffix_append ['n', 'u', 'l', 'l'] rest
  | case2 rest => exact List.suffix_append ['t', 'r', 'u', 'e'] rest
  | case3 rest => exact List.suffix_append ['f', 'a', 'l', 's', 'e'] rest
  | case4 rest => exact List.suffix_append ['N', 'a', 'N'] rest
  | case5 rest => exact List.suffix_append ['I', 'n', 'f', 'i', 'n', 'i', 't', 'y'] rest
  | case6 rest => exact List.suffix_append ['-', 'I', 'n', 'f', 'i', 'n', 'i', 't', 'y'] rest
  | case7 => trivial

theorem accounts_readScalar (dialect : JsonDialect) (depth : Nat) (cs : List Char) :
    Accounts dialect depth cs (readScalar dialect cs) := by
  unfold readScalar
  split
  · next named =>
    rw [← named]
    exact accounts_readName dialect depth _
  · next rest _ =>
    exact (accounts_readUnsigned dialect depth true rest).of_suffix (List.suffix_cons '-' rest)
  · exact accounts_readUnsigned dialect depth false _

theorem accounts_readText (dialect : JsonDialect) (depth : Nat) (cs : List Char) :
    Accounts dialect depth cs (readText dialect cs) := by
  cases read : readText dialect cs with
  | ok found =>
      obtain ⟨used, same, -⟩ := exists_used_of_readText read
      exact ⟨used, same.symm⟩
  | error fault =>
      rw [readText_error read]
      trivial

/-- A text that opens something where nothing may be opened goes too deep. -/
theorem accounts_tooDeep {α : Type} (dialect : JsonDialect) {c : Char}
    (opening : c = '[' ∨ c = '\x7b') (cs : List Char) (inObject : Bool) :
    Accounts (α := α) dialect 0 (c :: cs) (.error (.tooDeep inObject)) := by
  have one : opens (c :: cs) = opens cs + 1 := by
    rcases opening with rfl | rfl <;> simp [opens]
  change 0 < opens (c :: cs)
  omega

theorem suffix_of_skipSpace {cs rest : List Char} {c : Char} (begins : skipSpace cs = c :: rest) :
    rest <:+ cs := by
  have tail : skipSpace cs <:+ cs := skipSpace_suffix cs
  rw [begins] at tail
  exact (List.suffix_cons c rest).trans tail

section

variable {α : Type} {dialect : JsonDialect} {depth : Nat}

theorem Accounts.opened {bracket : Char} {cs : List Char} {close : Char} {empty : Json}
    {step : List Char → Except JsonFault (Json × List Char)}
    (later : ∀ inner, inner <:+ cs → Accounts dialect depth (bracket :: cs) (step inner)) :
    Accounts dialect depth (bracket :: cs) (opened close empty step cs) := by
  have inside := skipSpace_suffix cs
  rw [Reader.opened]
  cases begins : skipSpace cs with
  | nil => exact later [] (List.nil_suffix)
  | cons c tail =>
      rw [begins] at inside
      by_cases closes : c = close
      · simp only [if_pos closes]
        exact (suffix_of_skipSpace begins).trans (List.suffix_cons bracket cs)
      · simp only [if_neg closes]
        exact later _ inside

theorem Accounts.listed {close : Char} {first : α}
    {others : List Char → Except JsonFault (List α × List Char)}
    (later : ∀ rest, Accounts dialect depth rest (others rest)) (cs : List Char) :
    Accounts dialect depth cs (listed close first others cs) := by
  rw [Reader.listed]
  cases begins : skipSpace cs with
  | nil => trivial
  | cons c tail =>
      have inside := suffix_of_skipSpace begins
      by_cases closes : c = close
      · simp only [if_pos closes]
        exact inside
      by_cases comma : c = ','
      · simp only [if_neg closes, if_pos comma]
        exact ((later _).of_suffix ((skipSpace_suffix tail).trans inside)).map (first :: ·)
      · simp only [if_neg closes, if_neg comma]
        trivial

theorem Accounts.keyed {step : List Char → Except JsonFault (α × List Char)}
    (later : ∀ rest, Accounts dialect depth rest (step rest)) (cs : List Char) :
    Accounts dialect depth cs (keyed step cs) := by
  rw [Reader.keyed]
  cases begins : skipSpace cs with
  | nil => trivial
  | cons c tail =>
      by_cases colon : c = ':'
      · simp only [if_pos colon]
        exact (later _).of_suffix ((skipSpace_suffix tail).trans (suffix_of_skipSpace begins))
      · simp only [if_neg colon]
        trivial

end

/-- Behind a bracket that may be opened there is one less to open. -/
theorem accounts_collection {dialect : JsonDialect} {bracket close : Char} {empty : Json}
    (opening : bracket = '[' ∨ bracket = '\x7b') (inObject : Bool) (depth : Nat)
    {step : List Char → Except JsonFault (Json × List Char)}
    (later : ∀ inner, Accounts dialect (depth - 1) inner (step inner)) (cs : List Char) :
    Accounts dialect depth (bracket :: cs)
      (if depth = 0 && dialect.countsEmpty then .error (.tooDeep inObject)
        else opened close empty
          (fun inner => if depth = 0 then .error (.tooDeep inObject) else step inner) cs) := by
  split
  · next none =>
    rw [Bool.and_eq_true, decide_eq_true_eq] at none
    rw [none.1]
    exact accounts_tooDeep dialect opening cs inObject
  · refine Accounts.opened fun inner inside => ?_
    split
    · next zero =>
      rw [zero]
      exact accounts_tooDeep dialect opening cs inObject
    · exact ((later inner).of_suffix inside).inside opening

/-- Every step of the reader leaves the end of its text or has a good reason not to go on. -/
theorem accounts_read (dialect : JsonDialect) (fuel : Nat) :
    (∀ depth cs, Accounts dialect depth cs (readValue dialect fuel depth cs)) ∧
      (∀ depth cs, Accounts dialect depth cs (readItems dialect fuel depth cs)) ∧
      ∀ depth cs, Accounts dialect depth cs (readFields dialect fuel depth cs) := by
  -- The steps call one another with less fuel, so the induction carries all three at once.
  induction fuel with
  | zero => exact ⟨fun _ _ => trivial, fun _ _ => trivial, fun _ _ => trivial⟩
  | succ fuel ih =>
      obtain ⟨value, items, fields⟩ := ih
      refine ⟨fun depth cs => ?_, fun depth cs => ?_, fun depth cs => ?_⟩
      · cases begins cs with
        | text rest =>
            rw [readValue_text]
            exact ((accounts_readText dialect depth rest).map Json.str).of_suffix
              (List.suffix_cons '"' rest)
        | array rest =>
            rw [readValue_array]
            exact accounts_collection (.inl rfl) false depth
              (fun inner => (items (depth - 1) inner).map Json.arr) rest
        | object rest =>
            rw [readValue_object]
            refine accounts_collection (.inr rfl) true depth (fun inner => ?_) rest
            exact (fields (depth - 1) inner).map fun fields => Json.obj (ofFields fields)
        | other noText noArray noObject =>
            rw [readValue_other dialect fuel depth noText noArray noObject]
            exact accounts_readScalar dialect depth cs
      · rw [readItems_succ]
        exact (value depth cs).bind fun item rest => Accounts.listed (items depth) rest
      · by_cases named : ∃ text, cs = '"' :: text
        · obtain ⟨text, rfl⟩ := named
          rw [readFields_text]
          refine Accounts.of_suffix (List.suffix_cons '"' text) ?_
          refine (accounts_readText dialect depth text).bind fun key rest => ?_
          refine Accounts.keyed (fun blanks => ?_) rest
          exact (value depth blanks).bind fun v rest => Accounts.listed (fields depth) rest
        · rw [readFields_other dialect fuel depth (not_exists.mp named)]
          trivial

/-- What a reader refuses it refuses for a good reason. -/
theorem reason_of_read {dialect : JsonDialect} {cs : List Char} {fault : JsonFault}
    (failed : read dialect cs = .error fault) : IsReason dialect dialect.depth cs fault := by
  rw [read] at failed
  rcases Result.bind_eq_error.mp failed with stopped | ⟨⟨v, rest⟩, -, left⟩
  · have accounts := (accounts_read dialect (2 * cs.length + 2)).1 dialect.depth (skipSpace cs)
    rw [stopped] at accounts
    exact IsReason.of_suffix (skipSpace_suffix cs) accounts
  · simp only at left
    split at left <;> cases left
    trivial

/-- The text opens no more arrays and objects than may be open at once, and holds no run of more
digits than may be converted. -/
def IsModest (dialect : JsonDialect) (cs : List Char) : Prop :=
  opens cs ≤ dialect.depth ∧
    ∀ length, dialect.digitLimit.any (· < length) → ¬ HoldsDigits length cs

/-- A modest text is refused only if it is no JSON. -/
theorem malformed_of_isModest {dialect : JsonDialect} {cs : List Char}
    (modest : IsModest dialect cs) {fault : JsonFault} (failed : read dialect cs = .error fault) :
    fault = .malformed := by
  have reason := reason_of_read failed
  cases fault with
  | malformed => rfl
  | tooDeep inObject => exact absurd reason (Nat.not_lt.mpr modest.1)
  | numeralTooLong length => exact absurd reason.2 (modest.2 length reason.1)

/-- A text is modest if it is short. -/
theorem isModest_of_length_le {dialect : JsonDialect} {cs : List Char}
    (shallow : cs.length ≤ dialect.depth)
    (short : ∀ limit ∈ dialect.digitLimit, cs.length ≤ limit) : IsModest dialect cs := by
  refine ⟨Nat.le_trans List.countP_le_length shallow, ?_⟩
  rintro length long ⟨digits, inside, -, rfl⟩
  have inner := inside.length_le
  cases named : dialect.digitLimit with
  | none =>
      rw [named] at long
      cases long
  | some limit =>
      rw [named] at long
      have above : limit < digits.length := of_decide_eq_true long
      have bound := short limit named
      omega

/-! ## Readers that differ in their limits -/

/-- What the first comes to the second comes to as well, or it gives a reason of its own. -/
def Follows {α : Type} (first second : Except JsonFault α) : Prop :=
  ∀ a, first = .ok a →
    second = .ok a ∨ ∃ fault, fault ≠ .malformed ∧ second = .error fault

section

variable {α β : Type} {first second : Except JsonFault α}

theorem Follows.map (f : α → β) (follows : Follows first second) :
    Follows (first.map f) (second.map f) := by
  intro b mapped
  obtain ⟨a, given, rfl⟩ := Result.map_eq_ok.mp mapped
  rcases follows a given with same | ⟨fault, reason, refused⟩
  · exact .inl (by rw [same]; rfl)
  · exact .inr ⟨fault, reason, by rw [refused]; rfl⟩

theorem Follows.bind {next next' : α → Except JsonFault β} (follows : Follows first second)
    (later : ∀ a, Follows (next a) (next' a)) : Follows (first >>= next) (second >>= next') := by
  intro b comes
  obtain ⟨a, given, comes⟩ := Result.bind_eq_ok.mp comes
  rcases follows a given with same | ⟨fault, reason, refused⟩
  · rw [same, Result.ok_bind]
    exact later a b comes
  · exact .inr ⟨fault, reason, by rw [refused, Result.error_bind]⟩

theorem follows_refl (first : Except JsonFault α) : Follows first first :=
  fun _ given => .inl given

theorem follows_error (fault : JsonFault) (second : Except JsonFault α) :
    Follows (.error fault) second :=
  nofun

/-- Either may refuse what it does not put up with. -/
theorem Follows.unless {fault fault' : JsonFault} (reason : fault' ≠ .malformed)
    (follows : Follows first second) (p q : Prop) [Decidable p] [Decidable q] :
    Follows (if p then .error fault else first) (if q then .error fault' else second) := by
  by_cases stops : p
  · rw [if_pos stops]
    exact follows_error _ _
  · rw [if_neg stops]
    by_cases stops' : q
    · rw [if_pos stops']
      exact fun _ _ => .inr ⟨fault', reason, rfl⟩
    · rw [if_neg stops']
      exact follows

theorem Follows.opened {close : Char} {empty : Json}
    {step step' : List Char → Except JsonFault (Json × List Char)}
    (later : ∀ inner, Follows (step inner) (step' inner)) (cs : List Char) :
    Follows (opened close empty step cs) (opened close empty step' cs) := by
  rw [Reader.opened, Reader.opened]
  split
  · exact later []
  · split
    · exact follows_refl _
    · exact later _

theorem Follows.listed {close : Char} {a : α}
    {others others' : List Char → Except JsonFault (List α × List Char)}
    (later : ∀ rest, Follows (others rest) (others' rest)) (cs : List Char) :
    Follows (listed close a others cs) (listed close a others' cs) := by
  rw [Reader.listed, Reader.listed]
  split
  · exact follows_refl _
  · split
    · exact follows_refl _
    · split
      · exact (later _).map _
      · exact follows_refl _

theorem Follows.keyed {step step' : List Char → Except JsonFault α}
    (later : ∀ rest, Follows (step rest) (step' rest)) (cs : List Char) :
    Follows (keyed step cs) (keyed step' cs) := by
  rw [Reader.keyed, Reader.keyed]
  split
  · exact follows_refl _
  · split
    · exact later _
    · exact follows_refl _

end

section

variable (dialect : JsonDialect) (depth : Nat) (limit : Option Nat)

theorem addHalf_withLimits (pending : Option Nat) (read : Option (List Char × List Char)) :
    addHalf (dialect.withLimits depth limit) pending read = addHalf dialect pending read := by
  cases pending <;> rfl

theorem unitChar?_withLimits (unit : Nat) :
    unitChar? (dialect.withLimits depth limit) unit = unitChar? dialect unit := rfl

/-- Strings have no limits. -/
theorem readString_withLimits (pending : Option Nat) (cs : List Char) :
    readString (dialect.withLimits depth limit) pending cs = readString dialect pending cs := by
  fun_induction readString dialect pending cs with
  | case10 pending c rest notQuote noUnit noEscape plain ih =>
      rw [readString, if_neg plain, addHalf_withLimits, ih]
      · exact notQuote
      · exact noUnit
      · exact noEscape
  | _ => simp_all [readString, addHalf_withLimits, unitChar?_withLimits]

theorem readText_withLimits (cs : List Char) :
    readText (dialect.withLimits depth limit) cs = readText dialect cs := by
  rw [readText, readText, readString_withLimits]

variable (depth' : Nat) (limit' : Option Nat)

/-- A number may have too many digits for the second reader. -/
theorem follows_readUnsigned (negative : Bool) (cs : List Char) :
    Follows (readUnsigned (dialect.withLimits depth limit) negative cs)
      (readUnsigned (dialect.withLimits depth' limit') negative cs) := by
  simp only [readUnsigned]
  split
  · exact follows_error _ _
  · exact (follows_refl _).unless (by simp) _ _

theorem follows_readScalar (cs : List Char) :
    Follows (readScalar (dialect.withLimits depth limit) cs)
      (readScalar (dialect.withLimits depth' limit') cs) := by
  unfold readScalar
  split
  · exact follows_refl _
  · exact follows_readUnsigned dialect depth limit depth' limit' true _
  · exact follows_readUnsigned dialect depth limit depth' limit' false _

/-- Step by step, what a reader reads another one reads that differs in its limits, unless one of
those stops it. -/
theorem follows_steps (fuel : Nat) :
    (∀ deep deep' cs, Follows (readValue (dialect.withLimits depth limit) fuel deep cs)
        (readValue (dialect.withLimits depth' limit') fuel deep' cs)) ∧
      (∀ deep deep' cs, Follows (readItems (dialect.withLimits depth limit) fuel deep cs)
        (readItems (dialect.withLimits depth' limit') fuel deep' cs)) ∧
      ∀ deep deep' cs, Follows (readFields (dialect.withLimits depth limit) fuel deep cs)
        (readFields (dialect.withLimits depth' limit') fuel deep' cs) := by
  induction fuel with
  | zero => exact ⟨fun _ _ _ => follows_error _ _, fun _ _ _ => follows_error _ _,
      fun _ _ _ => follows_error _ _⟩
  | succ fuel ih =>
      obtain ⟨value, items, fields⟩ := ih
      refine ⟨fun deep deep' cs => ?_, fun deep deep' cs => ?_, fun deep deep' cs => ?_⟩
      · cases begins cs with
        | text rest =>
            rw [readValue_text, readValue_text, readText_withLimits, readText_withLimits]
            exact follows_refl _
        | array rest =>
            rw [readValue_array, readValue_array]
            refine Follows.unless (by simp) (Follows.opened (fun inner => ?_) rest) _ _
            exact ((items (deep - 1) (deep' - 1) inner).map _).unless (by simp) _ _
        | object rest =>
            rw [readValue_object, readValue_object]
            refine Follows.unless (by simp) (Follows.opened (fun inner => ?_) rest) _ _
            exact ((fields (deep - 1) (deep' - 1) inner).map _).unless (by simp) _ _
        | other noText noArray noObject =>
            rw [readValue_other _ fuel deep noText noArray noObject,
              readValue_other _ fuel deep' noText noArray noObject]
            exact follows_readScalar dialect depth limit depth' limit' cs
      · rw [readItems_succ, readItems_succ]
        exact (value deep deep' cs).bind fun (item, rest) => Follows.listed (items deep deep') rest
      · by_cases named : ∃ text, cs = '"' :: text
        · obtain ⟨text, rfl⟩ := named
          rw [readFields_text, readFields_text, readText_withLimits, readText_withLimits]
          refine (follows_refl _).bind fun (key, rest) => Follows.keyed (fun blanks => ?_) rest
          exact (value deep deep' blanks).bind fun (v, rest) =>
            Follows.listed (fields deep deep') rest
        · rw [readFields_other _ fuel deep (not_exists.mp named)]
          exact follows_error _ _

/-- What a reader reads another one reads that differs in its limits, unless one of those stops
it. -/
theorem follows_read (cs : List Char) :
    Follows (read (dialect.withLimits depth limit) cs)
      (read (dialect.withLimits depth' limit') cs) := by
  rw [read, read]
  refine ((follows_steps dialect depth limit depth' limit' _).1 depth depth' _).bind ?_
  exact fun _ => follows_refl _

end

/-! ## What a text spells -/

/-- The value that a text spells for a reader whose limits lie beyond the text. -/
def Spells (dialect : JsonDialect) (cs : List Char) (v : Json) : Prop :=
  read (dialect.withLimits cs.length none) cs = .ok v

section

variable {dialect : JsonDialect} {cs : List Char} {v : Json}

/-- No text opens more than it has characters. -/
theorem isModest_unlimited (dialect : JsonDialect) (cs : List Char) :
    IsModest (dialect.withLimits cs.length none) cs :=
  ⟨List.countP_le_length, nofun⟩

/-- What was read is what the text spells, whatever the limits were. -/
theorem spells_of_withLimits (depth : Nat) (limit : Option Nat)
    (given : read (dialect.withLimits depth limit) cs = .ok v) : Spells dialect cs v := by
  rcases follows_read dialect depth limit cs.length none cs v given with
    same | ⟨fault, reason, refused⟩
  · exact same
  · exact absurd (malformed_of_isModest (isModest_unlimited dialect cs) refused) reason

theorem spells_of_read (given : read dialect cs = .ok v) : Spells dialect cs v :=
  spells_of_withLimits dialect.depth dialect.digitLimit given

/-- A text that spells a value is read as that value or refused for one of the limits. -/
theorem Spells.read_eq (spelled : Spells dialect cs v) :
    read dialect cs = .ok v ∨ ∃ fault, fault ≠ .malformed ∧ read dialect cs = .error fault :=
  follows_read dialect cs.length none dialect.depth dialect.digitLimit cs v spelled

theorem Spells.read_of_isModest (spelled : Spells dialect cs v) (modest : IsModest dialect cs) :
    read dialect cs = .ok v := by
  rcases spelled.read_eq with same | ⟨fault, reason, refused⟩
  · exact same
  · exact absurd (malformed_of_isModest modest refused) reason

end

end Json.Reader

end ScriptVet
