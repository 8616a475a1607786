import Mathlib.Algebra.Group.Nat.Defs
import Mathlib.Data.List.TakeDrop
import ScriptVet.Json.Reader
import ScriptVet.Json.Writer

/-!
# Numbers and strings that are read back

An integer is read back from its decimal digits, unless it has more of them than the reader
converts. A string is read back from its escapes.
-/

namespace ScriptVet

namespace Text

theorem hexValue?_hexDigit : ∀ n < 16, hexValue? (hexDigit n) = some n := by
  decide

/-- A number is read back from enough places. -/
theorem hexNumber?_hexPlaces {places n : Nat} (h : n < 16 ^ places) :
    hexNumber? (hexPlaces places n) = some n := by
  induction places generalizing n with
  | zero =>
      have : n = 0 := by simpa using h
      subst this
      rfl
  | succ places ih =>
      have higher : n / 16 < 16 ^ places := by
        rw [Nat.pow_succ] at h
        exact Nat.div_lt_of_lt_mul (by rwa [Nat.mul_comm])
      have lowest := hexValue?_hexDigit (n % 16) (Nat.mod_lt _ (by decide))
      have front := ih higher
      rw [hexNumber?] at front
      rw [hexPlaces, hexNumber?, List.foldlM_append, front]
      simp [lowest, Nat.div_add_mod]

end Text

namespace Json.Reader

/-- A text that a number before it does not go on into. -/
def EndsNumber (rest : List Char) : Prop :=
  ∀ c ∈ rest.head?, c.isDigit = false ∧ c ≠ '.' ∧ c ≠ 'e' ∧ c ≠ 'E'

theorem endsNumber_nil : EndsNumber [] := by
  intro c hc
  cases hc

theorem endsNumber_cons {c : Char} (hd : c.isDigit = false) (hp : c ≠ '.') (he : c ≠ 'e')
    (hE : c ≠ 'E') (rest : List Char) : EndsNumber (c :: rest) := by
  intro c' hc
  rw [List.head?_cons, Option.mem_some_iff] at hc
  subst hc
  exact ⟨hd, hp, he, hE⟩

theorem spanDigits_append {digits rest : List Char} (hd : ∀ c ∈ digits, c.isDigit)
    (ends : EndsNumber rest) : spanDigits (digits ++ rest) = (digits, rest) := by
  rw [spanDigits, List.span_eq_takeWhile_dropWhile, List.takeWhile_append_of_pos hd,
    List.dropWhile_append_of_pos hd]
  cases rest with
  | nil => simp
  | cons c rest =>
      have hc : c.isDigit = false := (ends c rfl).1
      simp [hc]

theorem spanFraction_of_endsNumber {rest : List Char} (ends : EndsNumber rest) :
    spanFraction rest = ([], rest) := by
  cases rest with
  | nil => rfl
  | cons c rest =>
      have hc : c ≠ '.' := (ends c rfl).2.1
      rw [spanFraction]
      intro tail he
      exact hc (List.cons.inj he).1

theorem spanExponent_of_endsNumber {rest : List Char} (ends : EndsNumber rest) :
    spanExponent rest = (none, rest) := by
  cases rest with
  | nil => rfl
  | cons c rest =>
      obtain ⟨-, -, he, hE⟩ := ends c rfl
      rw [spanExponent]
      all_goals
        intro tail h
        first
        | exact he (List.cons.inj h).1
        | exact hE (List.cons.inj h).1

/-- Digits have no leading zero, but for zero itself. -/
theorem toDigits_ne_zero_cons {n : Nat} (h : n ≠ 0) (tail : List Char) :
    Nat.toDigits 10 n ≠ '0' :: tail := by
  induction n using Nat.strongRecOn generalizing tail with
  | ind n ih =>
      rw [Nat.toDigits_eq_if (by decide)]
      split
      · next small =>
          have : ∀ d < 10, d ≠ 0 → d.digitChar ≠ '0' := by decide
          intro he
          exact this n small h (List.cons.inj he).1
      · next large =>
          have nonzero : n / 10 ≠ 0 := by omega
          obtain ⟨c, front, hf⟩ := List.exists_cons_of_ne_nil
            (Nat.toDigits_ne_nil (n := n / 10) (b := 10))
          rw [hf]
          intro he
          exact ih (n / 10) (by omega) nonzero front (by rw [hf, (List.cons.inj he).1])

/-- What is read where digits were written: the number, unless the digits are too many. -/
def readDigits (dialect : JsonDialect) (n : Int) (rest : List Char) : Read Json :=
  let digits := (Nat.toDigits 10 n.natAbs).length
  if dialect.digitLimit.any (· < digits) then .error (.numeralTooLong digits)
  else .ok (.int n, rest)

theorem natOfDigits_toDigits (n : Nat) : natOfDigits (Nat.toDigits 10 n) = n :=
  Nat.ofDigitChars_ten_toDigits

theorem spanWhole_toDigits (n : Nat) {rest : List Char} (ends : EndsNumber rest) :
    spanWhole (Nat.toDigits 10 n ++ rest) = (Nat.toDigits 10 n, rest) := by
  by_cases h : n = 0
  · subst h
    rfl
  · have digits : ∀ c ∈ Nat.toDigits 10 n, c.isDigit := fun c hc =>
      Nat.isDigit_of_mem_toDigits (by decide) (by decide) hc
    rw [spanWhole]
    · exact spanDigits_append digits ends
    · obtain ⟨c, front, hf⟩ := List.exists_cons_of_ne_nil
        (Nat.toDigits_ne_nil (n := n) (b := 10))
      intro tail he
      rw [hf, List.cons_append] at he
      exact toDigits_ne_zero_cons h front (by rw [hf, (List.cons.inj he).1])

theorem readUnsigned_toDigits (dialect : JsonDialect) (negative : Bool) (n : Nat)
    {rest : List Char} (ends : EndsNumber rest) :
    readUnsigned dialect negative (Nat.toDigits 10 n ++ rest) =
      if dialect.digitLimit.any (· < (Nat.toDigits 10 n).length) then
        .error (.numeralTooLong (Nat.toDigits 10 n).length)
      else .ok (.int (if negative then -n else n), rest) := by
  simp [readUnsigned, spanWhole_toDigits n ends, Nat.toDigits_ne_nil,
    spanFraction_of_endsNumber ends, spanExponent_of_endsNumber ends, natOfDigits_toDigits]

/-- No name begins with a digit, or with a sign before one. -/
theorem readName_of_isDigit {c : Char} (hc : c.isDigit) (cs : List Char) :
    readName (c :: cs) = .error .malformed ∧ readName ('-' :: c :: cs) = .error .malformed := by
  have other {d : Char} (hd : d.isDigit = false) : c ≠ d := by
    intro he
    rw [he, hd] at hc
    cases hc
  constructor
  · rw [readName]
    all_goals
      intro tail he
      exact other (by decide) (List.cons.inj he).1
  · rw [readName]
    all_goals
      intro tail he
      exact other (by decide) (List.cons.inj (List.cons.inj he).2).1

theorem readScalar_of_isDigit (dialect : JsonDialect) {c : Char} (hc : c.isDigit)
    (cs : List Char) :
    readScalar dialect (c :: cs) = readUnsigned dialect false (c :: cs) := by
  unfold readScalar
  rw [(readName_of_isDigit hc cs).1]
  split
  · next he => cases he
  · next he =>
      rw [(List.cons.inj he).1] at hc
      cases hc
  · rfl

theorem readScalar_minus (dialect : JsonDialect) {c : Char} (hc : c.isDigit) (cs : List Char) :
    readScalar dialect ('-' :: c :: cs) = readUnsigned dialect true (c :: cs) := by
  unfold readScalar
  rw [(readName_of_isDigit hc cs).2]
  rfl

/-- An integer is read back. -/
theorem readScalar_intText (dialect : JsonDialect) (n : Int) {rest : List Char}
    (ends : EndsNumber rest) :
    readScalar dialect (intText n ++ rest) = readDigits dialect n rest := by
  obtain ⟨c, front, hf⟩ := List.exists_cons_of_ne_nil
    (Nat.toDigits_ne_nil (n := n.natAbs) (b := 10))
  have hc : c.isDigit := Nat.isDigit_of_mem_toDigits (by decide) (by decide)
    (hf ▸ List.mem_cons_self : c ∈ Nat.toDigits 10 n.natAbs)
  have unsigned (negative : Bool) := readUnsigned_toDigits dialect negative n.natAbs ends
  rw [hf] at unsigned
  rw [intText, readDigits]
  by_cases negative : n < 0
  · have value : -(n.natAbs : Int) = n := by omega
    rw [if_pos negative, hf, List.cons_append, List.cons_append, readScalar_minus dialect hc,
      ← List.cons_append, unsigned, if_pos rfl, value]
  · have value : (n.natAbs : Int) = n := by omega
    rw [if_neg negative, hf, List.cons_append, readScalar_of_isDigit dialect hc,
      ← List.cons_append, unsigned, if_neg Bool.false_ne_true, value]

/-- Integers are written with digits and a minus. -/
theorem notMem_intText {c : Char} (digit : c.isDigit = false) (minus : c ≠ '-') (n : Int) :
    c ∉ intText n := by
  have digits : c ∉ Nat.toDigits 10 n.natAbs := fun h =>
    absurd (Nat.isDigit_of_mem_toDigits (by decide) (by decide) h) (Bool.eq_false_iff.mp digit)
  rw [intText]
  split
  · exact List.not_mem_cons_of_ne_of_not_mem minus digits
  · exact digits

/-- Different integers are written differently. -/
theorem intText_injective : Function.Injective intText := by
  intro n n' same
  let dialect : JsonDialect := { JsonDialect.strict with digitLimit := none }
  have read (n : Int) : readScalar dialect (intText n) = .ok (.int n, []) := by
    have scalar := readScalar_intText dialect n endsNumber_nil
    rw [List.append_nil] at scalar
    exact scalar
  have values := (read n).symm.trans ((congrArg (readScalar dialect) same).trans (read n'))
  exact Json.int.inj (Prod.mk.inj (Except.ok.inj values)).1

/-- A character after a backslash stands for another. -/
theorem readString_simpleEscape (dialect : JsonDialect) {letter : Char} (hu : letter ≠ 'u')
    (tail : List Char) :
    readString dialect none ('\\' :: letter :: tail) =
      addChar (simpleEscape? letter) (readString dialect none tail) := by
  rw [readString]
  · rfl
  · intro a b c d rest he _
    exact hu he

/-- What the escape of a unit makes of the text behind it: it depends on which half the unit is and
on whether the first half of a pair is pending. -/
def readUnit (dialect : JsonDialect) (pending : Option Nat) (n : Nat)
    (read : Option Nat → Option (List Char × List Char)) : Option (List Char × List Char) :=
  if isHighSurrogate n then addHalf dialect pending (read (some n))
  else
    match pending with
    | none => addChar (unitChar? dialect n) (read none)
    | some high =>
      if isLowSurrogate n then addChar (some (pairChar high n)) (read none)
      else addHalf dialect pending (addChar (unitChar? dialect n) (read none))

theorem readString_unitEscape (dialect : JsonDialect) (pending : Option Nat) {n : Nat}
    (small : n < 0x10000) (tail : List Char) :
    readString dialect pending (unitEscape n ++ tail) =
      readUnit dialect pending n (readString dialect · tail) := by
  have number : Text.hexNumber? (Text.hexPlaces 4 n) = some n := Text.hexNumber?_hexPlaces small
  simp only [Text.hexPlaces, List.nil_append, List.cons_append] at number
  simp only [unitEscape, Text.hexPlaces, List.nil_append, List.cons_append]
  rw [readString, number]
  rfl

/-- A character that is one unit is read back from its escape: no character is half of a pair. -/
theorem readString_charEscape (dialect : JsonDialect) {c : Char} (small : c.toNat < 0x10000)
    (tail : List Char) :
    readString dialect none (unitEscape c.toNat ++ tail) =
      addChar (some c) (readString dialect none tail) := by
  have valid : c.toNat < 0xD800 ∨ 0xDFFF < c.toNat ∧ c.toNat < 0x110000 := c.valid
  have notHigh : isHighSurrogate c.toNat = false := by
    simp [isHighSurrogate]
    omega
  have notLow : isLowSurrogate c.toNat = false := by
    simp [isLowSurrogate]
    omega
  rw [readString_unitEscape dialect none small]
  simp [readUnit, notHigh, notLow, unitChar?]

/-- The first half of a pair waits for the second. -/
theorem readString_highEscape (dialect : JsonDialect) {n : Nat} (high : isHighSurrogate n)
    (tail : List Char) :
    readString dialect none (unitEscape n ++ tail) = readString dialect (some n) tail := by
  have bounds : 0xD800 ≤ n ∧ n < 0xDC00 := by simpa [isHighSurrogate] using high
  rw [readString_unitEscape dialect none (by omega), readUnit, if_pos high, addHalf]

/-- The second half completes the pair. -/
theorem readString_lowEscape (dialect : JsonDialect) (high : Nat) {n : Nat}
    (low : isLowSurrogate n) (tail : List Char) :
    readString dialect (some high) (unitEscape n ++ tail) =
      addChar (some (pairChar high n)) (readString dialect none tail) := by
  have bounds : 0xDC00 ≤ n ∧ n < 0xE000 := by simpa [isLowSurrogate] using low
  have notHigh : isHighSurrogate n = false := by
    simp [isHighSurrogate]
    omega
  rw [readString_unitEscape dialect (some high) (by omega)]
  simp [readUnit, notHigh, low]

/-- A character beyond ASCII is read back from its escape, be it one unit or a pair. -/
theorem readString_wideEscape (dialect : JsonDialect) (c : Char) (tail : List Char) :
    readString dialect none (wideEscape c.toNat ++ tail) =
      addChar (some c) (readString dialect none tail) := by
  have valid : c.toNat < 0xD800 ∨ 0xDFFF < c.toNat ∧ c.toNat < 0x110000 := c.valid
  rw [wideEscape]
  split
  · next small => exact readString_charEscape dialect small tail
  · next wide =>
    have high : isHighSurrogate (0xD800 + (c.toNat - 0x10000) / 0x400) := by
      simp [isHighSurrogate]
      omega
    have low : isLowSurrogate (0xDC00 + (c.toNat - 0x10000) % 0x400) := by
      simp [isLowSurrogate]
      omega
    have point : 0x10000 + (0xD800 + (c.toNat - 0x10000) / 0x400 - 0xD800) * 0x400 +
        (0xDC00 + (c.toNat - 0x10000) % 0x400 - 0xDC00) = c.toNat := by
      omega
    rw [List.append_assoc, readString_highEscape dialect high, readString_lowEscape dialect _ low,
      pairChar, point, Char.ofNat_toNat]

/-- A character is read back from its escape, unless it stands for half of a pair and is written in
ASCII. -/
theorem readString_escapeChar (dialect : JsonDialect) {asciiOnly : Bool} {c : Char}
    (whole : asciiOnly → Text.isHalf c = false) (tail : List Char) :
    readString dialect none (escapeChar asciiOnly c ++ tail) =
      addChar (some c) (readString dialect none tail) := by
  have named {n : Nat} (h : c.toNat = n) : c = Char.ofNat n := by
    rw [← h, Char.ofNat_toNat]
  unfold escapeChar
  split
  · next h => rw [h]; exact readString_simpleEscape dialect (by decide) tail
  split
  · next h => rw [h]; exact readString_simpleEscape dialect (by decide) tail
  split
  · next h => rw [h]; exact readString_simpleEscape dialect (by decide) tail
  split
  · next h => rw [h]; exact readString_simpleEscape dialect (by decide) tail
  split
  · next h => rw [h]; exact readString_simpleEscape dialect (by decide) tail
  split
  · next h => rw [named h]; exact readString_simpleEscape dialect (by decide) tail
  split
  · next h => rw [named h]; exact readString_simpleEscape dialect (by decide) tail
  split
  · next h => exact readString_charEscape dialect (by omega) tail
  split
  · next h =>
      rw [Bool.and_eq_true] at h
      rw [Text.codePoint_of_not_isHalf (whole h.1)]
      exact readString_wideEscape dialect c tail
  · next hq hb _ _ _ _ _ hc _ =>
      rw [List.singleton_append, readString]
      · simp [hc, hb, addHalf]
      · exact hq
      · exact fun a b c d rest he _ => hb he
      · exact fun c rest he _ => hb he

/-- A string is read back after its opening quote, unless it holds half of a pair and is written in
ASCII. -/
theorem readText_quote (dialect : JsonDialect) {asciiOnly : Bool} {s : String}
    (whole : asciiOnly → Text.holdsHalf s = false) (rest : List Char) :
    readText dialect (s.toList.flatMap (escapeChar asciiOnly) ++ '"' :: rest) = .ok (s, rest) := by
  have body (cs : List Char) (whole : asciiOnly → ∀ c ∈ cs, Text.isHalf c = false) :
      readString dialect none (cs.flatMap (escapeChar asciiOnly) ++ '"' :: rest) =
        some (cs, rest) := by
    induction cs with
    | nil => rw [List.flatMap_nil, List.nil_append, readString]; rfl
    | cons c cs ih =>
        have first : asciiOnly → Text.isHalf c = false := fun h => whole h c List.mem_cons_self
        rw [List.flatMap_cons, List.append_assoc, readString_escapeChar dialect first,
          ih fun h c hc => whole h c (List.mem_cons_of_mem _ hc)]
        rfl
  have each (h : asciiOnly = true) (c : Char) (hc : c ∈ s.toList) : Text.isHalf c = false := by
    simpa using List.any_eq_false.mp (whole h) c hc
  rw [readText, body _ each]
  simp

end Json.Reader

end ScriptVet
