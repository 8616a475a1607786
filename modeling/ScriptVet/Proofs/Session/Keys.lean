import ScriptVet.Proofs.Analyzer.Results
import ScriptVet.Proofs.Script.Content
import ScriptVet.Proofs.Session.Analyze
import ScriptVet.Proofs.Shell.Found

/-!
# What keys identify

Digests of different inputs being different, a key gives away the content of a script, the kind of
an analyzer and its version. Content and kind decide what an analysis comes to, except that the
reason for skipping one may tell more; but what was skipped is never kept. A key can be made for a
script unless a word that the analyzer looks for holds half of a surrogate pair.
-/

namespace ScriptVet

/-- What stands before the first separator is determined. -/
theorem append_cons_inj_of_notMem_left {α : Type} {x : α} {a a' b b' : List α} (h : x ∉ a)
    (h' : x ∉ a') (same : a ++ x :: b = a' ++ x :: b') : a = a' ∧ b = b' := by
  induction a generalizing a' with
  | nil =>
      cases a' with
      | nil => exact ⟨rfl, (List.cons.inj same).2⟩
      | cons c a' => exact absurd ((List.cons.inj same).1 ▸ List.mem_cons_self) h'
  | cons c a ih =>
      cases a' with
      | nil => exact absurd ((List.cons.inj same).1 ▸ List.mem_cons_self) h
      | cons c' a' =>
          obtain ⟨heads, tails⟩ := List.cons.inj same
          rw [List.mem_cons, not_or] at h h'
          obtain ⟨rest, last⟩ := ih h.2 h'.2 tails
          exact ⟨by rw [heads, rest], last⟩

namespace ResultCache

/-- What a key is the digest of. -/
def keyInput (fingerprint : String) (kind : AnalyzerKind) (version : String) : List UInt8 :=
  Text.Utf8.encodeString fingerprint ++ 0 :: Text.Utf8.encodeString kind.word ++
    0 :: Text.Utf8.encodeString version

theorem key_eq (fingerprint : String) (kind : AnalyzerKind) (version : String) :
    key fingerprint kind version = Sha256.hexDigest (keyInput fingerprint kind version) := rfl

/-- What a key is the digest of, as text. -/
theorem keyInput_eq_encode (fingerprint : String) (kind : AnalyzerKind) (version : String) :
    keyInput fingerprint kind version =
      Text.Utf8.encode (fingerprint.toList ++ '\x00' :: (kind.word.toList ++
        '\x00' :: version.toList)) := by
  simp only [keyInput, Text.Utf8.encodeString, Text.Utf8.encode_append,
    ← Text.Utf8.zero_cons_encode, List.append_assoc, List.cons_append]

theorem keyInput_inj {fingerprint fingerprint' : String} {kind kind' : AnalyzerKind}
    {version version' : String} (free : '\x00' ∉ fingerprint.toList)
    (free' : '\x00' ∉ fingerprint'.toList)
    (same : keyInput fingerprint kind version = keyInput fingerprint' kind' version') :
    fingerprint = fingerprint' ∧ kind = kind' ∧ version = version' := by
  have word (kind : AnalyzerKind) : '\x00' ∉ kind.word.toList := by cases kind <;> decide
  rw [keyInput_eq_encode, keyInput_eq_encode] at same
  obtain ⟨first, rest⟩ :=
    append_cons_inj_of_notMem_left free free' (Text.Utf8.encode_injective same)
  obtain ⟨second, third⟩ := append_cons_inj_of_notMem_left (word kind) (word kind') rest
  exact ⟨String.toList_inj.mp first, AnalyzerKind.word_injective (String.toList_inj.mp second),
    String.toList_inj.mp third⟩

end ResultCache

theorem Sha256.zero_notMem_hexDigest (message : List UInt8) :
    '\x00' ∉ (hexDigest message).toList :=
  fun h => absurd (hexDigest_subset message h) (by decide)

/-- Of two messages with different digests no two different ones have the same digest. -/
theorem Sha256.eq_of_pair {P : List UInt8 → Prop} {a b : List UInt8}
    (all : ∀ c, P c → c = a ∨ c = b) (differ : hexDigest a ≠ hexDigest b) {c d : List UInt8}
    (hc : P c) (hd : P d) (same : hexDigest c = hexDigest d) : c = d := by
  rcases all c hc with rfl | rfl <;> rcases all d hd with rfl | rfl
  · rfl
  · exact absurd same differ
  · exact absurd same.symm differ
  · rfl

namespace Text

theorem holdsHalf_append (s t : String) : holdsHalf (s ++ t) = (holdsHalf s || holdsHalf t) := by
  simp [holdsHalf]

theorem holdsHalf_intercalate {separator : String} (whole : holdsHalf separator = false)
    (texts : List String) : holdsHalf (separator.intercalate texts) = texts.any holdsHalf := by
  induction texts with
  | nil => rfl
  | cons text texts ih =>
      cases texts with
      | nil => simp
      | cons next texts =>
          rw [String.intercalate_cons_cons, holdsHalf_append, holdsHalf_append, ih, whole,
            Bool.or_false]
          rfl

theorem holdsHalf_hexDigest (message : List UInt8) :
    holdsHalf (Sha256.hexDigest message) = false := by
  rw [holdsHalf, List.any_eq_false]
  intro c hc
  have digits : hexDigits.all (!isHalf ·) := by decide
  simpa using List.all_eq_true.mp digits c (Sha256.hexDigest_subset message hc)

theorem holdsHalf_phrase (parts : List String) :
    holdsHalf (phrase parts) = parts.any holdsHalf := by
  rw [holdsHalf, toList_phrase, List.any_flatMap]
  rfl

end Text

namespace Session

open Analyzer ResultCache

/-- The words that the analyzer looks for are whole text. -/
def WordsWhole (settings : Settings) (kind : AnalyzerKind) : Prop :=
  ∀ words, (builtin settings kind).basis = .vocabulary words → words.any Text.holdsHalf = false

theorem keyFor_isOk_iff_holdsHalf {script : Script} {analyzer : Analyzer} {version : String} :
    (keyFor script analyzer version).isOk ↔
      Text.holdsHalf (givenVersion analyzer version) = false := by
  have kinds : Text.holdsHalf analyzer.kind.word = false := by cases analyzer.kind <;> decide
  have zero : Text.holdsHalf "\x00" = false := by decide
  have given : Text.holdsHalf (Text.phrase [script.fingerprint, "\x00", analyzer.kind.word, "\x00",
      givenVersion analyzer version]) = Text.holdsHalf (givenVersion analyzer version) := by
    simp [Text.holdsHalf_phrase, Script.fingerprint, Text.holdsHalf_hexDigest, kinds, zero]
  simp only [keyFor, Json.checkText, Json.brokenText?, given]
  cases Text.holdsHalf (givenVersion analyzer version) with
  | false => exact iff_of_true rfl rfl
  | true => exact iff_of_false Bool.false_ne_true Bool.noConfusion

theorem any_holdsHalf_sortedSet (words : List String) :
    (Shell.sortedSet words).any Text.holdsHalf = words.any Text.holdsHalf := by
  rw [Bool.eq_iff_iff, List.any_eq_true, List.any_eq_true]
  simp only [Shell.mem_sortedSet]

/-- There is a key exactly if the words are whole. -/
theorem keyFor_isOk_iff {settings : Settings} {told : String → String → Prop} {script : Script}
    {kind : AnalyzerKind} {version : String}
    (has : HasVersion settings told script kind version) :
    (keyFor script (builtin settings kind) version).isOk ↔ WordsWhole settings kind := by
  have own : Text.holdsHalf (builtin settings kind).ownVersion = false := by
    have parts : (builtin settings kind).ownVersion = kind.word ++ "/" ++ "1" := by
      cases kind <;> rfl
    rw [parts]
    cases kind <;> decide
  rw [keyFor_isOk_iff_holdsHalf, givenVersion, WordsWhole]
  rw [HasVersion, toolOf?] at has
  cases basis : (builtin settings kind).basis with
  | nothing =>
      simp only [basis] at has
      simp [has, own]
  | tool toolFor => simp [own]
  | vocabulary words =>
      simp only [basis] at has
      have plus : Text.holdsHalf "+" = false := by decide
      have comma : Text.holdsHalf "," = false := by decide
      simp [has, Text.holdsHalf_append, own, plus, Text.holdsHalf_intercalate comma,
        any_holdsHalf_sortedSet]

/-- Tools that tell one version each leave an analyzer one version for a script. -/
theorem HasVersion.unique {settings : Settings} {told : String → String → Prop} {script : Script}
    {kind : AnalyzerKind} {version version' : String}
    (one : ∀ tool v v', told tool v → told tool v' → v = v')
    (has : HasVersion settings told script kind version)
    (has' : HasVersion settings told script kind version') : version = version' := by
  rw [HasVersion] at has has'
  cases tool : toolOf? settings script kind with
  | some tool =>
      simp only [tool] at has has'
      obtain ⟨v, tells, rfl⟩ := has
      obtain ⟨v', tells', rfl⟩ := has'
      rw [one _ v v' tells tells']
  | none =>
      simp only [tool] at has has'
      cases basis : (builtin settings kind).basis <;> simp only [basis] at has has' <;>
        exact has.trans has'.symm

theorem HasVersion.mono {settings : Settings} {told told' : String → String → Prop}
    {script : Script} {kind : AnalyzerKind} {version : String}
    (more : ∀ tool v, told tool v → told' tool v)
    (has : HasVersion settings told script kind version) :
    HasVersion settings told' script kind version := by
  rw [HasVersion] at has ⊢
  cases tool : toolOf? settings script kind with
  | some tool =>
      simp only [tool] at has
      obtain ⟨v, tells, same⟩ := has
      exact ⟨v, more _ v tells, same⟩
  | none =>
      simp only [tool] at has
      exact has

/-- An analysis that was made comes to the same for every script with the content. -/
theorem outcome_of_sameContent {settings : Settings} {view : View} {a b : Script}
    (same : Script.SameContent a b) {kind : AnalyzerKind} {r : AnalysisResult}
    (comes : outcome settings view a kind = .ok r) (made : r.status ≠ .skipped) :
    outcome settings view b kind = .ok r := by
  obtain ⟨language, -, text, -⟩ := same
  have parses (prologue : String) (kind : AnalyzerKind) (toolFor : Language → Option String)
      (comes : orSkipped kind (parseCheckOutcome prologue settings view kind toolFor a) = .ok r) :
      orSkipped kind (parseCheckOutcome prologue settings view kind toolFor b) = .ok r := by
    rw [parseCheckOutcome] at comes ⊢
    cases tool : toolFor a.language with
    | none =>
        rw [tool] at comes
        exact absurd (congrArg AnalysisResult.status (Except.ok.inj comes)).symm made
    | some tool' =>
        rw [tool] at comes
        rw [← language, tool]
        simp only [parseOutcome] at comes ⊢
        rw [← language, ← text]
        exact comes
  cases kind with
  | parses => exact parses "" .parses Language.interpreter? comes
  | lint =>
      simp only [outcome, lintOutcome] at comes ⊢
      rw [← language, ← text]
      exact comes
  | strictMode => exact parses strictPrologue .strictMode (onlyBash "bash") comes
  | functionDeps =>
      simp only [outcome] at comes ⊢
      rw [← text]
      exact comes
  | variableUsage =>
      simp only [outcome] at comes ⊢
      rw [← text]
      exact comes

end Session

end ScriptVet
