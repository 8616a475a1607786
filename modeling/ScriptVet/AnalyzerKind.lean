import ScriptVet.Language

/-!
# Kinds of analyzers

There are five kinds of analyzers. Their order here is the order of every report. Scripts that are
not in bash are only parsed; even a script in a language that nothing parses is given to the parse
check, so that its report says that it was skipped.
-/

namespace ScriptVet

inductive AnalyzerKind where
  /-- The script parses. -/
  | parses
  /-- A linter has nothing against the script. -/
  | lint
  /-- The script parses in strict mode. -/
  | strictMode
  /-- Which functions and commands the script uses. -/
  | functionDeps
  /-- Which variables the script uses. -/
  | variableUsage
  deriving Repr, DecidableEq

namespace AnalyzerKind

/-- All kinds in the order of reports. -/
def all : List AnalyzerKind := [.parses, .lint, .strictMode, .functionDeps, .variableUsage]

/-- The word for a kind in data and messages. -/
def word : AnalyzerKind → String
  | .parses => "syntax"
  | .lint => "lint"
  | .strictMode => "strict-mode"
  | .functionDeps => "function-deps"
  | .variableUsage => "variable-usage"

/-- The kinds by their words. -/
def words : List (String × AnalyzerKind) := all.map fun k => (k.word, k)

/-- The position in the order of reports. -/
def rank : AnalyzerKind → Nat
  | .parses => 0
  | .lint => 1
  | .strictMode => 2
  | .functionDeps => 3
  | .variableUsage => 4

/-- The kinds that apply to scripts in a language. -/
def appliesTo (kind : AnalyzerKind) (language : Language) : Bool :=
  kind == .parses || language == .bash

theorem mem_all (kind : AnalyzerKind) : kind ∈ all := by cases kind <;> decide

theorem rank_injective {a b : AnalyzerKind} (h : a.rank = b.rank) : a = b := by
  revert h
  cases a <;> cases b <;> decide

theorem word_injective {a b : AnalyzerKind} (h : a.word = b.word) : a = b := by
  revert h
  cases a <;> cases b <;> decide

/-- The list of all kinds is in ascending order. -/
theorem pairwise_rank_all : all.Pairwise fun a b => a.rank < b.rank := by decide

end AnalyzerKind

end ScriptVet
