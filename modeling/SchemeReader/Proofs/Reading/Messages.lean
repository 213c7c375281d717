import SchemeReader.Proofs.Analysis.Named
import SchemeReader.Proofs.Reading.Formed
import SchemeReader.Proofs.Text.OneLine

set_option autoImplicit false

namespace SchemeReader

open Text (CharSource)
open TokenSource (items)

section

variable {spelling rest : List Char} {invalid : InvalidLiteral}

theorem classifyNumeral_range
    (made : (classifyNumeral spelling : Item Empty) = .error (.invalidLiteral invalid)) :
    invalid.reason = InvalidLiteral.outOfRange := by
  unfold classifyNumeral at made
  split at made
  · cases made
    rfl
  · split at made
    · cases made
    · unfold Literal.ofInt Number.ofInt at made
      split at made
      next => cases made
      next refused =>
        split at refused
        · cases refused
        · cases refused
          cases made
          rfl

theorem classify_range
    (made : (classify spelling : Item Empty) = .error (.invalidLiteral invalid)) :
    invalid.reason = InvalidLiteral.outOfRange := by
  unfold classify at made
  split at made
  next => exact classifyNumeral_range made
  next =>
    split at made
    next =>
      unfold classifyString at made
      split at made
      · split at made <;> cases made
      · cases made
    next => split at made <;> cases made
    next => cases made

end

theorem Lexer.range_of_invalid_mem {σ : Type} [CharSource σ] {lexer : Lexer σ}
    {invalid : InvalidLiteral} (member : .error (.invalidLiteral invalid) ∈ items lexer) :
    invalid.reason = InvalidLiteral.outOfRange := by
  obtain ⟨_, _, lexeme, _, made⟩ := exists_lexeme_of_mem member rfl
  exact classify_range (lexeme.classify_eq made (by simp))

theorem Lexer.oneLine_of_mem {σ : Type} [CharSource σ] {lexer : Lexer σ} {cause : LexError}
    (member : .error cause ∈ items lexer) : OneLine cause.message.toList := by
  cases cause with
  | unmatched _ text => exact .join (by decide) (.quotedString text)
  | badEscape escape => exact .join (.join (by decide) (.quotedString escape)) (by decide)
  | invalidLiteral invalid =>
    have range : OneLine invalid.reason.toList := by
      rw [range_of_invalid_mem member]
      decide
    exact .join (.join (.join (by decide) (.quotedString invalid.text)) (by decide)) range

theorem Keyword.oneLine_name (keyword : Keyword) : OneLine keyword.name.toList := by
  cases keyword <;> decide

theorem Arity.oneLine_describe (arity : Arity) : OneLine arity.describe.toList := by
  cases arity with
  | exactly count => exact .toString count
  | atLeast count => exact .join (by decide) (.toString count)

theorem IsName.oneLine {name : String} (named : IsName name) : OneLine name.toList := by
  intro member
  cases named.word _ member

theorem SchemeError.Named.oneLine_message {text : List Char} {leaves : List (Token Empty)}
    (spelled : ∀ token ∈ leaves, SpelledIn text token) {error : SchemeError}
    (named : error.Named leaves) : OneLine error.message.toList := by
  cases error with
  | emptyApplication | applicationNotImplemented | nestingTooDeep => decide
  | unhandledKeyword name => exact .join (by decide) (spelled _ named).isName.oneLine
  | arityMismatch mismatch =>
    obtain ⟨keyword, same⟩ := named
    have counted : OneLine mismatch.keyword.toList := by
      rw [same]
      exact keyword.oneLine_name
    exact .join (.join (.join (.join counted (by decide)) mismatch.arity.oneLine_describe)
      (by decide)) (.toString mismatch.got)
  | malformedClause flaw =>
    cases flaw with
    | lastNotElse | notList | noArrow => decide
    | length got => exact .join (by decide) (.toString got)

section

variable {σ : Type} [CharSource σ] {kind : LexerKind} {source : σ} {limits : Limits}

theorem oneLine_of_mem_forms {cause : ParseError}
    (member : .error cause ∈ (read kind source).forms) : OneLine cause.message.toList := by
  cases cause with
  | unmatchedClosing | unexpectedEnd => decide
  | lexFailure cause =>
    rcases exists_run_of_mem_forms member with cut | ⟨run, accounts, within⟩
    · cases cut
    · cases accounts
      exact .join (by decide) (Lexer.oneLine_of_mem (within (List.mem_append_right _
        (List.mem_singleton.2 rfl))))

theorem oneLine_of_mem_results {cause : ReadError}
    (yielded : .error cause ∈ (read kind source).results limits) :
    OneLine cause.message.toList := by
  obtain ⟨form, member, result⟩ := List.mem_map.1 yielded
  cases form with
  | error cause =>
    cases result
    exact oneLine_of_mem_forms member
  | ok node =>
    have analyzed := analyzeWithin_eq_analyzeNode limits node
    cases rejected : analyzeNode limits node with
    | ok expr =>
      simp only [Reading.result, rejected] at result
      cases result
    | error cause =>
      simp only [Reading.result, rejected] at result
      cases result
      rw [rejected] at analyzed
      exact (named_of_analyzeWithin analyzed).oneLine_message (spelledIn_of_mem_forms member)

end

end SchemeReader
