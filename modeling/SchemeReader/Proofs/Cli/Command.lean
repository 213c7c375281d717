import SchemeReader.Cli.Run
import SchemeReader.Proofs.Reading.Delivery

set_option autoImplicit false

namespace SchemeReader.Cli

open Text (CharSource)
open TokenSource (items after)

def Transcript.start (kind : LexerKind) (limits : Limits) : Transcript :=
  { session := .start kind limits, out := [], err := [] }

theorem Transcript.feed_of_fault {σ : Type} [CharSource σ] {kind : LexerKind} {source : σ}
    (style : Style) (limits : Limits) {cause : Fault}
    (fault : (read kind source).fault = some cause) :
    (Transcript.start kind limits).feed style source = .error cause := by
  simp only [feed, start, Session.feed, Session.start, fault]

theorem Transcript.feed_of_faultless {σ : Type} [CharSource σ] {kind : LexerKind} {source : σ}
    (style : Style) (limits : Limits) (faultless : (read kind source).fault = none) :
    ∃ transcript, (Transcript.start kind limits).feed style source = .ok transcript := by
  simp only [feed, start, Session.feed, Session.start, faultless]
  exact ⟨_, rfl⟩

theorem Transcript.status_report (style : Style) (transcript : Transcript) :
    (transcript.report style).status = 0 ∨ (transcript.report style).status = 1 := by
  by_cases clean : transcript.session.errors = 0
  · exact .inl (if_pos clean)
  · exact .inr (if_neg clean)

section

variable {host : Host} {arguments : List String} {options : Options} {style : Style}
variable {level : LogLevel} {kind : LexerKind} {code : String}

theorem execute_command (command : options.command = some code) :
    execute host options style kind =
      ((Transcript.start kind host.limits).feed style code.toList).map (·.report style) := by
  simp only [execute, command, Transcript.start]
  cases Transcript.feed style { session := .start kind host.limits, out := [], err := [] }
    code.toList <;> rfl

theorem run_eq_execute (parsed : Options.ofArguments arguments = .ok options)
    (configured : configure options host.environment = .ok (level, kind)) :
    run host arguments = execute host options { describe := options.describe, level } kind := by
  rw [run, parsed]
  simp only [configured]

theorem run_command_of_fault (parsed : Options.ofArguments arguments = .ok options)
    (command : options.command = some code)
    (configured : configure options host.environment = .ok (level, kind)) {cause : Fault}
    (fault : (read kind code.toList).fault = some cause) : run host arguments = .error cause := by
  have fed := Transcript.feed_of_fault { describe := options.describe, level } host.limits fault
  rw [run_eq_execute parsed configured, execute_command command, fed]
  rfl

theorem run_command_of_faultless (parsed : Options.ofArguments arguments = .ok options)
    (command : options.command = some code)
    (configured : configure options host.environment = .ok (level, kind))
    (faultless : (read kind code.toList).fault = none) :
    ∃ report, run host arguments = .ok report ∧ (report.status = 0 ∨ report.status = 1) := by
  obtain ⟨transcript, fed⟩ :=
    Transcript.feed_of_faultless { describe := options.describe, level } host.limits faultless
  refine ⟨transcript.report { describe := options.describe, level }, ?_,
    transcript.status_report _⟩
  rw [run_eq_execute parsed configured, execute_command command, fed]
  rfl

end

/-- Only a numeral that is too long to be converted stops a reading, and the run with it. -/
theorem only_overlong_stops (kind : LexerKind) (code : String) :
    (∀ cause, (read kind code.toList).fault = some cause ↔
        ∃ count numeral, (Lexer.start kind code.toList).FirstOverlong count numeral ∧
          cause = .tooManyDigits numeral.length) ∧
      (∃ runs later, Covers ((read kind code.toList).forms.map Reading.form ++ later) runs ∧
          runs.flatten = items (Lexer.start kind code.toList) ∧
            later.head? = (read kind code.toList).fault.map .fault) ∧
      .token (.identifier "") ∉ items (Lexer.start kind code.toList) ∧
      ∀ host arguments options level, Options.ofArguments arguments = .ok options →
        options.command = some code → configure options host.environment = .ok (level, kind) →
          (∀ cause, (read kind code.toList).fault = some cause →
              run host arguments = .error cause) ∧
            ((read kind code.toList).fault = none →
              ∃ report, run host arguments = .ok report ∧
                (report.status = 0 ∨ report.status = 1)) := by
  refine ⟨?_, exists_covers_read kind code.toList, ?_, ?_⟩
  · intro cause
    exact read_fault_iff
  · intro named
    exact Lexer.name_ne_empty named rfl
  · intro host arguments options level parsed command configured
    exact ⟨fun _ => run_command_of_fault parsed command configured,
      run_command_of_faultless parsed command configured⟩

def unclosed : String := "(if 1 2"

def quietHost : Host :=
  { environment := { lexer := none, logLevel := none }
    input := ""
    open? := fun _ => .failed .notFound
    limits := .standard }

theorem run_unclosed :
    ∃ report, run quietHost ["-c", unclosed] = .ok report ∧
      (report.status = 0 ∨ report.status = 1) := by
  have short : (read .lookahead unclosed.toList).fault = none := read_faultless_of_short (by decide)
  exact ((only_overlong_stops .lookahead unclosed).2.2.2 quietHost ["-c", unclosed]
    { command := some unclosed, lexer := none, whole := false, describe := false, logLevel := none,
      files := [] } .warning rfl rfl rfl).2 short

def longZero : List Char := List.replicate (Fault.digitLimit + 1) '0'

theorem isOverlong_longZero : IsOverlong longZero where
  digits c member := by
    rw [List.eq_of_mem_replicate member]
    rfl
  long := by
    rw [longZero, List.length_replicate]
    exact Nat.lt_succ_self _
  small := by
    have nothing : longZero.dropWhile (· = '0') = [] := by
      rw [List.dropWhile_eq_nil_iff]
      intro c member
      simp [List.eq_of_mem_replicate member]
    simp [nothing]

theorem not_read_faultless :
    ¬ ∀ (kind : LexerKind) (source : List Char), (read kind source).fault = none := by
  intro faultless
  have ahead : OverlongAhead (after (Lexer.start .lookahead longZero) 0).ahead longZero := by
    refine ⟨isOverlong_longZero, [], ?_, rfl⟩
    rw [after, Lexer.ahead_start, Text.drain_list, List.append_nil, longZero, List.replicate_succ]
    exact List.dropWhile_cons_of_neg (by decide)
  have fault : (read .lookahead longZero).fault = some (.tooManyDigits longZero.length) :=
    read_fault_iff.2 ⟨0, longZero, ⟨ahead, by simp⟩, rfl⟩
  rw [faultless] at fault
  cases fault

end SchemeReader.Cli
