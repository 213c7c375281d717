import SchemeReader.Proofs.Cli.Options
import SchemeReader.Proofs.Cli.Shown

set_option autoImplicit false

namespace SchemeReader.Cli

open Text (CharSource Chunks)

namespace Transcript

def Returnless (lines : List String) : Prop := ∀ line ∈ lines, '\r' ∉ line.toList

theorem return_not_mem_unlines {lines : List String} (returnless : Returnless lines) :
    '\r' ∉ (unlines lines).toList := by
  rw [toList_unlines]
  intro member
  obtain ⟨text, written, inside⟩ := List.mem_flatMap.1 member
  obtain ⟨line, within, rfl⟩ := List.mem_map.1 written
  rcases List.mem_append.1 inside with here | last
  · exact returnless line within here
  · cases List.mem_singleton.1 last

section

variable {style : Style} (plain : style.describe = false)
include plain

theorem returnless_feed {σ : Type} [CharSource σ] {source : σ} {transcript final : Transcript}
    (fed : transcript.feed style source = .ok final) (clean : final.session.errors = 0)
    (returns : '\r' ∉ CharSource.drain source) :
    transcript.session.errors = 0 ∧ (Returnless transcript.out → Returnless final.out) := by
  obtain ⟨before, exprs, shown, out⟩ := exists_shown_of_feed plain fed clean
  refine ⟨before, ?_⟩
  intro returnless line member inside
  rw [out] at member
  rcases List.mem_append.1 member with earlier | printed
  · exact returnless line earlier inside
  · obtain ⟨expr, within, rfl⟩ := List.mem_map.1 printed
    rw [Expr.source, String.toList_ofList] at inside
    exact returns ((shown.origins expr within).return_mem inside)

theorem returnless_feedLines {lines : List (List Char)} {transcript final : Transcript}
    (fed : feedLines style transcript lines = .ok final) (clean : final.session.errors = 0)
    (returns : ∀ line ∈ lines, '\r' ∉ line) :
    transcript.session.errors = 0 ∧ (Returnless transcript.out → Returnless final.out) := by
  induction lines generalizing transcript with
  | nil =>
    cases fed
    exact ⟨clean, id⟩
  | cons line later ih =>
    obtain ⟨next, first, fed⟩ := ok_of_bind fed
    obtain ⟨before, behind⟩ :=
      ih fed fun other member => returns other (List.mem_cons_of_mem _ member)
    have here : '\r' ∉ CharSource.drain line := by
      rw [Text.drain_list]
      exact returns line List.mem_cons_self
    obtain ⟨start, kept⟩ := returnless_feed plain first before here
    exact ⟨start, behind ∘ kept⟩

theorem returnless_feedDocument {whole : Bool} {document : String} {transcript final : Transcript}
    (fed : transcript.feedDocument style whole document = .ok final)
    (clean : final.session.errors = 0) (before : Returnless transcript.out) :
    Returnless final.out := by
  have returns := Text.return_not_mem_unifyLineEnds document.toList
  unfold feedDocument at fed
  cases whole with
  | true =>
    have unified :
        '\r' ∉ CharSource.drain (Chunks.ofText (Text.unifyLineEnds document.toList)) := by
      rwa [Chunks.ofText, Chunks.drain_start]
    exact (returnless_feed plain fed clean unified).2 before
  | false =>
    refine (returnless_feedLines plain fed clean ?_).2 before
    intro line member
    rw [Text.lines_eq_splitLines returns] at member
    intro inside
    exact returns (Text.mem_of_mem_splitLines member inside).1

theorem feedDocument_printed (transcript : Transcript) {text : List Char} {exprs : List Expr}
    (shown : ShownFrom transcript.session.limits text exprs) (returns : '\r' ∉ printedText exprs)
    (whole : Bool) :
    ∃ final, transcript.feedDocument style whole (unlines (exprs.map Expr.source)) = .ok final ∧
      final.session.errors = transcript.session.errors ∧
        final.out = transcript.out ++ exprs.map Expr.source := by
  have given :
      Shows transcript.session.limits (read transcript.session.kind (printedText exprs)) exprs :=
    ⟨results_printedText shown.origins transcript.session.kind, shown.shallow⟩
  have complete := complete_of_mem_printedText shown.origins transcript.session.kind
  have fed := feedDocument_eq style whole returns complete
  rw [← toList_unlines_sources, String.ofList_toList, toList_unlines_sources] at fed
  exact ⟨_, fed, extend_of_shows plain given⟩

end

end Transcript

section

variable {host : Host} {lexer : Option LexerKind} {level : LogLevel} {kind : LexerKind}
variable (configured : configure (plainOptions lexer) host.environment = .ok (level, kind))
include configured

theorem run_input (whole : Bool) :
    run host (lexerArguments lexer ++ wholeArguments whole) =
      ((Transcript.start kind host.limits).feedDocument { describe := false, level } whole
        host.input).map (·.report { describe := false, level }) := by
  rw [run_eq_execute (Options.ofArguments_whole lexer whole) configured]
  simp only [execute, plainOptions, Transcript.start]
  cases Transcript.feedDocument { describe := false, level } whole
    { session := .start kind host.limits, out := [], err := [] } host.input <;> rfl

theorem run_code {code : String}
    (parsed : Options.ofArguments (lexerArguments lexer ++ ["-c", code]) =
      .ok { plainOptions lexer with command := some code }) :
    run host (lexerArguments lexer ++ ["-c", code]) =
      ((Transcript.start kind host.limits).feed { describe := false, level } code.toList).map
        (·.report { describe := false, level }) := by
  rw [run_eq_execute parsed configured, execute_command rfl]
  rfl

end

theorem exists_report_of_map {style : Style} {fed : Except Fault Transcript} {report : Report}
    (reported : fed.map (·.report style) = .ok report) (succeeded : report.status = 0) :
    ∃ final, fed = .ok final ∧ final.session.errors = 0 ∧
      report.out = Transcript.unlines final.out := by
  cases fed with
  | error cause => cases reported
  | ok final =>
    cases reported
    exact ⟨final, rfl, Transcript.status_report_eq_zero.1 succeeded, rfl⟩

theorem exists_printed {host : Host} {lexer : Option LexerKind} {code : String} {first : Report}
    (ran : run host (lexerArguments lexer ++ ["-c", code]) = .ok first)
    (succeeded : first.status = 0) :
    ∃ (level : LogLevel) (kind : LexerKind) (exprs : List Expr),
      configure (plainOptions lexer) host.environment = .ok (level, kind) ∧
        ShownFrom host.limits code.toList exprs ∧
          first.out = Transcript.unlines (exprs.map Expr.source) := by
  rcases Options.ofArguments_command lexer code with parsed | ⟨error, refused⟩
  · cases configured : configure (plainOptions lexer) host.environment with
    | error message =>
      have same : configure { plainOptions lexer with command := some code } host.environment =
          .error message := configured
      rw [run, parsed] at ran
      simp only [same] at ran
      cases ran
      cases succeeded
    | ok chosen =>
      obtain ⟨level, kind⟩ := chosen
      rw [run_code configured parsed] at ran
      obtain ⟨final, fed, clean, out⟩ := exists_report_of_map ran succeeded
      obtain ⟨_, exprs, shown, added⟩ := Transcript.exists_shown_of_feed rfl fed clean
      rw [Text.drain_list] at shown
      exact ⟨level, kind, exprs, rfl, shown, by rw [out, added]; rfl⟩
  · rw [run, refused] at ran
    cases ran
    cases succeeded

/-- The output of a successful run, given as input to another, is printed again if and only if there
is no carriage return in it. -/
theorem output_reads_back_iff {host : Host} {lexer : Option LexerKind} {code : String}
    {first : Report} (ran : run host (lexerArguments lexer ++ ["-c", code]) = .ok first)
    (succeeded : first.status = 0) (whole : Bool) :
    ((∃ second,
        run { host with input := first.out } (lexerArguments lexer ++ wholeArguments whole) =
            .ok second ∧
          second.status = 0 ∧ second.out = first.out) ↔ '\r' ∉ first.out.toList) ∧
      ('\r' ∈ first.out.toList → '\r' ∈ code.toList) := by
  obtain ⟨level, kind, exprs, configured, shown, printed⟩ := exists_printed ran succeeded
  have text : first.out.toList = printedText exprs := by
    rw [printed, Transcript.toList_unlines_sources]
  have configured : configure (plainOptions lexer) { host with input := first.out }.environment =
      .ok (level, kind) := configured
  rw [run_input configured whole]
  refine ⟨⟨?_, ?_⟩, ?_⟩
  · -- The second run reads no carriage return, whatever is in the output of the first.
    intro ⟨second, reread, clean, same⟩
    obtain ⟨final, fed, clean, out⟩ := exists_report_of_map reread clean
    rw [← same, out]
    apply Transcript.return_not_mem_unlines
    exact Transcript.returnless_feedDocument rfl fed clean nofun
  · intro returns
    rw [text] at returns
    let style : Style := { describe := false, level }
    have plain : style.describe = false := rfl
    obtain ⟨final, fed, clean, out⟩ :=
      Transcript.feedDocument_printed plain (.start kind host.limits) shown returns whole
    refine ⟨final.report style, ?_, ?_, ?_⟩
    · rw [printed, fed]
      rfl
    · exact Transcript.status_report_eq_zero.2 clean
    · rw [printed]
      exact congrArg Transcript.unlines out
  · rw [text]
    exact return_mem_of_mem_printedText shown.origins

def outcome (ran : Except Fault Report) : Option (Nat × String) :=
  ran.toOption.map fun report => (report.status, report.out)

theorem exists_report_of_outcome {ran : Except Fault Report} {status : Nat} {out : String}
    (shown : outcome ran = some (status, out)) :
    ∃ report, ran = .ok report ∧ report.status = status ∧ report.out = out := by
  cases ran with
  | error cause => cases shown
  | ok report =>
    cases shown
    exact ⟨report, rfl, rfl, rfl⟩

def escapedReturn : String := "(if #t \"a\r\" (quote #\\\n)) 007"

theorem escapedReturn_reads_back :
    ∃ first, run quietHost (lexerArguments (some .pattern) ++ ["-c", escapedReturn]) = .ok first ∧
      first.status = 0 ∧ '\r' ∉ first.out.toList ∧
        ∃ second, run { quietHost with input := first.out }
            (lexerArguments (some .pattern) ++ wholeArguments true) = .ok second ∧
          second.status = 0 ∧ second.out = first.out := by
  obtain ⟨first, ran, succeeded, out⟩ := exists_report_of_outcome
    (by decide +kernel :
      outcome (run quietHost (lexerArguments (some .pattern) ++ ["-c", escapedReturn])) =
        some (0, "(if #t \"a\\r\" (quote #\\newline))\n7\n"))
  have returns : '\r' ∉ first.out.toList := by
    rw [out]
    decide
  exact ⟨first, ran, succeeded, returns, (output_reads_back_iff ran succeeded true).1.2 returns⟩

def bareReturn : String := "#\\\r"

-- The line is cut off at the carriage return, and what is left of it is no token.
theorem not_output_reads_back :
    ¬ ∀ (host : Host) (lexer : Option LexerKind) (code : String) (first : Report),
      run host (lexerArguments lexer ++ ["-c", code]) = .ok first → first.status = 0 →
        ∀ whole, ∃ second,
          run { host with input := first.out } (lexerArguments lexer ++ wholeArguments whole) =
              .ok second ∧
            second.status = 0 ∧ second.out = first.out := by
  intro reads
  obtain ⟨first, ran, succeeded, out⟩ := exists_report_of_outcome
    (by decide +kernel : outcome (run quietHost (lexerArguments none ++ ["-c", bareReturn])) =
      some (0, "#\\\r\n"))
  obtain ⟨second, reread, clean, _⟩ := reads quietHost none bareReturn first ran succeeded false
  obtain ⟨cut, again, failed, _⟩ := exists_report_of_outcome
    (by decide +kernel : outcome (run { quietHost with input := "#\\\r\n" }
        (lexerArguments none ++ wholeArguments false)) =
      some (1, "error: lexer error: no token matches '#\\\\'\n"))
  rw [out, again] at reread
  cases reread
  rw [failed] at clean
  cases clean

end SchemeReader.Cli
