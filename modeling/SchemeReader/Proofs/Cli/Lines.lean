import SchemeReader.Proofs.Cli.Command
import SchemeReader.Proofs.Reading.Lines
import SchemeReader.Proofs.Text.Chunks

set_option autoImplicit false

namespace SchemeReader.Cli

open Text (CharSource Chunks)

namespace Transcript

variable {σ : Type} [CharSource σ]

def extend (style : Style) (transcript : Transcript) (reading : Reading Empty) : Transcript :=
  let session := transcript.session.count reading
  let limits := transcript.session.limits
  let lines := (reading.results limits).map (resultLine style limits)
  { session := { session with errors := session.errors + lines.countP (·.2) }
    out := transcript.out ++ lines.map (·.1)
    err := transcript.err ++ (records style limits reading).map LogRecord.line }

theorem feed_eq (style : Style) (transcript : Transcript) (source : σ) :
    transcript.feed style source =
      match (read transcript.session.kind source).fault with
      | some cause => .error cause
      | none => .ok (transcript.extend style (read transcript.session.kind source)) :=
  rfl

theorem feed_eq_extend (style : Style) {transcript : Transcript} {source : σ}
    (faultless : (read transcript.session.kind source).fault = none) :
    transcript.feed style source =
      .ok (transcript.extend style (read transcript.session.kind source)) := by
  rw [feed_eq, faultless]

theorem records_append {style : Style} {limits : Limits} {first second whole : Reading Empty}
    (joined : whole.forms = first.forms ++ second.forms) :
    records style limits whole = records style limits first ++ records style limits second := by
  unfold records
  split
  next => rw [joined, List.flatMap_append]
  next => rfl

theorem extend_append (style : Style) (transcript : Transcript) {first second whole : Reading Empty}
    (joined : whole.forms = first.forms ++ second.forms) :
    transcript.extend style whole = (transcript.extend style first).extend style second := by
  have results (limits : Limits) :
      whole.results limits = first.results limits ++ second.results limits := by
    simp only [Reading.results, joined, List.map_append]
  simp only [extend, Session.count, Session.errorCount, records_append joined, results,
    List.length_append, List.countP_append, List.map_append, List.append_assoc, Transcript.mk.injEq,
    Session.mk.injEq, and_true, true_and]
  omega

theorem extend_nil (style : Style) (transcript : Transcript) {reading : Reading Empty}
    (nothing : reading.forms = []) : transcript.extend style reading = transcript := by
  simp [extend, Session.count, Session.errorCount, records, Reading.results, nothing]

theorem feedLines_eq {style : Style} {transcript : Transcript} {lines : List (List Char)}
    {whole : Reading Empty}
    (faultless : ∀ line ∈ lines, (read transcript.session.kind line).fault = none)
    (joined : whole.forms = lines.flatMap fun line => (read transcript.session.kind line).forms) :
    feedLines style transcript lines = .ok (transcript.extend style whole) := by
  induction lines generalizing transcript whole with
  | nil => rw [feedLines, extend_nil style transcript joined]
  | cons line later ih =>
    let behind : Reading Empty :=
      { forms := later.flatMap fun line => (read transcript.session.kind line).forms
        fault := none }
    have joined : whole.forms = (read transcript.session.kind line).forms ++ behind.forms := joined
    have first := feed_eq_extend style (faultless line List.mem_cons_self)
    have others : ∀ line ∈ later, (read transcript.session.kind line).fault = none :=
      fun line member => faultless line (List.mem_cons_of_mem _ member)
    have split := extend_append style transcript joined
    have rest : feedLines style
        (transcript.extend style (read transcript.session.kind line)) later =
          .ok ((transcript.extend style (read transcript.session.kind line)).extend style behind) :=
      ih others rfl
    rw [split, ← rest, feedLines, first]
    rfl

theorem feedLines_splitLines (style : Style) {transcript : Transcript} {text : List Char}
    (complete : ∀ line ∈ Text.splitLines text,
      (read transcript.session.kind line).Complete transcript.session.limits) :
    feedLines style transcript (Text.splitLines text) =
      .ok (transcript.extend style (read transcript.session.kind text)) :=
  feedLines_eq (fun line member => (complete line member).faultless) (forms_splitLines complete).1

theorem feed_chunks (style : Style) {transcript : Transcript} {text : List Char}
    (faultless : (read transcript.session.kind text).fault = none) :
    transcript.feed style (Chunks.ofText text) =
      .ok (transcript.extend style (read transcript.session.kind text)) := by
  have same := read_eq_drain transcript.session.kind (Chunks.ofText text)
  rw [Chunks.ofText, Chunks.drain_start] at same
  rw [feed_eq, Chunks.ofText, same, faultless]

theorem feedDocument_eq (style : Style) (whole : Bool) {transcript : Transcript} {text : List Char}
    (returns : '\r' ∉ text)
    (complete : ∀ line ∈ Text.splitLines text,
      (read transcript.session.kind line).Complete transcript.session.limits) :
    transcript.feedDocument style whole (String.ofList text) =
      .ok (transcript.extend style (read transcript.session.kind text)) := by
  simp only [feedDocument, String.toList_ofList, Text.unifyLineEnds_eq returns]
  cases whole with
  | true => exact feed_chunks style (forms_splitLines complete).2
  | false =>
    rw [Text.lines_eq_splitLines returns]
    exact feedLines_splitLines style complete

end Transcript

/-- Where the reading of each line is complete, a document may be fed by lines or at once. -/
theorem lines_agree_whole (style : Style) (transcript : Transcript) (text : List Char)
    (returns : '\r' ∉ text)
    (complete : ∀ line ∈ Text.lines text,
      (read transcript.session.kind line).Complete transcript.session.limits) :
    (∀ size positive,
      (read transcript.session.kind (Chunks.start size positive text)).results
            transcript.session.limits =
          (Text.lines text).flatMap (fun line =>
            (read transcript.session.kind line).results transcript.session.limits) ∧
        (read transcript.session.kind (Chunks.start size positive text)).fault = none) ∧
      ∃ final, ∀ whole,
        transcript.feedDocument style whole (String.ofList text) = .ok final := by
  rw [Text.lines_eq_splitLines returns] at complete ⊢
  constructor
  · intro size positive
    obtain ⟨forms, faultless⟩ := forms_splitLines complete
    rw [read_eq_drain, Chunks.drain_start, Reading.results, forms, List.map_flatMap]
    exact ⟨rfl, faultless⟩
  · exact ⟨_, fun whole => Transcript.feedDocument_eq style whole returns complete⟩

def severalLines : List Char := "(if 1 2 3) x\n\n) \"\\q\" (foo)\n(quote (a . b))".toList

theorem severalLines_agree_whole :
    '\r' ∉ severalLines ∧
      (∀ line ∈ Text.lines severalLines, (read .pattern line).Complete .standard) ∧
      (∀ size positive,
        (read .pattern (Chunks.start size positive severalLines)).results .standard =
            (Text.lines severalLines).flatMap
              (fun line => (read .pattern line).results .standard) ∧
          (read .pattern (Chunks.start size positive severalLines)).fault = none) ∧
      ∃ final, ∀ whole,
        (Transcript.start .pattern .standard).feedDocument { describe := false, level := .debug }
          whole (String.ofList severalLines) = .ok final := by
  have returns : '\r' ∉ severalLines := by decide
  have complete : ∀ line ∈ Text.lines severalLines, (read .pattern line).Complete .standard := by
    decide +kernel
  exact ⟨returns, complete, lines_agree_whole { describe := false, level := .debug }
    (Transcript.start .pattern .standard) severalLines returns complete⟩

end SchemeReader.Cli
