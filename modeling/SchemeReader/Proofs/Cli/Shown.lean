import Mathlib.Data.Set.List
import SchemeReader.Proofs.Cli.Lines
import SchemeReader.Proofs.Reading.Printed

set_option autoImplicit false

namespace SchemeReader.Cli

open Text (CharSource)

structure Shows (limits : Limits) (reading : Reading Empty) (exprs : List Expr) : Prop where
  results : reading.results limits = exprs.map .ok
  shallow : ∀ expr ∈ exprs, expr.depth ≤ limits.print

structure ShownFrom (limits : Limits) (text : List Char) (exprs : List Expr) : Prop where
  origins : ∀ expr ∈ exprs, ReadFrom limits text expr
  shallow : ∀ expr ∈ exprs, expr.depth ≤ limits.print

namespace Transcript

theorem toList_unlines (lines : List String) :
    (unlines lines).toList = (lines.map String.toList).flatMap (· ++ ['\n']) := by
  rw [unlines, String.toList_join, List.flatMap_map, List.flatMap_map]
  apply List.flatMap_congr
  intro line _
  exact String.toList_append

theorem toList_unlines_sources (exprs : List Expr) :
    (unlines (exprs.map Expr.source)).toList = printedText exprs := by
  rw [toList_unlines, printedText, List.map_map]
  congr 1
  apply List.map_congr_left
  intro expr _
  exact String.toList_ofList

theorem status_report_eq_zero {style : Style} {transcript : Transcript} :
    (transcript.report style).status = 0 ↔ transcript.session.errors = 0 := by
  simp [report]

section

variable {limits : Limits} {style : Style} (plain : style.describe = false)
include plain

theorem text?_plain (limits : Limits) (expr : Expr) :
    style.text? limits expr = expr.source? limits := by
  rw [Style.text?, plain]
  rfl

theorem resultLine_shallow {expr : Expr} (shallow : expr.depth ≤ limits.print) :
    resultLine style limits (.ok expr) = (expr.source, false) := by
  rw [resultLine, text?_plain plain, Expr.source?, if_pos shallow]

theorem shallow_of_resultLine {expr : Expr}
    (shown : (resultLine style limits (.ok expr)).2 = false) :
    expr.depth ≤ limits.print := by
  by_cases shallow : expr.depth ≤ limits.print
  · exact shallow
  · rw [resultLine, text?_plain plain, Expr.source?, if_neg shallow] at shown
    cases shown

theorem extend_of_shows {reading : Reading Empty} {exprs : List Expr} {transcript : Transcript}
    (given : Shows transcript.session.limits reading exprs) :
    (transcript.extend style reading).session.errors = transcript.session.errors ∧
      (transcript.extend style reading).out = transcript.out ++ exprs.map Expr.source := by
  have lines : (reading.results transcript.session.limits).map
      (resultLine style transcript.session.limits) =
      exprs.map fun expr => (expr.source, false) := by
    rw [given.results, List.map_map]
    apply List.map_congr_left
    intro expr member
    exact resultLine_shallow plain (given.shallow expr member)
  have read : Session.errorCount (reading.results transcript.session.limits) = 0 := by
    simp [Session.errorCount, given.results, List.countP_eq_zero]
  have shown : ((reading.results transcript.session.limits).map
      (resultLine style transcript.session.limits)).countP (·.2) = 0 := by
    simp [lines, List.countP_eq_zero]
  constructor
  · simp only [extend, Session.count, read, shown, Nat.add_zero]
  · simp [extend, lines]

theorem exists_shows_of_clean {transcript : Transcript} {reading : Reading Empty}
    (clean : (transcript.extend style reading).session.errors = 0) :
    transcript.session.errors = 0 ∧ ∃ exprs, Shows transcript.session.limits reading exprs := by
  let limits := transcript.session.limits
  have counts : transcript.session.errors + Session.errorCount (reading.results limits) +
      ((reading.results limits).map (resultLine style limits)).countP (·.2) = 0 := clean
  have read : Session.errorCount (reading.results limits) = 0 := by omega
  have shown : ((reading.results limits).map (resultLine style limits)).countP (·.2) = 0 := by
    omega
  have all : reading.results limits ∈
      Set.range (List.map (Except.ok : Expr → Except ReadError Expr)) := by
    rw [Set.range_list_map]
    intro result member
    have accepted := List.countP_eq_zero.1 read result member
    cases result with
    | error cause => exact absurd rfl accepted
    | ok expr => exact ⟨expr, rfl⟩
  obtain ⟨exprs, results⟩ := all
  refine ⟨by omega, exprs, results.symm, ?_⟩
  intro expr member
  have yielded : .ok expr ∈ reading.results limits := by
    rw [← results]
    exact List.mem_map_of_mem member
  have line := List.countP_eq_zero.1 shown _ (List.mem_map_of_mem yielded)
  exact shallow_of_resultLine plain (by simpa using line)

theorem exists_shown_of_feed {σ : Type} [CharSource σ] {source : σ} {transcript final : Transcript}
    (fed : transcript.feed style source = .ok final) (clean : final.session.errors = 0) :
    transcript.session.errors = 0 ∧
      ∃ exprs, ShownFrom transcript.session.limits (CharSource.drain source) exprs ∧
        final.out = transcript.out ++ exprs.map Expr.source := by
  rw [feed_eq] at fed
  split at fed
  · cases fed
  · cases fed
    obtain ⟨before, exprs, given⟩ := exists_shows_of_clean plain clean
    have origins (expr : Expr) (member : expr ∈ exprs) :
        ReadFrom transcript.session.limits (CharSource.drain source) expr := by
      have yielded : .ok expr ∈
          (read transcript.session.kind source).results transcript.session.limits := by
        rw [given.results]
        exact List.mem_map_of_mem member
      exact readFrom_of_mem_results yielded
    exact ⟨before, exprs, ⟨origins, given.shallow⟩, (extend_of_shows plain given).2⟩

end

end Transcript

end SchemeReader.Cli
