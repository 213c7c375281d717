import SchemeReader.Proofs.Reading.Formed
import SchemeReader.Proofs.Reading.Lines
import SchemeReader.Proofs.RoundTrip

set_option autoImplicit false

namespace SchemeReader

open Text (splitLines)

def printedText (exprs : List Expr) : List Char :=
  (exprs.map Expr.spelling).flatMap (· ++ ['\n'])

theorem read_spelling (kind : LexerKind) {expr : Expr} (formed : expr.WellFormed) :
    read kind expr.spelling = { forms := [.ok expr.node], fault := none } := by
  have readable : Tree.AllReadable [expr.node] := ⟨expr.readable_node formed, trivial⟩
  have spelling := expr.spelling_node (expr.proper_of_formed formed)
  have parsed : parse kind expr.spelling = [expr.node].map .tree := by
    apply parse_spellings kind readable
    rw [Text.drain_list, ← spelling]
    simp [Tree.spellings]
  rw [read, parsed, Reading.ofForms_trees]
  rfl

namespace ReadFrom

variable {limits : Limits} {text : List Char} {expr : Expr}

theorem results_spelling (origin : ReadFrom limits text expr) (kind : LexerKind) :
    (read kind expr.spelling).results limits = [.ok expr] := by
  rw [read_spelling kind origin.wellFormed, Reading.results, List.map_singleton,
    Expr.result_node origin.wellFormed origin.within]

theorem complete_spelling (origin : ReadFrom limits text expr) (kind : LexerKind) :
    (read kind expr.spelling).Complete limits where
  faultless := by rw [read_spelling kind origin.wellFormed]
  uncut result member := by
    rw [origin.results_spelling kind, List.mem_singleton] at member
    rw [member]
    rfl

theorem newline_not_mem (origin : ReadFrom limits text expr) : '\n' ∉ expr.spelling := by
  intro member
  rcases origin.isInline_of_mem member with plain | ⟨same, _⟩
  · exact plain.1 rfl
  · cases same

theorem return_mem (origin : ReadFrom limits text expr) (member : '\r' ∈ expr.spelling) :
    '\r' ∈ text := by
  rcases origin.isInline_of_mem member with plain | ⟨_, within⟩
  · exact absurd rfl plain.2
  · exact within

end ReadFrom

section

variable {limits : Limits} {text : List Char} {exprs : List Expr}
variable (origins : ∀ expr ∈ exprs, ReadFrom limits text expr)
include origins

theorem splitLines_printedText : splitLines (printedText exprs) = exprs.map Expr.spelling := by
  apply Text.splitLines_flatMap
  intro line member
  obtain ⟨expr, within, rfl⟩ := List.mem_map.1 member
  exact (origins expr within).newline_not_mem

theorem return_mem_of_mem_printedText (member : '\r' ∈ printedText exprs) : '\r' ∈ text := by
  obtain ⟨line, printed, inside⟩ := List.mem_flatMap.1 member
  obtain ⟨expr, within, rfl⟩ := List.mem_map.1 printed
  rcases List.mem_append.1 inside with here | last
  · exact (origins expr within).return_mem here
  · cases List.mem_singleton.1 last

theorem complete_of_mem_printedText (kind : LexerKind) :
    ∀ line ∈ splitLines (printedText exprs), (read kind line).Complete limits := by
  intro line member
  rw [splitLines_printedText origins] at member
  obtain ⟨expr, within, rfl⟩ := List.mem_map.1 member
  exact (origins expr within).complete_spelling kind

theorem results_printedText (kind : LexerKind) :
    (read kind (printedText exprs)).results limits = exprs.map .ok := by
  obtain ⟨forms, _⟩ := forms_splitLines (complete_of_mem_printedText origins kind)
  rw [Reading.results, forms, List.map_flatMap, splitLines_printedText origins, List.flatMap_map,
    List.map_eq_flatMap]
  apply List.flatMap_congr
  intro expr member
  exact (origins expr member).results_spelling kind

end

end SchemeReader
