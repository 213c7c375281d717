import SchemeReader.Printing
import SchemeReader.Proofs.Analysis

set_option autoImplicit false

namespace SchemeReader

open Text (CharSource)

theorem Expr.allWellFormed {exprs : List Expr} (formed : ∀ expr ∈ exprs, expr.WellFormed) :
    Expr.AllWellFormed exprs := by
  induction exprs with
  | nil => trivial
  | cons expr rest ih =>
    exact ⟨formed expr (by simp), ih fun other member => formed other (by simp [member])⟩

theorem Expr.nodes_eq_map (exprs : List Expr) : Expr.nodes exprs = exprs.map Expr.node := by
  induction exprs with
  | nil => rfl
  | cons expr rest ih => rw [Expr.nodes, ih, List.map_cons]

theorem Expr.spellings_eq_map (exprs : List Expr) :
    Expr.spellings exprs = exprs.map Expr.spelling := by
  induction exprs with
  | nil => rfl
  | cons expr rest ih => rw [Expr.spellings, ih, List.map_cons]

theorem Expr.result_node {limits : Limits} {expr : Expr} (formed : expr.WellFormed)
    (within : expr.levels ≤ limits.analysis) :
    Reading.result limits (.ok expr.node) = .ok expr := by
  have admits : Room.Admits (some limits.analysis) expr.levels := by
    rintro _ ⟨⟩
    exact within
  rw [Reading.result, analyzeNode, expr.analyze_node (expr.proper_of_formed formed) admits]
  rfl

section

variable {σ : Type} [CharSource σ]

/-- The texts of well-formed expressions, one on a line, are read as these expressions and nothing
else, with no error. -/
theorem read_sources (kind : LexerKind) (limits : Limits) (exprs : List Expr)
    (formed : ∀ expr ∈ exprs, expr.WellFormed)
    (shallow : ∀ expr ∈ exprs, expr.depth ≤ limits.print)
    (within : ∀ expr ∈ exprs, expr.levels ≤ limits.analysis) :
    ∃ texts : List String, exprs.map (·.source? limits) = texts.map some ∧
      ∀ source : σ, CharSource.drain source = ("\n".intercalate texts).toList →
        (read kind source).results limits = exprs.map .ok ∧ (read kind source).fault = none := by
  refine ⟨exprs.map Expr.source, ?_, ?_⟩
  · rw [List.map_map]
    exact List.map_congr_left fun expr member => if_pos (shallow expr member)
  · intro source joined
    have all := Expr.allWellFormed formed
    have texts : (exprs.map Expr.source).map String.toList = Tree.spellings (Expr.nodes exprs) := by
      rw [Expr.spellings_nodes exprs all, Expr.spellings_eq_map, List.map_map]
      exact List.map_congr_left fun expr _ => String.toList_ofList
    rw [String.toList_intercalate, texts] at joined
    have parsed := parse_spellings kind (Expr.readable_nodes exprs all) joined
    have reading : read kind source =
        { forms := (Expr.nodes exprs).map .ok, fault := none } := by
      rw [read, parsed, Reading.ofForms_trees]
    rw [reading, Reading.results, Expr.nodes_eq_map, List.map_map, List.map_map]
    refine ⟨List.map_congr_left fun expr member => ?_, rfl⟩
    exact Expr.result_node (formed expr member) (within expr member)

end

def sampleExprs : List Expr :=
  [.cond [.binding (.variable "x") (.variable "f"), .bare (.literal (.character ' '))]
      (.quote (.cons (.symbol "a") (.cons .nil .nil))),
    .begin [.literal (.string "say \"(\"")]]

theorem read_sampleExprs :
    ∃ texts : List String, sampleExprs.map (·.source? .standard) = texts.map some ∧
      ∀ source : List Char, CharSource.drain source = ("\n".intercalate texts).toList →
        (read .pattern source).results .standard = sampleExprs.map .ok ∧
          (read .pattern source).fault = none := by
  have names : IsName "x" ∧ IsName "f" ∧ IsName "a" := by decide
  refine read_sources .pattern .standard sampleExprs ?_ (by decide) (by decide)
  simp [sampleExprs, Expr.WellFormed, Expr.AllWellFormed, Clause.AllWellFormed, Clause.WellFormed,
    Datum.WellFormed, Datum.terminator, Literal.Readable, names]

end SchemeReader
