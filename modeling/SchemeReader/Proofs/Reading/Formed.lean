import SchemeReader.Proofs.Analysis.Levels
import SchemeReader.Proofs.Expr.Formed
import SchemeReader.Proofs.Reading.Delivery
import SchemeReader.Proofs.Tree.Leaves
import SchemeReader.Proofs.Value.Spelling

set_option autoImplicit false

namespace SchemeReader

open Text (CharSource)
open TokenSource (items)

theorem Covers.exists_run {α : Type} {forms : List (Form α)} {runs : List (List (Item α))}
    (covers : Covers forms runs) {form : Form α} (member : form ∈ forms) :
    form = .error .unexpectedEnd ∨ ∃ run, Accounts form run ∧ run ⊆ runs.flatten := by
  induction covers with
  | nil => cases member
  | cut => exact .inl (List.mem_singleton.1 member)
  | form first _ ih =>
    rcases List.mem_cons.1 member with rfl | later
    · exact .inr ⟨_, first, List.subset_append_left _ _⟩
    · rcases ih later with cut | ⟨run, accounts, within⟩
      · exact .inl cut
      · exact .inr ⟨run, accounts, List.Subset.trans within (List.subset_append_right _ _)⟩

theorem analyzeWithin_eq_analyzeNode (limits : Limits) (node : Node) :
    analyzeWithin (some limits.analysis) node = (analyzeNode limits node).mapError .scheme := by
  unfold analyzeNode
  cases analyzeWithin (some limits.analysis) node with
  | ok expr => rfl
  | error rejection =>
    cases rejection with
    | scheme cause => rfl
    | notNode value | notQuotable value => cases value

section

variable {σ : Type} [CharSource σ] {kind : LexerKind} {source : σ} {limits : Limits}

theorem exists_run_of_mem_forms {form : Except ParseError Node}
    (member : form ∈ (read kind source).forms) :
    Reading.form form = .error .unexpectedEnd ∨
      ∃ run, Accounts (Reading.form form) run ∧ run ⊆ items (Lexer.start kind source) := by
  obtain ⟨runs, later, covers, joined, _⟩ := exists_covers_read kind source
  rw [← joined]
  exact covers.exists_run (List.mem_append_left _ (List.mem_map_of_mem member))

theorem spelledIn_of_mem_forms {node : Node} (member : .ok node ∈ (read kind source).forms) :
    ∀ token ∈ node.leaves, SpelledIn (CharSource.drain source) token := by
  rcases exists_run_of_mem_forms member with cut | ⟨run, accounts, within⟩
  · cases cut
  · cases accounts
    intro token leaf
    have spelled := Lexer.spelledIn (within (node.mem_items_of_mem_leaves leaf))
    rwa [Lexer.ahead_start] at spelled

theorem exists_node_of_mem_results {expr : Expr}
    (yielded : .ok expr ∈ (read kind source).results limits) :
    ∃ node, .ok node ∈ (read kind source).forms ∧
      analyzeWithin (some limits.analysis) node = .ok expr := by
  obtain ⟨form, member, result⟩ := List.mem_map.1 yielded
  cases form with
  | error cause => cases result
  | ok node =>
    refine ⟨node, member, ?_⟩
    rw [analyzeWithin_eq_analyzeNode]
    cases analyzed : analyzeNode limits node with
    | ok made =>
      simp only [Reading.result, analyzed] at result
      cases result
      rfl
    | error cause =>
      simp only [Reading.result, analyzed] at result
      cases result

end

structure ReadFrom (limits : Limits) (text : List Char) (expr : Expr) : Prop where
  proper : expr.Proper
  spelled : ∀ token ∈ expr.node.leaves, SpelledIn text token
  within : expr.levels ≤ limits.analysis

namespace ReadFrom

variable {limits : Limits} {text : List Char} {expr : Expr}

theorem wellFormed (origin : ReadFrom limits text expr) : expr.WellFormed :=
  expr.wellFormed_of_readable origin.proper (expr.node.readable_of_leaves origin.spelled)

theorem isInline_of_mem (origin : ReadFrom limits text expr) {c : Char}
    (member : c ∈ expr.spelling) : IsInline c ∨ (c = '\r' ∧ c ∈ text) := by
  rw [← expr.spelling_node origin.proper] at member
  rcases expr.node.leaf_of_mem_spelling member with outside | ⟨token, leaf, inside⟩
  · exact .inl (isInline_of_all (by decide) outside)
  · exact (origin.spelled token leaf).isInline_of_mem inside

end ReadFrom

section

variable {σ : Type} [CharSource σ] {kind : LexerKind} {source : σ} {limits : Limits}

theorem readFrom_of_mem_results {expr : Expr}
    (yielded : .ok expr ∈ (read kind source).results limits) :
    ReadFrom limits (CharSource.drain source) expr := by
  obtain ⟨node, member, analyzed⟩ := exists_node_of_mem_results yielded
  obtain ⟨same, proper⟩ := written_of_analyzeWithin node analyzed
  constructor
  · exact proper
  · rw [← same, node.leaves_normal]
    exact spelledIn_of_mem_forms member
  · exact admits_of_analyzeWithin node analyzed limits.analysis rfl

/-- Every expression that a reading yields is well-formed, and printing it finds nothing in it that
has no source text. -/
theorem wellFormed_of_mem_results {expr : Expr}
    (yielded : .ok expr ∈ (read kind source).results limits) :
    expr.WellFormed ∧ (Value.ofExpr expr).source? limits = .ok (expr.source? limits) :=
  ⟨(readFrom_of_mem_results yielded).wellFormed, Value.source?_ofExpr expr limits⟩

end

def mixedText : List Char := "(quote a 007) ) [begin #\\( \"b)\"] (foo) (quote (x . y))".toList

theorem wellFormed_mixedText :
    ∃ expr, .ok expr ∈ (read .pattern mixedText).results .standard ∧ expr.WellFormed ∧
      (Value.ofExpr expr).source? .standard = .ok (some "(begin #\\( \"b)\")") := by
  have printed : ((read .pattern mixedText).results .standard).filterMap
      (fun result => result.toOption.bind (·.source? .standard)) =
        ["(quote (a 7))", "(begin #\\( \"b)\")", "(quote (x . y))"] := by
    decide +kernel
  have member : "(begin #\\( \"b)\")" ∈ ((read .pattern mixedText).results .standard).filterMap
      (fun result => result.toOption.bind (·.source? .standard)) := by
    rw [printed]
    simp
  obtain ⟨result, yielded, source⟩ := List.mem_filterMap.1 member
  cases result with
  | error cause => cases source
  | ok expr =>
    obtain ⟨formed, same⟩ := wellFormed_of_mem_results yielded
    exact ⟨expr, yielded, formed, same.trans (congrArg Except.ok source)⟩

end SchemeReader
