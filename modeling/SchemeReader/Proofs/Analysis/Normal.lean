import SchemeReader.Proofs.Analysis.Derivation

set_option autoImplicit false

namespace SchemeReader

mutual

-- The clauses of `cond` are no forms, but their parts are.
def Tree.normal : Node → Node
  | .list (.symbol name :: operands) =>
    match Keyword.ofName? name with
    | some .quote => Keyword.quote.form [quotedNode operands]
    | some .cond => Keyword.cond.form (Tree.normalClauses operands)
    | some keyword => keyword.form (Tree.allNormal operands)
    | none => .list (.symbol name :: operands)
  | node => node

def Tree.allNormal : List Node → List Node
  | [] => []
  | node :: rest => node.normal :: Tree.allNormal rest

def Tree.normalClauses : List Node → List Node
  | [] => []
  | clause :: rest => clause.normalClause :: Tree.normalClauses rest

def Tree.normalClause : Node → Node
  | .list parts => .list (Tree.allNormal parts)
  | clause => clause

end

theorem Tree.normal_form (keyword : Keyword) (operands : List Node) :
    (keyword.form operands).normal = keyword.form
      (match keyword with
      | .quote => [quotedNode operands]
      | .cond => Tree.normalClauses operands
      | _ => Tree.allNormal operands) := by
  rw [Keyword.form, Tree.normal, Keyword.ofName?_name]
  cases keyword <;> rfl

theorem Assembles.node_eq {keyword : Keyword} {operands : List Expr} {expr : Expr}
    (assembles : Assembles keyword operands expr) :
    expr.node = keyword.form (Expr.nodes operands) := by
  cases assembles <;> rfl

theorem Assembles.proper {keyword : Keyword} {operands : List Expr} {expr : Expr}
    (assembles : Assembles keyword operands expr) (all : Expr.AllProper operands) :
    expr.Proper := by
  cases assembles with
  | time => exact all.1
  | ifElse => exact ⟨all.1, all.2.1, all.2.2.1⟩
  | and | or => exact all
  | begin nonempty => exact ⟨nonempty, all⟩
  | unlessThen => exact ⟨all.1, all.2.1⟩

def Written (node : Node) (expr : Expr) : Prop := node.normal = expr.node ∧ expr.Proper

def AllWritten (nodes : List Node) (exprs : List Expr) : Prop :=
  Tree.allNormal nodes = Expr.nodes exprs ∧ Expr.AllProper exprs

def ClausesWritten (clauses : List Node) (made : List Clause) (otherwise : Expr) : Prop :=
  Tree.normalClauses clauses = Clause.nodes made ++ [.list [.symbol "else", otherwise.node]] ∧
    Clause.AllProper made ∧ otherwise.Proper

mutual

theorem Analyzed.written {room : Room} {node : Node} {expr : Expr}
    (analyzed : Analyzed room node expr) : Written node expr := by
  match analyzed with
  | .literal _ _ | .variable _ _ => exact ⟨rfl, trivial⟩
  | .quote _ operands =>
    obtain ⟨proper, same⟩ := Datum.proper_ofNode (quotedNode operands)
    exact ⟨by rw [Tree.normal_form, Expr.node, same], proper⟩
  | .cond _ parts =>
    obtain ⟨same, proper, properLast⟩ := parts.written
    exact ⟨by rw [Tree.normal_form, Expr.node, ← same], proper, properLast⟩
  | .operands _ all assembles =>
    obtain ⟨same, proper⟩ := all.written
    refine ⟨?_, assembles.proper proper⟩
    rw [Tree.normal_form, assembles.node_eq, ← same]
    cases assembles <;> rfl

theorem AllAnalyzed.written {room : Room} {nodes : List Node} {exprs : List Expr}
    (all : AllAnalyzed room nodes exprs) : AllWritten nodes exprs := by
  match all with
  | .nil _ => exact ⟨rfl, trivial⟩
  | .cons first later =>
    obtain ⟨same, proper⟩ := first.written
    obtain ⟨sameRest, properRest⟩ := later.written
    exact ⟨by rw [Tree.allNormal, same, sameRest, Expr.nodes], proper, properRest⟩

theorem ClausesAnalyzed.written {room : Room} {clauses : List Node} {made : List Clause}
    {otherwise : Expr} (parts : ClausesAnalyzed room clauses made otherwise) :
    ClausesWritten clauses made otherwise := by
  match parts with
  | .last result =>
    obtain ⟨same, proper⟩ := result.written
    refine ⟨?_, trivial, proper⟩
    rw [Tree.normalClauses, Tree.normalClause, Tree.allNormal, Tree.allNormal, same]
    rfl
  | .cons first later =>
    obtain ⟨same, proper⟩ := first.written
    obtain ⟨sameRest, properRest, properLast⟩ := later.written
    exact ⟨by rw [Tree.normalClauses, same, sameRest]; rfl, ⟨proper, properRest⟩, properLast⟩

theorem ClauseAnalyzed.written {room : Room} {clause : Node} {made : Clause}
    (analyzed : ClauseAnalyzed room clause made) :
    clause.normalClause = made.node ∧ made.Proper := by
  match analyzed with
  | .bare tested =>
    obtain ⟨same, proper⟩ := tested.written
    refine ⟨?_, proper⟩
    rw [Tree.normalClause, Tree.allNormal, same]
    rfl
  | .simple tested result =>
    obtain ⟨same, proper⟩ := tested.written
    obtain ⟨samePart, properPart⟩ := result.written
    refine ⟨?_, proper, properPart⟩
    rw [Tree.normalClause, Tree.allNormal, Tree.allNormal, same, samePart]
    rfl
  | .binding tested result =>
    obtain ⟨same, proper⟩ := tested.written
    obtain ⟨samePart, properPart⟩ := result.written
    refine ⟨?_, proper, properPart⟩
    rw [Tree.normalClause, Tree.allNormal, Tree.allNormal, Tree.allNormal, same, samePart]
    rfl

end

theorem written_of_analyzeWithin (node : Node) {room : Room} {expr : Expr}
    (accepted : analyzeWithin room node = .ok expr) : Written node expr :=
  (analyzed_of_analyzeWithin node accepted).written

theorem analyze_node_of_analyze {node : Node} {expr : Expr} (accepted : analyze node = .ok expr) :
    analyze expr.node = .ok expr :=
  expr.analyze_node (written_of_analyzeWithin node accepted).2 nofun

/-- Analysis loses the difference between a node and its normal form, and nothing else. -/
theorem analysis_keeps_normal {node other : Node} {expr expr' : Expr}
    (accepted : analyze node = .ok expr) (accepted' : analyze other = .ok expr') :
    expr.source = node.normal.source ∧ (expr = expr' ↔ node.normal = other.normal) := by
  obtain ⟨same, proper⟩ := written_of_analyzeWithin node accepted
  obtain ⟨same', _⟩ := written_of_analyzeWithin other accepted'
  rw [same, same']
  refine ⟨?_, ?_⟩
  · rw [Expr.source, Tree.source, expr.spelling_node proper]
  · constructor
    · rintro rfl
      rfl
    · intro level
      have again := analyze_node_of_analyze accepted
      rw [level, analyze_node_of_analyze accepted'] at again
      cases again
      rfl

-- The first clause is no quotation, though it looks like one.
def looseQuotes : Node :=
  Keyword.cond.form
    [.list [.symbol "quote", .symbol "x"],
      .list [Keyword.quote.form [.symbol "a", .symbol "b"]],
      .list [.symbol "else", Keyword.quote.form []]]

def quotesExpr : Expr :=
  .cond
    [.simple (.variable "quote") (.variable "x"),
      .bare (.quote (.cons (.symbol "a") (.cons (.symbol "b") .nil)))]
    (.quote .nil)

theorem analyze_looseQuotes : analyze looseQuotes = .ok quotesExpr := by
  have entered : Room.enter none = some none := rfl
  have quoted (operands : List Node) : analyzeWithin none (Keyword.quote.form operands) =
      .ok (.quote (Datum.ofNode (quotedNode operands))) := by
    rw [analyzeWithin_quote entered, quoteOperands_eq]
  rw [analyze, looseQuotes, analyzeWithin_cond entered (by simp)]
  simp only [analyzeElse, analyzeElseClause, analyzeClauses, analyzeClause, quoted]
  rfl

theorem normal_looseQuotes :
    analyze looseQuotes = .ok quotesExpr ∧ analyze quotesExpr.node = .ok quotesExpr ∧
      quotesExpr.source = looseQuotes.normal.source ∧
        (quotesExpr = quotesExpr ↔ looseQuotes.normal = quotesExpr.node.normal) := by
  have loose := analyze_looseQuotes
  have tight := analyze_node_of_analyze loose
  exact ⟨loose, tight, analysis_keeps_normal loose tight⟩

end SchemeReader
