import SchemeReader.Printing

set_option autoImplicit false

namespace SchemeReader.Value

theorem spelling_ofDatum (datum : Datum) :
    (ofDatum datum).spelling = .ok datum.spelling ∧
      (ofDatum datum).tailSpellings = .ok datum.tailSpellings := by
  induction datum with
  | literal _ | symbol _ | nil =>
    simp only [ofDatum, spelling, tailSpellings]
    exact ⟨rfl, rfl⟩
  | cons head tail headSpelling tailSpelling =>
    simp only [ofDatum, spelling, tailSpellings, headSpelling.1, tailSpelling.2]
    exact ⟨rfl, rfl⟩

mutual

theorem spelling_ofExpr (expr : Expr) : (ofExpr expr).spelling = .ok expr.spelling := by
  match expr with
  | .literal _ | .variable _ =>
    simp only [ofExpr, spelling]
    rfl
  | .quote datum =>
    simp only [ofExpr, spelling, (spelling_ofDatum datum).1]
    rfl
  | .time body =>
    simp only [ofExpr, spelling, spelling_ofExpr body]
    rfl
  | .ifElse test consequent alternative =>
    simp only [ofExpr, spelling, spelling_ofExpr test, spelling_ofExpr consequent,
      spelling_ofExpr alternative]
    rfl
  | .and operands | .or operands | .begin operands =>
    simp only [ofExpr, spelling, spellings_ofExprs operands]
    rfl
  | .unlessThen test body =>
    simp only [ofExpr, spelling, spelling_ofExpr test, spelling_ofExpr body]
    rfl
  | .cond clauses otherwise =>
    simp only [ofExpr, spelling, clauseSpellings_ofClauses clauses, spelling_ofExpr otherwise]
    rfl

theorem spellings_ofExprs (exprs : List Expr) :
    spellings (ofExprs exprs) = .ok (Expr.spellings exprs) := by
  match exprs with
  | [] =>
    simp only [ofExprs, spellings]
    rfl
  | expr :: rest =>
    simp only [ofExprs, spellings, spelling_ofExpr expr, spellings_ofExprs rest]
    rfl

theorem clauseSpelling_ofClause (clause : Clause) :
    (ofClause clause).clauseSpelling = .ok clause.spelling := by
  match clause with
  | .simple test part | .binding test part =>
    simp only [ofClause, clauseSpelling, spelling_ofExpr test, spelling_ofExpr part]
    rfl
  | .bare test =>
    simp only [ofClause, clauseSpelling, spelling_ofExpr test]
    rfl

theorem clauseSpellings_ofClauses (clauses : List Clause) :
    clauseSpellings (ofClauses clauses) = .ok (Clause.spellings clauses) := by
  match clauses with
  | [] =>
    simp only [ofClauses, clauseSpellings]
    rfl
  | clause :: rest =>
    simp only [ofClauses, clauseSpellings, clauseSpelling_ofClause clause,
      clauseSpellings_ofClauses rest]
    rfl

end

theorem depth_ofDatum (datum : Datum) : (ofDatum datum).depth = datum.depth := by
  induction datum with
  | literal _ | symbol _ | nil => rfl
  | cons head tail headDepth tailDepth => rw [ofDatum, depth, headDepth, tailDepth, Datum.depth]

mutual

theorem depth_ofExpr (expr : Expr) : (ofExpr expr).depth = expr.depth := by
  match expr with
  | .literal _ | .variable _ => rfl
  | .quote datum => rw [ofExpr, depth, depth_ofDatum datum, Expr.depth]
  | .time body => rw [ofExpr, depth, depth_ofExpr body, Expr.depth]
  | .ifElse test consequent alternative =>
    rw [ofExpr, depth, depth_ofExpr test, depth_ofExpr consequent, depth_ofExpr alternative,
      Expr.depth]
  | .and operands | .or operands | .begin operands =>
    rw [ofExpr, depth, depths_ofExprs operands, Expr.depth]
  | .unlessThen test body => rw [ofExpr, depth, depth_ofExpr test, depth_ofExpr body, Expr.depth]
  | .cond clauses otherwise =>
    rw [ofExpr, depth, depths_ofClauses clauses, depth_ofExpr otherwise, Expr.depth]

theorem depths_ofExprs (exprs : List Expr) : depths (ofExprs exprs) = Expr.depths exprs := by
  match exprs with
  | [] => rfl
  | expr :: rest => rw [ofExprs, depths, depth_ofExpr expr, depths_ofExprs rest, Expr.depths]

theorem depth_ofClause (clause : Clause) : (ofClause clause).depth = clause.depth := by
  match clause with
  | .simple test part | .binding test part =>
    rw [ofClause, depth, depth_ofExpr test, depth_ofExpr part, Clause.depth]
  | .bare test => rw [ofClause, depth, depth_ofExpr test, Clause.depth]

theorem depths_ofClauses (clauses : List Clause) :
    depths (ofClauses clauses) = Clause.depths clauses := by
  match clauses with
  | [] => rfl
  | clause :: rest =>
    rw [ofClauses, depths, depth_ofClause clause, depths_ofClauses rest, Clause.depths]

end

theorem source?_ofExpr (expr : Expr) (limits : Limits) :
    (ofExpr expr).source? limits = .ok (expr.source? limits) := by
  rw [source?, Expr.source?, depth_ofExpr, spelling_ofExpr]
  split <;> rfl

end SchemeReader.Value
