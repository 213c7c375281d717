import SchemeReader.Proofs.Analysis.Form

set_option autoImplicit false

namespace SchemeReader

mutual

inductive Analyzed : Room → Node → Expr → Prop
  | literal {room inner : Room} (entered : room.enter = some inner) (value : Literal) :
      Analyzed room (.literal value) (.literal value)
  | variable {room inner : Room} (entered : room.enter = some inner) (name : String) :
      Analyzed room (.symbol name) (.variable name)
  | quote {room inner : Room} (entered : room.enter = some inner) (operands : List Node) :
      Analyzed room (Keyword.quote.form operands)
        (.quote (Datum.ofNode (quotedNode operands)))
  | cond {room inner : Room} (entered : room.enter = some inner) {operands : List Node}
      {clauses : List Clause} {otherwise : Expr}
      (parts : ClausesAnalyzed inner operands clauses otherwise) :
      Analyzed room (Keyword.cond.form operands) (.cond clauses otherwise)
  | operands {room inner : Room} (entered : room.enter = some inner) {keyword : Keyword}
      {operands : List Node} {exprs : List Expr} {expr : Expr}
      (all : AllAnalyzed inner operands exprs) (assembles : Assembles keyword exprs expr) :
      Analyzed room (keyword.form operands) expr

inductive AllAnalyzed : Room → List Node → List Expr → Prop
  | nil (room : Room) : AllAnalyzed room [] []
  | cons {room : Room} {node : Node} {nodes : List Node} {expr : Expr} {exprs : List Expr}
      (first : Analyzed room node expr) (later : AllAnalyzed room nodes exprs) :
      AllAnalyzed room (node :: nodes) (expr :: exprs)

inductive ClausesAnalyzed : Room → List Node → List Clause → Expr → Prop
  | last {room : Room} {body : Node} {otherwise : Expr} (result : Analyzed room body otherwise) :
      ClausesAnalyzed room [.list [.symbol "else", body]] [] otherwise
  | cons {room : Room} {clause : Node} {clauses : List Node} {made : Clause} {others : List Clause}
      {otherwise : Expr} (first : ClauseAnalyzed room clause made)
      (later : ClausesAnalyzed room clauses others otherwise) :
      ClausesAnalyzed room (clause :: clauses) (made :: others) otherwise

inductive ClauseAnalyzed : Room → Node → Clause → Prop
  | bare {room : Room} {test : Node} {first : Expr} (tested : Analyzed room test first) :
      ClauseAnalyzed room (.list [test]) (.bare first)
  | simple {room : Room} {test consequent : Node} {first second : Expr}
      (tested : Analyzed room test first) (result : Analyzed room consequent second) :
      ClauseAnalyzed room (.list [test, consequent]) (.simple first second)
  | binding {room : Room} {test receiver : Node} {first second : Expr}
      (tested : Analyzed room test first) (result : Analyzed room receiver second) :
      ClauseAnalyzed room (.list [test, .symbol "=>", receiver]) (.binding first second)

end

theorem analyzed_form {room : Room} {name : String} {operands : List Node} {expr : Expr}
    (all : ∀ inner exprs, analyzeAll inner operands = .ok exprs → AllAnalyzed inner operands exprs)
    (clauses : ∀ inner made otherwise, analyzeElse inner operands = .ok otherwise →
      analyzeClauses inner operands = .ok made → ClausesAnalyzed inner operands made otherwise)
    (accepted : analyzeWithin room (.list (.symbol name :: operands)) = .ok expr) :
    Analyzed room (.list (.symbol name :: operands)) expr := by
  obtain ⟨inner, keyword, entered, rfl, accepts⟩ := accepts_of_analyzeWithin accepted
  cases accepts with
  | quote => exact .quote entered operands
  | cond last earlier => exact .cond entered (clauses _ _ _ last earlier)
  | operands results assembles => exact .operands entered (all _ _ results) assembles

mutual

theorem analyzed_of_analyzeWithin (node : Node) {room : Room} {expr : Expr}
    (accepted : analyzeWithin room node = .ok expr) : Analyzed room node expr := by
  match node with
  | .list (.symbol name :: operands) =>
    exact analyzed_form (fun _ _ => analyzed_of_analyzeAll operands)
      (fun _ _ _ => analyzed_of_analyzeClauses operands) accepted
  | .literal value =>
    rw [analyzeWithin.eq_def] at accepted
    split at accepted
    · cases accepted
    next entered =>
      cases accepted
      exact .literal entered value
  | .symbol name =>
    rw [analyzeWithin.eq_def] at accepted
    split at accepted
    · cases accepted
    next entered =>
      cases accepted
      exact .variable entered name
  | .list [] | .list (.literal _ :: _) | .list (.list _ :: _) =>
    rw [analyzeWithin.eq_def] at accepted
    split at accepted <;> cases accepted
  | .foreign value | .list (.foreign value :: _) => exact nomatch value

theorem analyzed_of_analyzeAll (nodes : List Node) {room : Room} {exprs : List Expr}
    (accepted : analyzeAll room nodes = .ok exprs) : AllAnalyzed room nodes exprs := by
  match nodes with
  | [] =>
    cases accepted
    exact .nil room
  | node :: rest =>
    obtain ⟨expr, first, accepted⟩ := ok_of_bind accepted
    obtain ⟨others, later, accepted⟩ := ok_of_bind accepted
    cases accepted
    exact .cons (analyzed_of_analyzeWithin node first) (analyzed_of_analyzeAll rest later)

theorem analyzed_of_analyzeClauses (clauses : List Node) {room : Room} {made : List Clause}
    {otherwise : Expr} (last : analyzeElse room clauses = .ok otherwise)
    (earlier : analyzeClauses room clauses = .ok made) :
    ClausesAnalyzed room clauses made otherwise := by
  match clauses with
  | [] => cases last
  | [clause] =>
    cases earlier
    exact analyzed_of_analyzeElseClause clause last
  | clause :: next :: rest =>
    obtain ⟨first, firstMade, earlier⟩ := ok_of_bind earlier
    obtain ⟨others, later, earlier⟩ := ok_of_bind earlier
    cases earlier
    exact .cons (analyzed_of_analyzeClause clause firstMade)
      (analyzed_of_analyzeClauses (next :: rest) last later)

theorem analyzed_of_analyzeElseClause (clause : Node) {room : Room} {otherwise : Expr}
    (accepted : analyzeElseClause room clause = .ok otherwise) :
    ClausesAnalyzed room [clause] [] otherwise := by
  match clause with
  | .list [.symbol name, body] =>
    rw [analyzeElseClause] at accepted
    by_cases isElse : name = "else"
    · rw [if_pos isElse] at accepted
      rw [isElse]
      exact .last (analyzed_of_analyzeWithin body accepted)
    · rw [if_neg isElse] at accepted
      cases accepted
  | .list [_] | .list (_ :: _ :: _ :: _) =>
    rw [analyzeElseClause] at accepted
    · cases accepted
    · simp
  | .list [.literal _, _] | .list [.list _, _] => cases accepted
  | .list [] | .symbol _ | .literal _ => cases accepted
  | .foreign value | .list [.foreign value, _] => exact nomatch value

theorem analyzed_of_analyzeClause (clause : Node) {room : Room} {made : Clause}
    (accepted : analyzeClause room clause = .ok made) : ClauseAnalyzed room clause made := by
  match clause with
  | .list [test] =>
    obtain ⟨expr, first, accepted⟩ := ok_of_bind accepted
    cases accepted
    exact .bare (analyzed_of_analyzeWithin test first)
  | .list [test, consequent] =>
    obtain ⟨expr, first, accepted⟩ := ok_of_bind accepted
    obtain ⟨part, second, accepted⟩ := ok_of_bind accepted
    cases accepted
    exact .simple (analyzed_of_analyzeWithin test first)
      (analyzed_of_analyzeWithin consequent second)
  | .list [test, .symbol arrow, receiver] =>
    rw [analyzeClause] at accepted
    by_cases isArrow : arrow = "=>"
    · rw [if_pos isArrow] at accepted
      obtain ⟨expr, first, accepted⟩ := ok_of_bind accepted
      obtain ⟨part, second, accepted⟩ := ok_of_bind accepted
      cases accepted
      rw [isArrow]
      exact .binding (analyzed_of_analyzeWithin test first)
        (analyzed_of_analyzeWithin receiver second)
    · rw [if_neg isArrow] at accepted
      cases accepted
  | .list [_, .literal _, _] | .list [_, .list _, _] => cases accepted
  | .list [] | .list (_ :: _ :: _ :: _ :: _) => cases accepted
  | .symbol _ | .literal _ => cases accepted
  | .foreign value | .list [_, .foreign value, _] => exact nomatch value

end

end SchemeReader
