import SchemeReader.Analysis
import SchemeReader.Proofs.Expr

set_option autoImplicit false

namespace SchemeReader

mutual

def Expr.levels : Expr → Nat
  | .literal _ | .variable _ | .quote _ => 1
  | .time body => body.levels + 1
  | .ifElse test consequent alternative =>
    max test.levels (max consequent.levels alternative.levels) + 1
  | .and operands | .or operands | .begin operands => Expr.mostLevels operands + 1
  | .unlessThen test body => max test.levels body.levels + 1
  | .cond clauses otherwise => max (Clause.mostLevels clauses) otherwise.levels + 1

def Expr.mostLevels : List Expr → Nat
  | [] => 0
  | expr :: rest => max expr.levels (Expr.mostLevels rest)

def Clause.levels : Clause → Nat
  | .simple test part | .binding test part => max test.levels part.levels
  | .bare test => test.levels

def Clause.mostLevels : List Clause → Nat
  | [] => 0
  | clause :: rest => max clause.levels (Clause.mostLevels rest)

end

def Room.Admits (room : Room) (levels : Nat) : Prop := ∀ bound ∈ room, levels ≤ bound

namespace Room

theorem Admits.of_max {room : Room} {levels others : Nat}
    (admits : room.Admits (max levels others)) :
    room.Admits levels ∧ room.Admits others :=
  ⟨fun bound known => Nat.le_trans (Nat.le_max_left _ _) (admits bound known),
    fun bound known => Nat.le_trans (Nat.le_max_right _ _) (admits bound known)⟩

theorem Admits.enter {room : Room} {levels : Nat} (admits : room.Admits (levels + 1)) :
    ∃ inner, room.enter = some inner ∧ inner.Admits levels := by
  match room with
  | none => exact ⟨none, rfl, nofun⟩
  | some 0 => exact absurd (admits 0 rfl) (by omega)
  | some (bound + 1) =>
    have fits := admits (bound + 1) rfl
    refine ⟨some bound, rfl, ?_⟩
    intro known same
    cases same
    omega

end Room

theorem analyzeElse_append (room : Room) (clauses : List Node) (last : Node) :
    analyzeElse room (clauses ++ [last]) = analyzeElseClause room last := by
  induction clauses with
  | nil => rfl
  | cons clause rest ih =>
    cases rest with
    | nil => rfl
    | cons next rest => exact ih

theorem analyzeClauses_cons (room : Room) (clause : Node) {others : List Node}
    (nonempty : others ≠ []) :
    analyzeClauses room (clause :: others) =
      return (← analyzeClause room clause) :: (← analyzeClauses room others) := by
  cases others with
  | nil => exact absurd rfl nonempty
  | cons next rest => rfl

theorem analyzeWithin_cond {room inner : Room} (entered : room.enter = some inner)
    {clauses : List Node} (nonempty : clauses ≠ []) :
    analyzeWithin room (Keyword.cond.form clauses) = (do
      let otherwise ← analyzeElse inner clauses
      return .cond (← analyzeClauses inner clauses) otherwise) := by
  cases clauses with
  | nil => exact absurd rfl nonempty
  | cons clause rest => simp only [Keyword.form, analyzeWithin, entered, Keyword.ofName?_name]

mutual

theorem Expr.analyze_node (expr : Expr) (proper : expr.Proper) {room : Room}
    (admits : room.Admits expr.levels) : analyzeWithin room expr.node = .ok expr := by
  match expr with
  | .literal value =>
    obtain ⟨inner, entered, _⟩ := admits.enter
    simp only [Expr.node, analyzeWithin, entered]
  | .variable name =>
    obtain ⟨inner, entered, _⟩ := admits.enter
    simp only [Expr.node, analyzeWithin, entered]
  | .quote datum =>
    obtain ⟨inner, entered, _⟩ := admits.enter
    have quoted := datum.ofTree_node proper
    simp only [Expr.node, Keyword.form, analyzeWithin, entered, Keyword.ofName?_name, quoteOperands,
      quoted]
  | .time body =>
    obtain ⟨inner, entered, fits⟩ := admits.enter
    have result := body.analyze_node proper fits
    simp only [Expr.node, Keyword.form, analyzeWithin, entered, Keyword.ofName?_name, result]
    rfl
  | .ifElse test consequent alternative =>
    obtain ⟨properTest, properConsequent, properAlternative⟩ := proper
    obtain ⟨inner, entered, fits⟩ := admits.enter
    obtain ⟨fitsTest, fitsBranches⟩ := fits.of_max
    obtain ⟨fitsConsequent, fitsAlternative⟩ := fitsBranches.of_max
    have first := test.analyze_node properTest fitsTest
    have second := consequent.analyze_node properConsequent fitsConsequent
    have third := alternative.analyze_node properAlternative fitsAlternative
    simp only [Expr.node, Keyword.form, analyzeWithin, entered, Keyword.ofName?_name, first, second,
      third]
    rfl
  | .and operands =>
    obtain ⟨inner, entered, fits⟩ := admits.enter
    have results := Expr.analyzeAll_nodes operands proper fits
    simp only [Expr.node, Keyword.form, analyzeWithin, entered, Keyword.ofName?_name, results]
    rfl
  | .or operands =>
    obtain ⟨inner, entered, fits⟩ := admits.enter
    have results := Expr.analyzeAll_nodes operands proper fits
    simp only [Expr.node, Keyword.form, analyzeWithin, entered, Keyword.ofName?_name, results]
    rfl
  | .begin body =>
    obtain ⟨inner, entered, fits⟩ := admits.enter
    have results := Expr.analyzeAll_nodes body proper.2 fits
    obtain ⟨first, others, rfl⟩ := List.exists_cons_of_ne_nil proper.1
    simp only [Expr.nodes] at results
    simp only [Expr.node, Expr.nodes, Keyword.form, analyzeWithin, entered, Keyword.ofName?_name,
      results]
    rfl
  | .unlessThen test body =>
    obtain ⟨inner, entered, fits⟩ := admits.enter
    obtain ⟨fitsTest, fitsBody⟩ := fits.of_max
    have first := test.analyze_node proper.1 fitsTest
    have second := body.analyze_node proper.2 fitsBody
    simp only [Expr.node, Keyword.form, analyzeWithin, entered, Keyword.ofName?_name, first, second]
    rfl
  | .cond clauses otherwise =>
    obtain ⟨inner, entered, fits⟩ := admits.enter
    obtain ⟨fitsClauses, fitsLast⟩ := fits.of_max
    have nonempty : Clause.nodes clauses ++ [.list [.symbol "else", otherwise.node]] ≠ [] := by
      simp
    have body := otherwise.analyze_node proper.2 fitsLast
    have results := Clause.analyzeClauses_nodes clauses (.list [.symbol "else", otherwise.node])
      proper.1 fitsClauses
    rw [Expr.node, analyzeWithin_cond entered nonempty, analyzeElse_append, analyzeElseClause,
      if_pos rfl, body, results]
    rfl

theorem Expr.analyzeAll_nodes (exprs : List Expr) (proper : Expr.AllProper exprs) {room : Room}
    (admits : room.Admits (Expr.mostLevels exprs)) :
    analyzeAll room (Expr.nodes exprs) = .ok exprs := by
  match exprs with
  | [] => rfl
  | expr :: rest =>
    obtain ⟨fitsFirst, fitsRest⟩ := admits.of_max
    have first := expr.analyze_node proper.1 fitsFirst
    have others := Expr.analyzeAll_nodes rest proper.2 fitsRest
    simp only [Expr.nodes, analyzeAll, first, others]
    rfl

theorem Clause.analyze_node (clause : Clause) (proper : clause.Proper) {room : Room}
    (admits : room.Admits clause.levels) : analyzeClause room clause.node = .ok clause := by
  match clause with
  | .simple test consequent =>
    obtain ⟨fitsTest, fitsConsequent⟩ := admits.of_max
    have first := test.analyze_node proper.1 fitsTest
    have second := consequent.analyze_node proper.2 fitsConsequent
    simp only [Clause.node, analyzeClause, first, second]
    rfl
  | .binding test receiver =>
    obtain ⟨fitsTest, fitsReceiver⟩ := admits.of_max
    have first := test.analyze_node proper.1 fitsTest
    have second := receiver.analyze_node proper.2 fitsReceiver
    simp only [Clause.node, analyzeClause, first, second]
    rfl
  | .bare test =>
    have first := test.analyze_node proper admits
    simp only [Clause.node, analyzeClause, first]
    rfl

theorem Clause.analyzeClauses_nodes (clauses : List Clause) (last : Node)
    (proper : Clause.AllProper clauses) {room : Room}
    (admits : room.Admits (Clause.mostLevels clauses)) :
    analyzeClauses room (Clause.nodes clauses ++ [last]) = .ok clauses := by
  match clauses with
  | [] => rfl
  | clause :: rest =>
    obtain ⟨fitsFirst, fitsRest⟩ := admits.of_max
    have nonempty : Clause.nodes rest ++ [last] ≠ [] := by simp
    have first := clause.analyze_node proper.1 fitsFirst
    have others := Clause.analyzeClauses_nodes rest last proper.2 fitsRest
    rw [Clause.nodes, List.cons_append, analyzeClauses_cons room _ nonempty, first, others]
    rfl

end

end SchemeReader
