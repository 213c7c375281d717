import SchemeReader.Proofs.Analysis.Derivation

set_option autoImplicit false

namespace SchemeReader

namespace Room

variable {room inner : Room} {levels others : Nat}

theorem admits_zero : room.Admits 0 := fun _ _ => Nat.zero_le _

theorem Admits.max (first : room.Admits levels) (second : room.Admits others) :
    room.Admits (max levels others) :=
  fun bound known => Nat.max_le.2 ⟨first bound known, second bound known⟩

theorem Admits.deepen (entered : room.enter = some inner) (fits : inner.Admits levels) :
    room.Admits (levels + 1) := by
  intro bound known
  obtain rfl := Option.mem_def.1 known
  cases bound with
  | zero => cases entered
  | succ bound =>
    cases entered
    have within := fits bound rfl
    omega

end Room

theorem Assembles.levels_eq {keyword : Keyword} {operands : List Expr} {expr : Expr}
    (assembles : Assembles keyword operands expr) :
    expr.levels = Expr.mostLevels operands + 1 := by
  cases assembles <;> simp [Expr.levels, Expr.mostLevels]

mutual

theorem Analyzed.admits {room : Room} {node : Node} {expr : Expr}
    (analyzed : Analyzed room node expr) : room.Admits expr.levels := by
  match analyzed with
  | .literal entered _ | .variable entered _ | .quote entered _ =>
    exact .deepen entered Room.admits_zero
  | .cond entered parts => exact .deepen entered parts.admits
  | .operands entered all assembles =>
    rw [assembles.levels_eq]
    exact .deepen entered all.admits

theorem AllAnalyzed.admits {room : Room} {nodes : List Node} {exprs : List Expr}
    (all : AllAnalyzed room nodes exprs) : room.Admits (Expr.mostLevels exprs) := by
  match all with
  | .nil _ => exact Room.admits_zero
  | .cons first later => exact first.admits.max later.admits

theorem ClausesAnalyzed.admits {room : Room} {clauses : List Node} {made : List Clause}
    {otherwise : Expr} (parts : ClausesAnalyzed room clauses made otherwise) :
    room.Admits (max (Clause.mostLevels made) otherwise.levels) := by
  match parts with
  | .last result => exact Room.admits_zero.max result.admits
  | .cons first later =>
    rw [Clause.mostLevels, Nat.max_assoc]
    exact first.admits.max later.admits

theorem ClauseAnalyzed.admits {room : Room} {clause : Node} {made : Clause}
    (analyzed : ClauseAnalyzed room clause made) : room.Admits made.levels := by
  match analyzed with
  | .bare tested => exact tested.admits
  | .simple tested result | .binding tested result => exact tested.admits.max result.admits

end

theorem admits_of_analyzeWithin (node : Node) {room : Room} {expr : Expr}
    (accepted : analyzeWithin room node = .ok expr) : room.Admits expr.levels :=
  (analyzed_of_analyzeWithin node accepted).admits

end SchemeReader
