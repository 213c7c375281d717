import SchemeReader.Proofs.Analysis.Walk

set_option autoImplicit false

namespace SchemeReader

mutual

def Tree.requote (quoted : List Node → List Node) : Node → Node
  | .list (.symbol name :: operands) =>
    match Keyword.ofName? name with
    | none => .list (.symbol name :: operands)
    | some .quote => Keyword.quote.form (quoted operands)
    | some .cond => Keyword.cond.form (Tree.requoteClauses quoted operands)
    | some keyword => keyword.form (Tree.requoteAll quoted operands)
  | node => node

def Tree.requoteAll (quoted : List Node → List Node) : List Node → List Node
  | [] => []
  | node :: rest => node.requote quoted :: Tree.requoteAll quoted rest

def Tree.requoteClauses (quoted : List Node → List Node) : List Node → List Node
  | [] => []
  | clause :: rest => clause.requoteClause quoted :: Tree.requoteClauses quoted rest

def Tree.requoteClause (quoted : List Node → List Node) : Node → Node
  | .list items => .list (Tree.requoteAll quoted items)
  | clause => clause

end

section

variable (quoted : List Node → List Node)

theorem Tree.requoteAll_eq_map (nodes : List Node) :
    Tree.requoteAll quoted nodes = nodes.map (Tree.requote quoted) := by
  induction nodes with
  | nil => rfl
  | cons node rest ih => rw [Tree.requoteAll, ih, List.map_cons]

theorem Tree.requoteClauses_eq_map (clauses : List Node) :
    Tree.requoteClauses quoted clauses = clauses.map (Tree.requoteClause quoted) := by
  induction clauses with
  | nil => rfl
  | cons clause rest ih => rw [Tree.requoteClauses, ih, List.map_cons]

theorem Tree.requoteClause_list (items : List Node) :
    (Tree.list items).requoteClause quoted = .list (items.map (Tree.requote quoted)) := by
  rw [Tree.requoteClause, Tree.requoteAll_eq_map]

theorem Tree.requote_form (keyword : Keyword) (operands : List Node) :
    (keyword.form operands).requote quoted = keyword.form
      (match keyword with
      | .quote => quoted operands
      | .cond => operands.map (Tree.requoteClause quoted)
      | _ => operands.map (Tree.requote quoted)) := by
  rw [Keyword.form, Tree.requote, Keyword.ofName?_name, ← Tree.requoteAll_eq_map,
    ← Tree.requoteClauses_eq_map]
  cases keyword <;> rfl

theorem Tree.exists_requote_list (items : List Node) :
    ∃ others, (Tree.list items).requote quoted = .list others := by
  unfold Tree.requote
  split
  · split <;> exact ⟨_, rfl⟩
  · exact ⟨_, rfl⟩

variable (room : Room)

theorem firstStop_cons_congr (step : Step Empty) {steps others : List (Step Empty)}
    (same : firstStop room steps = firstStop room others) :
    firstStop room (step :: steps) = firstStop room (step :: others) := by
  simp only [firstStop, List.findSome?_cons] at same ⊢
  rw [same]

theorem firstStop_requote_form {level : Nat} {keyword : Keyword} {operands : List Node}
    (all : firstStop room (walkAll (level + 1) (operands.map (Tree.requote quoted))) =
      firstStop room (walkAll (level + 1) operands))
    (last : firstStop room (walkElse (level + 1) (operands.map (Tree.requoteClause quoted))) =
      firstStop room (walkElse (level + 1) operands))
    (earlier : firstStop room (walkClauses (level + 1) (operands.map (Tree.requoteClause quoted))) =
      firstStop room (walkClauses (level + 1) operands)) :
    firstStop room (walk level ((keyword.form operands).requote quoted)) =
      firstStop room (walk level (keyword.form operands)) := by
  rw [Tree.requote_form, walk_form, walk_form]
  apply firstStop_cons_congr
  cases keyword with
  | quote =>
    -- No step of the walk depends on what is quoted.
    simp only [quoteOperands_eq]
    rfl
  | cond =>
    simp only [List.length_map]
    apply firstStop_cons_congr
    split
    · rw [firstStop_append, firstStop_append, last, earlier]
    · rfl
  | time | ifElse | and | or | begin | unlessThen =>
    simp only [List.length_map]
    apply firstStop_cons_congr
    split
    · exact all
    · rfl

mutual

theorem firstStop_requote (level : Nat) (node : Node) :
    firstStop room (walk level (node.requote quoted)) = firstStop room (walk level node) := by
  match node with
  | .literal _ | .symbol _ | .list [] => rfl
  | .list (.symbol name :: operands) =>
    cases found : Keyword.ofName? name with
    | none => rw [Tree.requote, found]
    | some keyword =>
      obtain rfl := Keyword.name_of_ofName? found
      exact firstStop_requote_form quoted room (firstStop_requoteAll (level + 1) operands)
        (firstStop_requoteElse (level + 1) operands)
        (firstStop_requoteClauses (level + 1) operands)
  | .list (.literal _ :: _) | .list (.list _ :: _) => rfl
  | .list (.foreign value :: _) | .foreign value => exact nomatch value

theorem firstStop_requoteAll (level : Nat) (nodes : List Node) :
    firstStop room (walkAll level (nodes.map (Tree.requote quoted))) =
      firstStop room (walkAll level nodes) := by
  match nodes with
  | [] => rfl
  | node :: rest =>
    rw [List.map_cons, walkAll, walkAll, firstStop_append, firstStop_append,
      firstStop_requote level node, firstStop_requoteAll level rest]

theorem firstStop_requoteElse (level : Nat) (clauses : List Node) :
    firstStop room (walkElse level (clauses.map (Tree.requoteClause quoted))) =
      firstStop room (walkElse level clauses) := by
  match clauses with
  | [] => rfl
  | [last] => exact firstStop_requoteElseClause level last
  | _ :: next :: rest => exact firstStop_requoteElse level (next :: rest)

theorem firstStop_requoteElseClause (level : Nat) (clause : Node) :
    firstStop room (walkElseClause level (clause.requoteClause quoted)) =
      firstStop room (walkElseClause level clause) := by
  match clause with
  | .list [.symbol name, body] =>
    have same : (Tree.list [.symbol name, body]).requoteClause quoted =
        .list [.symbol name, body.requote quoted] := rfl
    rw [same, walkElseClause, walkElseClause]
    split
    · exact firstStop_requote level body
    · rfl
  | .list [.list items, _] =>
    obtain ⟨others, same⟩ := Tree.exists_requote_list quoted items
    rw [Tree.requoteClause_list, List.map_cons, same]
    rfl
  | .list [_] | .list (_ :: _ :: _ :: _) =>
    rw [Tree.requoteClause_list, walkElseClause, walkElseClause] <;> simp
  | .list [.literal _, _] => rfl
  | .list [] | .symbol _ | .literal _ => rfl
  | .foreign value | .list [.foreign value, _] => exact nomatch value

theorem firstStop_requoteClauses (level : Nat) (clauses : List Node) :
    firstStop room (walkClauses level (clauses.map (Tree.requoteClause quoted))) =
      firstStop room (walkClauses level clauses) := by
  match clauses with
  | [] | [_] => rfl
  | clause :: next :: rest =>
    have later := firstStop_requoteClauses level (next :: rest)
    rw [List.map_cons] at later
    rw [List.map_cons, List.map_cons, walkClauses, walkClauses, firstStop_append, firstStop_append,
      firstStop_requoteClause level clause, later]

theorem firstStop_requoteClause (level : Nat) (clause : Node) :
    firstStop room (walkClause level (clause.requoteClause quoted)) =
      firstStop room (walkClause level clause) := by
  match clause with
  | .list [test] => exact firstStop_requote level test
  | .list [test, consequent] =>
    have same : (Tree.list [test, consequent]).requoteClause quoted =
        .list [test.requote quoted, consequent.requote quoted] := rfl
    rw [same, walkClause, walkClause, firstStop_append, firstStop_append,
      firstStop_requote level test, firstStop_requote level consequent]
  | .list [test, .symbol arrow, receiver] =>
    have same : (Tree.list [test, .symbol arrow, receiver]).requoteClause quoted =
        .list [test.requote quoted, .symbol arrow, receiver.requote quoted] := rfl
    rw [same, walkClause, walkClause]
    split
    · rw [firstStop_append, firstStop_append, firstStop_requote level test,
        firstStop_requote level receiver]
    · rfl
  | .list [_, .list items, _] =>
    obtain ⟨others, same⟩ := Tree.exists_requote_list quoted items
    rw [Tree.requoteClause_list, List.map_cons, List.map_cons, same]
    rfl
  | .list [_, .literal _, _] => rfl
  | .list (_ :: _ :: _ :: _ :: _) =>
    rw [Tree.requoteClause_list]
    simp [walkClause]
  | .list [] | .symbol _ | .literal _ => rfl
  | .foreign value | .list [_, .foreign value, _] => exact nomatch value

end

end

end SchemeReader
