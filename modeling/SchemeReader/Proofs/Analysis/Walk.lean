import SchemeReader.Analysis.Walk
import SchemeReader.Proofs.Analysis.Form

set_option autoImplicit false

namespace SchemeReader

section

variable {ε β γ : Type}

def failure? : Except ε β → Option ε
  | .error cause => some cause
  | .ok _ => none

theorem failure?_eq_some_iff {result : Except ε β} {cause : ε} :
    failure? result = some cause ↔ result = .error cause := by
  cases result <;> simp [failure?]

theorem failure?_eq_none_iff {result : Except ε β} :
    failure? result = none ↔ ∃ value, result = .ok value := by
  cases result <;> simp [failure?]

theorem failure?_bind {first : Except ε β} {next : β → Except ε γ} {later : Option ε}
    (behind : ∀ value, failure? (next value) = later) :
    failure? (first >>= next) = (failure? first).or later := by
  cases first with
  | error cause => rfl
  | ok value => exact behind value

theorem failure?_map (f : β → γ) (first : Except ε β) :
    failure? (first >>= fun value => return f value) = failure? first := by
  cases first <;> rfl

theorem failure?_pair (f : β → β → γ) (first second : Except ε β) :
    failure? (do return f (← first) (← second)) = (failure? first).or (failure? second) :=
  failure?_bind fun value => failure?_map (f value) second

end

def Step.stop? {α : Type} (room : Room) : Step α → Option (Rejection α)
  | .enter level => if room.any (· < level) then some (.scheme .nestingTooDeep) else none
  | .dispatch .. => none
  | .reject rejection => some rejection

def firstStop {α : Type} (room : Room) (steps : List (Step α)) : Option (Rejection α) :=
  steps.findSome? (Step.stop? room)

def Room.under (room : Room) (level : Nat) : Room := room.map (· - level)

theorem Room.enter_under (room : Room) (level : Nat) :
    (room.under level).enter =
      if room.any (· < level + 1) then none else some (room.under (level + 1)) := by
  cases room with
  | none => rfl
  | some bound =>
    simp only [Room.under, Option.map_some, Option.any_some, decide_eq_true_eq]
    by_cases full : bound < level + 1
    · have nothing : bound - level = 0 := by omega
      rw [if_pos full, nothing]
      rfl
    · have left : bound - level = (bound - (level + 1)) + 1 := by omega
      rw [if_neg full, left]
      rfl

theorem failure?_assembled {keyword : Keyword} {operands : Except (Rejection Empty) (List Expr)}
    {result : Except (Rejection Empty) Expr} (assembled : Assembled keyword operands result) :
    failure? result = failure? operands := by
  cases operands with
  | error rejection =>
    have same : result = .error rejection := assembled
    rw [same]
    rfl
  | ok exprs =>
    obtain ⟨expr, same, _⟩ := assembled
    rw [same]
    rfl

section

variable (room : Room)

theorem firstStop_append (steps later : List (Step Empty)) :
    firstStop room (steps ++ later) = (firstStop room steps).or (firstStop room later) :=
  List.findSome?_append

variable {room}

theorem firstStop_enter {level : Nat} (fits : ¬ room.any (· < level) = true)
    (steps : List (Step Empty)) :
    firstStop room (.enter level :: steps) = firstStop room steps := by
  rw [firstStop, List.findSome?_cons, Step.stop?, if_neg fits]
  rfl

theorem firstStop_full {level : Nat} (full : room.any (· < level) = true)
    (steps : List (Step Empty)) :
    firstStop room (.enter level :: steps) = some (.scheme .nestingTooDeep) := by
  rw [firstStop, List.findSome?_cons, Step.stop?, if_pos full]

variable {level : Nat} {operands : List Node}

theorem walk_form (keyword : Keyword) :
    walk level (keyword.form operands) =
      .enter (level + 1) :: .dispatch keyword operands.length ::
        if keyword.arity.admits operands.length then
          match keyword with
          | .quote => Step.ofQuoted (quoteOperands operands)
          | .cond => walkElse (level + 1) operands ++ walkClauses (level + 1) operands
          | _ => walkAll (level + 1) operands
        else [.reject (.operandCount keyword operands.length)] := by
  cases keyword <;> rfl

theorem failure?_form {name : String}
    (all : failure? (analyzeAll (room.under (level + 1)) operands) =
      firstStop room (walkAll (level + 1) operands))
    (last : operands ≠ [] → failure? (analyzeElse (room.under (level + 1)) operands) =
      firstStop room (walkElse (level + 1) operands))
    (earlier : failure? (analyzeClauses (room.under (level + 1)) operands) =
      firstStop room (walkClauses (level + 1) operands))
    (fits : ¬ room.any (· < level + 1) = true) :
    failure? (analyzeWithin (room.under level) (.list (.symbol name :: operands))) =
      firstStop room (walk level (.list (.symbol name :: operands))) := by
  have entered := room.enter_under level
  rw [if_neg fits] at entered
  cases found : Keyword.ofName? name with
  | none =>
    rw [analyzeWithin_unhandled entered found, walk, found, firstStop_enter fits]
    rfl
  | some keyword =>
    obtain rfl := Keyword.name_of_ofName? found
    change failure? (analyzeWithin (room.under level) (keyword.form operands)) =
      firstStop room (walk level (keyword.form operands))
    rw [walk_form, firstStop_enter fits]
    cases counted : keyword.arity.admits operands.length with
    | false =>
      rw [analyzeWithin_miscounted entered counted]
      rfl
    | true =>
      -- Every other keyword has all of its operands analyzed.
      by_cases quoted : keyword = .quote
      · subst quoted
        rw [analyzeWithin_quote entered, quoteOperands_eq, if_pos rfl]
        rfl
      by_cases clauses : keyword = .cond
      · subst clauses
        have nonempty : operands ≠ [] := by
          rintro rfl
          cases counted
        rw [analyzeWithin_cond entered nonempty, failure?_bind fun _ => failure?_map _ _,
          last nonempty, earlier, if_pos rfl, ← firstStop_append]
        rfl
      · have assembled := analyzeWithin_operands entered counted quoted clauses
        rw [failure?_assembled assembled, all, if_pos rfl]
        cases keyword with
        | quote => exact absurd rfl quoted
        | cond => exact absurd rfl clauses
        | time | ifElse | and | or | begin | unlessThen => rfl

end

section

variable (room : Room)

mutual

theorem failure?_analyzeWithin (level : Nat) (node : Node) :
    failure? (analyzeWithin (room.under level) node) = firstStop room (walk level node) := by
  have entered := room.enter_under level
  by_cases full : room.any (· < level + 1) = true
  · rw [if_pos full] at entered
    rw [analyzeWithin.eq_def, entered, walk.eq_def, firstStop_full full]
    rfl
  · rw [if_neg full] at entered
    match node with
    | .literal value =>
      rw [analyzeWithin, entered, walk, firstStop_enter full]
      rfl
    | .symbol name =>
      rw [analyzeWithin, entered, walk, firstStop_enter full]
      rfl
    | .list [] =>
      rw [analyzeWithin, entered, walk, firstStop_enter full]
      rfl
    | .list (.symbol name :: operands) =>
      exact failure?_form (failure?_analyzeAll (level + 1) operands)
        (failure?_analyzeElse (level + 1) operands) (failure?_analyzeClauses (level + 1) operands)
        full
    | .list (.literal _ :: _) | .list (.list _ :: _) =>
      rw [analyzeWithin_application entered (by simp), walk, firstStop_enter full]
      · rfl
      · simp
      · simp
    | .list (.foreign value :: _) | .foreign value => exact nomatch value

theorem failure?_analyzeAll (level : Nat) (nodes : List Node) :
    failure? (analyzeAll (room.under level) nodes) = firstStop room (walkAll level nodes) := by
  match nodes with
  | [] => rfl
  | node :: rest =>
    rw [analyzeAll, walkAll, failure?_bind fun _ => failure?_map _ _,
      failure?_analyzeWithin level node, failure?_analyzeAll level rest, firstStop_append]

theorem failure?_analyzeElse (level : Nat) (clauses : List Node) (nonempty : clauses ≠ []) :
    failure? (analyzeElse (room.under level) clauses) =
      firstStop room (walkElse level clauses) := by
  match clauses, nonempty with
  | [last], _ => exact failure?_analyzeElseClause level last
  | _ :: next :: rest, _ =>
    exact failure?_analyzeElse level (next :: rest) (List.cons_ne_nil _ _)

theorem failure?_analyzeElseClause (level : Nat) (clause : Node) :
    failure? (analyzeElseClause (room.under level) clause) =
      firstStop room (walkElseClause level clause) := by
  match clause with
  | .list [.symbol name, body] =>
    rw [analyzeElseClause, walkElseClause]
    by_cases isElse : name = "else"
    · rw [if_pos isElse, if_pos isElse, failure?_analyzeWithin level body]
    · rw [if_neg isElse, if_neg isElse]
      rfl
  | .list [_] | .list (_ :: _ :: _ :: _) =>
    rw [analyzeElseClause, walkElseClause]
    · rfl
    · simp
    · simp
  | .list [.literal _, _] | .list [.list _, _] => rfl
  | .list [] | .symbol _ | .literal _ => rfl
  | .foreign value | .list [.foreign value, _] => exact nomatch value

theorem failure?_analyzeClauses (level : Nat) (clauses : List Node) :
    failure? (analyzeClauses (room.under level) clauses) =
      firstStop room (walkClauses level clauses) := by
  match clauses with
  | [] | [_] => rfl
  | clause :: next :: rest =>
    rw [analyzeClauses, walkClauses, failure?_bind fun _ => failure?_map _ _,
      failure?_analyzeClause level clause, failure?_analyzeClauses level (next :: rest),
      firstStop_append]

theorem failure?_analyzeClause (level : Nat) (clause : Node) :
    failure? (analyzeClause (room.under level) clause) =
      firstStop room (walkClause level clause) := by
  match clause with
  | .list [test] =>
    rw [analyzeClause, walkClause, failure?_map, failure?_analyzeWithin level test]
  | .list [test, consequent] =>
    rw [analyzeClause, walkClause, failure?_pair, failure?_analyzeWithin level test,
      failure?_analyzeWithin level consequent, firstStop_append]
  | .list [test, .symbol arrow, receiver] =>
    rw [analyzeClause, walkClause]
    by_cases isArrow : arrow = "=>"
    · rw [if_pos isArrow, if_pos isArrow, failure?_pair, failure?_analyzeWithin level test,
        failure?_analyzeWithin level receiver, firstStop_append]
    · rw [if_neg isArrow, if_neg isArrow]
      rfl
  | .list [_, .literal _, _] | .list [_, .list _, _] => rfl
  | .list [] | .list (_ :: _ :: _ :: _ :: _) => rfl
  | .symbol _ | .literal _ => rfl
  | .foreign value | .list [_, .foreign value, _] => exact nomatch value

end

theorem failure?_eq_firstStop (node : Node) :
    failure? (analyzeWithin room node) = firstStop room (walk 0 node) := by
  have same : room.under 0 = room := by cases room <;> rfl
  rw [← failure?_analyzeWithin room 0 node, same]

end

end SchemeReader
