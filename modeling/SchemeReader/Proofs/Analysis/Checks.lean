import SchemeReader.Proofs.Analysis.Walk

set_option autoImplicit false

namespace SchemeReader

abbrev Verdict := Option SchemeError

namespace Verdict

def ofList : List Node → Verdict
  | [] => some .emptyApplication
  | .symbol name :: operands =>
    match Keyword.ofName? name with
    | none => some (.unhandledKeyword name)
    | some keyword =>
      if keyword.arity.admits operands.length then none
      else some (.arityMismatch { keyword := name, arity := keyword.arity, got := operands.length })
  | _ => some .applicationNotImplemented

def ofLastClause : Node → Verdict
  | .list [.symbol name, _] => if name = "else" then none else some (.malformedClause .lastNotElse)
  | _ => some (.malformedClause .lastNotElse)

def ofClause : Node → Verdict
  | .list [_] | .list [_, _] => none
  | .list [_, .symbol name, _] => if name = "=>" then none else some (.malformedClause .noArrow)
  | .list [_, _, _] => some (.malformedClause .noArrow)
  | .list items => some (.malformedClause (.length items.length))
  | _ => some (.malformedClause .notList)

def first (verdicts : List Verdict) : Option SchemeError := verdicts.findSome? id

theorem first_append (verdicts later : List Verdict) :
    first (verdicts ++ later) = (first verdicts).or (first later) :=
  List.findSome?_append

theorem first_eq_some_iff {verdicts : List Verdict} {error : SchemeError} :
    first verdicts = some error ↔
      ∃ passed later, verdicts = passed ++ some error :: later ∧
        ∀ verdict ∈ passed, verdict = none := by
  simp [first, List.findSome?_eq_some_iff]

theorem first_eq_none_iff {verdicts : List Verdict} :
    first verdicts = none ↔ ∀ verdict ∈ verdicts, verdict = none := by
  simp [first, List.findSome?_eq_none_iff]

end Verdict

mutual

/-- The verdicts on a node.  A list is judged before its operands and these from left to right;
quoted data and the operands behind an unknown head are not judged. -/
def Tree.verdicts : Node → List Verdict
  | .list (.symbol name :: operands) =>
    .ofList (.symbol name :: operands) ::
      match Keyword.ofName? name with
      | none | some .quote => []
      | some .cond => Tree.lastVerdicts operands ++ Tree.earlierVerdicts operands
      | some _ => Tree.allVerdicts operands
  | .list items => [.ofList items]
  | _ => []

def Tree.allVerdicts : List Node → List Verdict
  | [] => []
  | node :: rest => node.verdicts ++ Tree.allVerdicts rest

def Tree.lastVerdicts : List Node → List Verdict
  | [] => []
  | [last] => .ofLastClause last :: last.bodyVerdicts
  | _ :: next :: rest => Tree.lastVerdicts (next :: rest)

def Tree.bodyVerdicts : Node → List Verdict
  | .list [_, body] => body.verdicts
  | _ => []

def Tree.earlierVerdicts : List Node → List Verdict
  | [] | [_] => []
  | clause :: next :: rest =>
    .ofClause clause :: clause.partVerdicts ++ Tree.earlierVerdicts (next :: rest)

def Tree.partVerdicts : Node → List Verdict
  | .list [test] => test.verdicts
  | .list [test, consequent] => test.verdicts ++ consequent.verdicts
  | .list [test, _, receiver] => test.verdicts ++ receiver.verdicts
  | _ => []

end

def Verdict.rejection? (verdicts : List Verdict) : Option (Rejection Empty) :=
  (first verdicts).map .scheme

namespace Verdict

theorem rejection?_append (verdicts later : List Verdict) :
    rejection? (verdicts ++ later) = (rejection? verdicts).or (rejection? later) := by
  rw [rejection?, first_append, Option.map_or]
  rfl

end Verdict

open Verdict (rejection? rejection?_append)

theorem Tree.verdicts_form (keyword : Keyword) (operands : List Node) :
    (keyword.form operands).verdicts =
      (if keyword.arity.admits operands.length then none
        else some (.arityMismatch
          { keyword := keyword.name, arity := keyword.arity, got := operands.length })) ::
        match keyword with
        | .quote => []
        | .cond => Tree.lastVerdicts operands ++ Tree.earlierVerdicts operands
        | _ => Tree.allVerdicts operands := by
  rw [Keyword.form, Tree.verdicts, Verdict.ofList, Keyword.ofName?_name]
  cases keyword <;> rfl

theorem firstStop_form {level : Nat} {name : String} {operands : List Node}
    (all : firstStop none (walkAll (level + 1) operands) = rejection? (Tree.allVerdicts operands))
    (last : firstStop none (walkElse (level + 1) operands) =
      rejection? (Tree.lastVerdicts operands))
    (earlier : firstStop none (walkClauses (level + 1) operands) =
      rejection? (Tree.earlierVerdicts operands)) :
    firstStop none (walk level (.list (.symbol name :: operands))) =
      rejection? (Tree.verdicts (.list (.symbol name :: operands))) := by
  have endless : ¬ (none : Room).any (· < level + 1) = true := by simp
  cases found : Keyword.ofName? name with
  | none =>
    rw [walk, found, firstStop_enter endless, Tree.verdicts, found, Verdict.ofList, found]
    rfl
  | some keyword =>
    obtain rfl := Keyword.name_of_ofName? found
    change firstStop none (walk level (keyword.form operands)) =
      rejection? (keyword.form operands).verdicts
    rw [walk_form, firstStop_enter endless, Tree.verdicts_form]
    cases counted : keyword.arity.admits operands.length with
    | false => rfl
    | true =>
      rw [if_pos rfl, if_pos rfl]
      cases keyword with
      | quote =>
        simp only [quoteOperands_eq]
        rfl
      | cond =>
        calc
          firstStop none (walkElse (level + 1) operands ++ walkClauses (level + 1) operands)
            = (rejection? (Tree.lastVerdicts operands)).or
                (rejection? (Tree.earlierVerdicts operands)) := by
              rw [firstStop_append, last, earlier]
          _ = rejection? (Tree.lastVerdicts operands ++ Tree.earlierVerdicts operands) :=
            (rejection?_append _ _).symm
      | time | ifElse | and | or | begin | unlessThen => exact all

mutual

theorem firstStop_walk (level : Nat) (node : Node) :
    firstStop none (walk level node) = rejection? node.verdicts := by
  match node with
  | .literal _ | .symbol _ | .list [] => rfl
  | .list (.symbol name :: operands) =>
    exact firstStop_form (firstStop_walkAll (level + 1) operands)
      (firstStop_walkElse (level + 1) operands) (firstStop_walkClauses (level + 1) operands)
  | .list (.literal _ :: _) | .list (.list _ :: _) => rfl
  | .list (.foreign value :: _) | .foreign value => exact nomatch value

theorem firstStop_walkAll (level : Nat) (nodes : List Node) :
    firstStop none (walkAll level nodes) = rejection? (Tree.allVerdicts nodes) := by
  match nodes with
  | [] => rfl
  | node :: rest =>
    rw [walkAll, Tree.allVerdicts, firstStop_append, rejection?_append, firstStop_walk level node,
      firstStop_walkAll level rest]

theorem firstStop_walkElse (level : Nat) (clauses : List Node) :
    firstStop none (walkElse level clauses) = rejection? (Tree.lastVerdicts clauses) := by
  match clauses with
  | [] => rfl
  | [last] => exact firstStop_walkElseClause level last
  | _ :: next :: rest => exact firstStop_walkElse level (next :: rest)

theorem firstStop_walkElseClause (level : Nat) (clause : Node) :
    firstStop none (walkElseClause level clause) =
      rejection? (.ofLastClause clause :: clause.bodyVerdicts) := by
  match clause with
  | .list [.symbol name, body] =>
    rw [walkElseClause, Verdict.ofLastClause]
    by_cases isElse : name = "else"
    · rw [if_pos isElse, if_pos isElse, firstStop_walk level body]
      rfl
    · rw [if_neg isElse, if_neg isElse]
      rfl
  | .list [_] | .list (_ :: _ :: _ :: _) =>
    rw [walkElseClause, Verdict.ofLastClause]
    · rfl
    · simp
    · simp
  | .list [.literal _, _] | .list [.list _, _] => rfl
  | .list [] | .symbol _ | .literal _ => rfl
  | .foreign value | .list [.foreign value, _] => exact nomatch value

theorem firstStop_walkClauses (level : Nat) (clauses : List Node) :
    firstStop none (walkClauses level clauses) = rejection? (Tree.earlierVerdicts clauses) := by
  match clauses with
  | [] | [_] => rfl
  | clause :: next :: rest =>
    rw [walkClauses, Tree.earlierVerdicts, firstStop_append, rejection?_append,
      firstStop_walkClause level clause, firstStop_walkClauses level (next :: rest)]

theorem firstStop_walkClause (level : Nat) (clause : Node) :
    firstStop none (walkClause level clause) =
      rejection? (.ofClause clause :: clause.partVerdicts) := by
  match clause with
  | .list [test] => exact firstStop_walk level test
  | .list [test, consequent] =>
    rw [walkClause, firstStop_append, firstStop_walk level test, firstStop_walk level consequent,
      ← rejection?_append]
    rfl
  | .list [test, .symbol arrow, receiver] =>
    rw [walkClause, Verdict.ofClause]
    by_cases isArrow : arrow = "=>"
    · rw [if_pos isArrow, if_pos isArrow, firstStop_append, firstStop_walk level test,
        firstStop_walk level receiver, ← rejection?_append]
      rfl
    · rw [if_neg isArrow, if_neg isArrow]
      rfl
  | .list [_, .literal _, _] | .list [_, .list _, _] => rfl
  | .list [] | .list (_ :: _ :: _ :: _ :: _) => rfl
  | .symbol _ | .literal _ => rfl
  | .foreign value | .list [_, .foreign value, _] => exact nomatch value

end

theorem failure?_analyze (node : Node) : failure? (analyze node) = rejection? node.verdicts :=
  (failure?_eq_firstStop none node).trans (firstStop_walk 0 node)

/-- A node has an expression if and only if no verdict on it names an error; if one does, the first
that does so is the error of the analysis. -/
theorem analyze_of_verdicts (node : Node) :
    ((∃ expr, analyze node = .ok expr) ↔ ∀ verdict ∈ node.verdicts, verdict = none) ∧
      ∀ rejection, analyze node = .error rejection ↔
        ∃ error, rejection = .scheme error ∧
          ∃ passed later, node.verdicts = passed ++ some error :: later ∧
            ∀ verdict ∈ passed, verdict = none := by
  constructor
  · rw [← failure?_eq_none_iff, failure?_analyze, rejection?, Option.map_eq_none_iff,
      Verdict.first_eq_none_iff]
  · intro rejection
    rw [← failure?_eq_some_iff, failure?_analyze, rejection?, Option.map_eq_some_iff]
    constructor
    · rintro ⟨error, found, rfl⟩
      exact ⟨error, rfl, Verdict.first_eq_some_iff.1 found⟩
    · rintro ⟨error, rfl, found⟩
      exact ⟨error, Verdict.first_eq_some_iff.2 found, rfl⟩

end SchemeReader
