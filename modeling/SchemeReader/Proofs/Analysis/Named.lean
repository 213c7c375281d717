import SchemeReader.Proofs.Analysis.Walk
import SchemeReader.Proofs.Tree.Leaves

set_option autoImplicit false

namespace SchemeReader

def SchemeError.Named (leaves : List (Token Empty)) : SchemeError → Prop
  | .unhandledKeyword name => .identifier name ∈ leaves
  | .arityMismatch mismatch => ∃ keyword : Keyword, mismatch.keyword = keyword.name
  | _ => True

def Step.Named (leaves : List (Token Empty)) : Step Empty → Prop
  | .reject (.scheme error) => error.Named leaves
  | _ => True

theorem Step.Named.of_stop? {leaves : List (Token Empty)} {step : Step Empty}
    (named : step.Named leaves) {room : Room} {error : SchemeError}
    (stops : step.stop? room = some (.scheme error)) : error.Named leaves := by
  cases step with
  | enter level =>
    rw [stop?] at stops
    split at stops
    · cases stops
      trivial
    · cases stops
  | dispatch => cases stops
  | reject rejection =>
    cases stops
    exact named

theorem SchemeError.Named.mono {leaves others : List (Token Empty)} (within : leaves ⊆ others)
    {error : SchemeError} (named : error.Named leaves) : error.Named others := by
  cases error with
  | unhandledKeyword name => exact within named
  | arityMismatch mismatch => exact named
  | emptyApplication | applicationNotImplemented | malformedClause | nestingTooDeep => trivial

theorem Step.Named.mono {leaves others : List (Token Empty)} (within : leaves ⊆ others)
    {step : Step Empty} (named : step.Named leaves) : step.Named others := by
  match step, named with
  | .reject (.scheme error), named => exact SchemeError.Named.mono within named
  | .reject (.notNode _), _ | .reject (.notQuotable _), _
  | .enter _, _ | .dispatch _ _, _ => trivial

def AllNamed (leaves : List (Token Empty)) (steps : List (Step Empty)) : Prop :=
  ∀ step ∈ steps, step.Named leaves

namespace AllNamed

variable {leaves others : List (Token Empty)} {steps later : List (Step Empty)}

theorem nil : AllNamed leaves [] := nofun

theorem cons {step : Step Empty} (first : step.Named leaves) (rest : AllNamed leaves steps) :
    AllNamed leaves (step :: steps) :=
  List.forall_mem_cons.2 ⟨first, rest⟩

theorem reject {error : SchemeError} (named : error.Named leaves) :
    AllNamed leaves [.reject (.scheme error)] :=
  cons named nil

theorem append (first : AllNamed leaves steps) (second : AllNamed leaves later) :
    AllNamed leaves (steps ++ later) :=
  List.forall_mem_append.2 ⟨first, second⟩

theorem mono (within : leaves ⊆ others) (named : AllNamed leaves steps) : AllNamed others steps :=
  fun step member => (named step member).mono within

end AllNamed

theorem Tree.leaves_subset {nodes : List Node} {node : Node} (member : node ∈ nodes) :
    node.leaves ⊆ Tree.allLeaves nodes := by
  induction nodes with
  | nil => cases member
  | cons first rest ih =>
    rcases List.mem_cons.1 member with rfl | later
    · exact List.subset_append_left _ _
    · exact List.Subset.trans (ih later) (List.subset_append_right _ _)

theorem allNamed_walk_form {level : Nat} {keyword : Keyword} {operands : List Node}
    (all : AllNamed (Tree.allLeaves operands) (walkAll (level + 1) operands))
    (last : AllNamed (Tree.allLeaves operands) (walkElse (level + 1) operands))
    (earlier : AllNamed (Tree.allLeaves operands) (walkClauses (level + 1) operands)) :
    AllNamed (keyword.form operands).leaves (walk level (keyword.form operands)) := by
  have inside : Tree.allLeaves operands ⊆ (keyword.form operands).leaves := by
    rw [keyword.leaves_form]
    exact List.subset_cons_self _ _
  rw [walk_form]
  refine .cons trivial (.cons trivial ?_)
  split
  · cases keyword with
    | quote =>
      rw [quoteOperands_eq]
      exact .nil
    | cond => exact (last.append earlier).mono inside
    | time | ifElse | and | or | begin | unlessThen => exact all.mono inside
  · exact .reject ⟨keyword, rfl⟩

mutual

theorem allNamed_walk (level : Nat) (node : Node) : AllNamed node.leaves (walk level node) := by
  match node with
  | .literal _ | .symbol _ => exact .cons trivial .nil
  | .list [] => exact .cons trivial (.reject trivial)
  | .list (.symbol name :: operands) =>
    cases found : Keyword.ofName? name with
    | none =>
      rw [walk, found]
      exact .cons trivial (.reject List.mem_cons_self)
    | some keyword =>
      obtain rfl := Keyword.name_of_ofName? found
      exact allNamed_walk_form (allNamed_walkAll (level + 1) operands)
        (allNamed_walkElse (level + 1) operands) (allNamed_walkClauses (level + 1) operands)
  | .list (.literal _ :: _) | .list (.list _ :: _) => exact .cons trivial (.reject trivial)
  | .list (.foreign value :: _) | .foreign value => exact nomatch value

theorem allNamed_walkAll (level : Nat) (nodes : List Node) :
    AllNamed (Tree.allLeaves nodes) (walkAll level nodes) := by
  match nodes with
  | [] => exact .nil
  | node :: rest =>
    exact .append ((allNamed_walk level node).mono (List.subset_append_left _ _))
      ((allNamed_walkAll level rest).mono (List.subset_append_right _ _))

theorem allNamed_walkElse (level : Nat) (clauses : List Node) :
    AllNamed (Tree.allLeaves clauses) (walkElse level clauses) := by
  match clauses with
  | [] => exact .nil
  | [last] => exact (allNamed_walkElseClause level last).mono (List.subset_append_left _ _)
  | _ :: next :: rest =>
    exact (allNamed_walkElse level (next :: rest)).mono (List.subset_append_right _ _)

theorem allNamed_walkElseClause (level : Nat) (clause : Node) :
    AllNamed clause.leaves (walkElseClause level clause) := by
  unfold walkElseClause
  split
  next name body =>
    split
    · exact (allNamed_walk level body).mono (Tree.leaves_subset (by simp))
    · exact .reject trivial
  next => exact .reject trivial

theorem allNamed_walkClauses (level : Nat) (clauses : List Node) :
    AllNamed (Tree.allLeaves clauses) (walkClauses level clauses) := by
  match clauses with
  | [] | [_] => exact .nil
  | clause :: next :: rest =>
    exact .append ((allNamed_walkClause level clause).mono (List.subset_append_left _ _))
      ((allNamed_walkClauses level (next :: rest)).mono (List.subset_append_right _ _))

theorem allNamed_walkClause (level : Nat) (clause : Node) :
    AllNamed clause.leaves (walkClause level clause) := by
  unfold walkClause
  split
  next test => exact (allNamed_walk level test).mono (Tree.leaves_subset (by simp))
  next test consequent =>
    exact .append ((allNamed_walk level test).mono (Tree.leaves_subset (by simp)))
      ((allNamed_walk level consequent).mono (Tree.leaves_subset (by simp)))
  next test name receiver =>
    split
    · exact .append ((allNamed_walk level test).mono (Tree.leaves_subset (by simp)))
        ((allNamed_walk level receiver).mono (Tree.leaves_subset (by simp)))
    · exact .reject trivial
  next => exact .reject trivial
  next => exact .reject trivial
  next => exact .reject trivial

end

theorem named_of_analyzeWithin {room : Room} {node : Node} {error : SchemeError}
    (rejected : analyzeWithin room node = .error (.scheme error)) : error.Named node.leaves := by
  have stopped := failure?_eq_firstStop room node
  rw [rejected] at stopped
  obtain ⟨step, member, stops⟩ := List.exists_of_findSome?_eq_some stopped.symm
  exact (allNamed_walk 0 node step member).of_stop? stops

end SchemeReader
