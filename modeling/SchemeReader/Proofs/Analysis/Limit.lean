import SchemeReader.Proofs.Analysis.Normal
import SchemeReader.Proofs.Analysis.Requote
import SchemeReader.Reading

set_option autoImplicit false

namespace SchemeReader

section

variable {bound : Nat} {steps : List (Step Empty)}

theorem Step.stop?_limited (bound : Nat) (step : Step Empty) :
    step.stop? (some bound) = some (.scheme .nestingTooDeep) ∨
      step.stop? (some bound) = step.stop? none := by
  cases step with
  | enter level =>
    rw [stop?, Option.any_some]
    split
    · exact .inl rfl
    · exact .inr rfl
  | dispatch | reject => exact .inr rfl

theorem firstStop_limited (bound : Nat) (steps : List (Step Empty)) :
    firstStop (some bound) steps = some (.scheme .nestingTooDeep) ∨
      firstStop (some bound) steps = firstStop none steps := by
  induction steps with
  | nil => exact .inr rfl
  | cons step later ih =>
    simp only [firstStop, List.findSome?_cons] at ih ⊢
    rcases step.stop?_limited bound with deep | same
    · rw [deep]
      exact .inl rfl
    · rw [same]
      cases step.stop? none with
      | none => exact ih
      | some rejection => exact .inr rfl

theorem firstStop_none_eq_none_iff :
    firstStop none steps = none ↔ ∀ rejection, .reject rejection ∉ steps := by
  rw [firstStop, List.findSome?_eq_none_iff]
  constructor
  · intro passed rejection member
    cases passed _ member
  · intro clear step member
    cases step with
    | enter | dispatch => rfl
    | reject rejection => exact absurd member (clear rejection)

def Unleveled (steps : List (Step Empty)) : Prop := .reject (.scheme .nestingTooDeep) ∉ steps

/-- The steps open so many levels at once before any of them is a check that fails. -/
def Reaches (steps : List (Step Empty)) (levels : Nat) : Prop :=
  ∃ taken later, steps = taken ++ .enter levels :: later ∧ ∀ rejection, .reject rejection ∉ taken

theorem firstStop_tooDeep_iff (unleveled : Unleveled steps) :
    firstStop (some bound) steps = some (.scheme .nestingTooDeep) ↔
      ∃ levels > bound, Reaches steps levels := by
  constructor
  · intro deep
    obtain ⟨taken, step, later, found, stopped, passed⟩ := List.findSome?_eq_some_iff.1 deep
    cases step with
    | dispatch => cases stopped
    | reject rejection =>
      cases stopped
      exact absurd (found ▸ List.mem_append_right _ List.mem_cons_self) unleveled
    | enter levels =>
      refine ⟨levels, ?_, taken, later, found, ?_⟩
      · by_contra fits
        rw [Step.stop?, if_neg (by simpa using fits)] at stopped
        cases stopped
      · intro rejection member
        cases passed _ member
  · rintro ⟨levels, more, taken, later, found, clear⟩
    have full : (some bound).any (· < levels) = true := by simpa using more
    rw [found, firstStop_append, firstStop_full full]
    -- The limit may be passed before already.
    rcases firstStop_limited bound taken with deep | same
    · rw [deep]
      rfl
    · rw [same, firstStop_none_eq_none_iff.2 clear]
      rfl

end

namespace Unleveled

variable {steps later : List (Step Empty)}

theorem nil : Unleveled [] := List.not_mem_nil

theorem enter (level : Nat) (rest : Unleveled steps) : Unleveled (.enter level :: steps) :=
  List.not_mem_cons_of_ne_of_not_mem nofun rest

theorem dispatch (keyword : Keyword) (operands : Nat) (rest : Unleveled steps) :
    Unleveled (.dispatch keyword operands :: steps) :=
  List.not_mem_cons_of_ne_of_not_mem nofun rest

theorem reject {error : SchemeError} (other : error ≠ .nestingTooDeep) :
    Unleveled [.reject (.scheme error)] := by
  intro member
  cases List.mem_singleton.1 member
  exact other rfl

theorem append (first : Unleveled steps) (second : Unleveled later) : Unleveled (steps ++ later) :=
  List.not_mem_append first second

end Unleveled

theorem unleveled_walk_form {level : Nat} {keyword : Keyword} {operands : List Node}
    (all : Unleveled (walkAll (level + 1) operands))
    (last : Unleveled (walkElse (level + 1) operands))
    (earlier : Unleveled (walkClauses (level + 1) operands)) :
    Unleveled (walk level (keyword.form operands)) := by
  rw [walk_form]
  refine .enter _ (.dispatch _ _ ?_)
  split
  · cases keyword with
    | quote =>
      rw [quoteOperands_eq]
      exact .nil
    | cond => exact last.append earlier
    | time | ifElse | and | or | begin | unlessThen => exact all
  · exact .reject nofun

mutual

theorem unleveled_walk (level : Nat) (node : Node) : Unleveled (walk level node) := by
  match node with
  | .literal _ | .symbol _ => exact .enter _ .nil
  | .list [] => exact .enter _ (.reject nofun)
  | .list (.symbol name :: operands) =>
    cases found : Keyword.ofName? name with
    | none =>
      rw [walk, found]
      exact .enter _ (.reject nofun)
    | some keyword =>
      obtain rfl := Keyword.name_of_ofName? found
      exact unleveled_walk_form (unleveled_walkAll (level + 1) operands)
        (unleveled_walkElse (level + 1) operands) (unleveled_walkClauses (level + 1) operands)
  | .list (.literal _ :: _) | .list (.list _ :: _) => exact .enter _ (.reject nofun)
  | .list (.foreign value :: _) | .foreign value => exact nomatch value

theorem unleveled_walkAll (level : Nat) (nodes : List Node) : Unleveled (walkAll level nodes) := by
  match nodes with
  | [] => exact .nil
  | node :: rest => exact (unleveled_walk level node).append (unleveled_walkAll level rest)

theorem unleveled_walkElse (level : Nat) (clauses : List Node) :
    Unleveled (walkElse level clauses) := by
  match clauses with
  | [] => exact .nil
  | [last] => exact unleveled_walkElseClause level last
  | _ :: next :: rest => exact unleveled_walkElse level (next :: rest)

theorem unleveled_walkElseClause (level : Nat) (clause : Node) :
    Unleveled (walkElseClause level clause) := by
  unfold walkElseClause
  split
  · split
    · exact unleveled_walk level _
    · exact .reject nofun
  · exact .reject nofun

theorem unleveled_walkClauses (level : Nat) (clauses : List Node) :
    Unleveled (walkClauses level clauses) := by
  match clauses with
  | [] | [_] => exact .nil
  | clause :: next :: rest =>
    exact (unleveled_walkClause level clause).append (unleveled_walkClauses level (next :: rest))

theorem unleveled_walkClause (level : Nat) (clause : Node) :
    Unleveled (walkClause level clause) := by
  unfold walkClause
  split
  · exact unleveled_walk level _
  · exact (unleveled_walk level _).append (unleveled_walk level _)
  · split
    · exact (unleveled_walk level _).append (unleveled_walk level _)
    · exact .reject nofun
  · exact .reject nofun
  · exact .reject nofun
  · exact .reject nofun

end

theorem analyzeWithin_eq_of_failure? {room other : Room} {node : Node}
    (same : failure? (analyzeWithin room node) = failure? (analyzeWithin other node)) :
    analyzeWithin room node = analyzeWithin other node := by
  cases first : analyzeWithin room node with
  | error rejection =>
    rw [first] at same
    exact (failure?_eq_some_iff.1 same.symm).symm
  | ok expr =>
    rw [first] at same
    obtain ⟨expr', second⟩ := failure?_eq_none_iff.1 same.symm
    obtain ⟨normal, proper⟩ := written_of_analyzeWithin node first
    obtain ⟨normal', proper'⟩ := written_of_analyzeWithin node second
    have level : expr.node = expr'.node := normal.symm.trans normal'
    have unlimited : Room.Admits none expr.levels := nofun
    have unlimited' : Room.Admits none expr'.levels := nofun
    have again := expr.analyze_node proper unlimited
    rw [level, expr'.analyze_node proper' unlimited'] at again
    cases again
    exact second.symm

def Reading.resultWithin (room : Room) (node : Node) : Except ReadError Expr :=
  match analyzeWithin room node with
  | .ok expr => .ok expr
  | .error (.scheme cause) => .error (.scheme cause)
  | .error (.notNode value) | .error (.notQuotable value) => nomatch value

namespace Reading

theorem result_eq_resultWithin (limits : Limits) (node : Node) :
    result limits (.ok node) = resultWithin (some limits.analysis) node := by
  rw [result, analyzeNode, resultWithin]
  cases analyzeWithin (some limits.analysis) node with
  | ok expr => rfl
  | error rejection =>
    cases rejection with
    | scheme cause => rfl
    | notNode value | notQuotable value => cases value

theorem resultWithin_eq_tooDeep_iff {room : Room} {node : Node} :
    resultWithin room node = .error (.scheme .nestingTooDeep) ↔
      firstStop room (walk 0 node) = some (.scheme .nestingTooDeep) := by
  rw [← failure?_eq_firstStop, resultWithin]
  cases analyzeWithin room node with
  | ok expr => simp [failure?]
  | error rejection =>
    cases rejection with
    | scheme cause => simp [failure?]
    | notNode value | notQuotable value => cases value

theorem resultWithin_limited (bound : Nat) (node : Node) :
    resultWithin (some bound) node = resultWithin none node ∨
      resultWithin (some bound) node = .error (.scheme .nestingTooDeep) := by
  rcases firstStop_limited bound (walk 0 node) with deep | same
  · exact .inr (resultWithin_eq_tooDeep_iff.2 deep)
  · left
    rw [← failure?_eq_firstStop, ← failure?_eq_firstStop] at same
    rw [resultWithin, analyzeWithin_eq_of_failure? same]
    rfl

end Reading

open Reading (result resultWithin)

/-- An analysis within a limit comes to what it comes to without one, unless it opens more levels
before anything else stops it.  The operands of quotations open none. -/
theorem analysis_within_limit (node : Node) (bound : Nat) :
    (resultWithin (some bound) node = resultWithin none node ∨
      resultWithin (some bound) node = .error (.scheme .nestingTooDeep)) ∧
    (resultWithin (some bound) node = .error (.scheme .nestingTooDeep) ↔
      ∃ levels > bound, Reaches (walk 0 node) levels) ∧
    (resultWithin (some bound) node ≠ .error (.scheme .nestingTooDeep) →
      ∀ larger ≥ bound, resultWithin (some larger) node = resultWithin (some bound) node) ∧
    (∀ quoted, resultWithin (some bound) (node.requote quoted) = .error (.scheme .nestingTooDeep) ↔
      resultWithin (some bound) node = .error (.scheme .nestingTooDeep)) ∧
    ∀ limits : Limits, result limits (.ok node) = resultWithin (some limits.analysis) node := by
  have reaches (bound : Nat) :
      resultWithin (some bound) node = .error (.scheme .nestingTooDeep) ↔
        ∃ levels > bound, Reaches (walk 0 node) levels :=
    Reading.resultWithin_eq_tooDeep_iff.trans (firstStop_tooDeep_iff (unleveled_walk 0 node))
  refine ⟨Reading.resultWithin_limited bound node, reaches bound, ?_, ?_,
    fun limits => Reading.result_eq_resultWithin limits node⟩
  · intro shallow larger within
    have shallow' : resultWithin (some larger) node ≠ .error (.scheme .nestingTooDeep) := by
      intro deep
      obtain ⟨levels, more, opened⟩ := (reaches larger).1 deep
      exact shallow ((reaches bound).2 ⟨levels, by omega, opened⟩)
    have unlimited := (Reading.resultWithin_limited bound node).resolve_right shallow
    have unlimited' := (Reading.resultWithin_limited larger node).resolve_right shallow'
    exact unlimited'.trans unlimited.symm
  · intro quoted
    rw [Reading.resultWithin_eq_tooDeep_iff, Reading.resultWithin_eq_tooDeep_iff,
      firstStop_requote]

end SchemeReader
