import SchemeReader.Analysis

set_option autoImplicit false

namespace SchemeReader

inductive Step (α : Type)
  | enter (level : Nat)
  | dispatch (keyword : Keyword) (operands : Nat)
  | reject (rejection : Rejection α)

variable {α : Type}

def Step.ofQuoted (quoted : Except (Rejection α) Expr) : List (Step α) :=
  match quoted with
  | .ok _ => []
  | .error rejection => [.reject rejection]

mutual

-- The steps come in the order of the analysis, as if none of them stopped it.
def walk (level : Nat) (tree : Tree α) : List (Step α) :=
  .enter (level + 1) ::
    match tree with
    | .literal _ | .symbol _ => []
    | .foreign value => [.reject (.notNode value)]
    | .list [] => [.reject (.scheme .emptyApplication)]
    | .list (.symbol name :: operands) =>
      match Keyword.ofName? name with
      | none => [.reject (.scheme (.unhandledKeyword name))]
      | some keyword =>
        .dispatch keyword operands.length ::
          if keyword.arity.admits operands.length then
            match keyword with
            | .quote => Step.ofQuoted (quoteOperands operands)
            | .cond => walkElse (level + 1) operands ++ walkClauses (level + 1) operands
            | _ => walkAll (level + 1) operands
          else [.reject (.operandCount keyword operands.length)]
    | .list _ => [.reject (.scheme .applicationNotImplemented)]
termination_by structural tree

def walkAll (level : Nat) (trees : List (Tree α)) : List (Step α) :=
  match trees with
  | [] => []
  | tree :: rest => walk level tree ++ walkAll level rest
termination_by structural trees

def walkElse (level : Nat) (clauses : List (Tree α)) : List (Step α) :=
  match clauses with
  | [] => []
  | [last] => walkElseClause level last
  | _ :: next :: rest => walkElse level (next :: rest)
termination_by structural clauses

def walkElseClause (level : Nat) (clause : Tree α) : List (Step α) :=
  match clause with
  | .list [.symbol name, body] =>
    if name = "else" then walk level body else [.reject (.clause .lastNotElse)]
  | _ => [.reject (.clause .lastNotElse)]
termination_by structural clause

def walkClauses (level : Nat) (clauses : List (Tree α)) : List (Step α) :=
  match clauses with
  | [] | [_] => []
  | clause :: next :: rest => walkClause level clause ++ walkClauses level (next :: rest)
termination_by structural clauses

def walkClause (level : Nat) (clause : Tree α) : List (Step α) :=
  match clause with
  | .list [test] => walk level test
  | .list [test, consequent] => walk level test ++ walk level consequent
  | .list [test, .symbol arrow, receiver] =>
    if arrow = "=>" then walk level test ++ walk level receiver
    else [.reject (.clause .noArrow)]
  | .list [_, _, _] => [.reject (.clause .noArrow)]
  | .list items => [.reject (.clause (.length items.length))]
  | _ => [.reject (.clause .notList)]
termination_by structural clause

end

def Step.stops (room : Room) : Step α → Bool
  | .enter level => room.any (· < level)
  | .dispatch .. => false
  | .reject _ => true

def dispatches (room : Room) (tree : Tree α) : List (Keyword × Nat) :=
  ((walk 0 tree).takeWhile (!·.stops room)).filterMap fun
    | .dispatch keyword operands => some (keyword, operands)
    | _ => none

end SchemeReader
