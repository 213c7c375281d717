import SchemeReader.Analysis.Error
import SchemeReader.Datum.Quoting
import SchemeReader.Expr

set_option autoImplicit false

namespace SchemeReader

abbrev Room := Option Nat

def Room.enter : Room → Option Room
  | none => some none
  | some 0 => none
  | some (levels + 1) => some (some levels)

variable {α : Type}

def Rejection.operandCount (keyword : Keyword) (got : Nat) : Rejection α :=
  .scheme (.arityMismatch { keyword := keyword.name, arity := keyword.arity, got })

def Rejection.clause (flaw : ClauseFlaw) : Rejection α := .scheme (.malformedClause flaw)

-- One operand is quoted as it is, any other number of them as a list.
def quoteOperands (operands : List (Tree α)) : Except (Rejection α) Expr :=
  let datum :=
    match operands with
    | [operand] => Datum.ofTree operand
    | _ => Datum.ofTree (.list operands)
  match datum with
  | .ok datum => .ok (.quote datum)
  | .error value => .error (.notQuotable value)

mutual

def analyzeWithin (room : Room) (tree : Tree α) : Except (Rejection α) Expr :=
  match room.enter with
  | none => .error (.scheme .nestingTooDeep)
  | some inner =>
    match tree with
    | .literal value => .ok (.literal value)
    | .symbol name => .ok (.variable name)
    | .foreign value => .error (.notNode value)
    | .list [] => .error (.scheme .emptyApplication)
    | .list (.symbol name :: operands) =>
      match Keyword.ofName? name with
      | none => .error (.scheme (.unhandledKeyword name))
      | some keyword =>
        match keyword, operands with
        | .quote, operands => quoteOperands operands
        | .time, [body] => return .time (← analyzeWithin inner body)
        | .ifElse, [test, consequent, alternative] =>
          return .ifElse (← analyzeWithin inner test) (← analyzeWithin inner consequent)
            (← analyzeWithin inner alternative)
        | .unlessThen, [test, body] =>
          return .unlessThen (← analyzeWithin inner test) (← analyzeWithin inner body)
        | .and, operands => return .and (← analyzeAll inner operands)
        | .or, operands => return .or (← analyzeAll inner operands)
        | .begin, [] | .cond, [] => .error (.operandCount keyword 0)
        | .begin, operands => return .begin (← analyzeAll inner operands)
        | .cond, operands => do
          let otherwise ← analyzeElse inner operands
          return .cond (← analyzeClauses inner operands) otherwise
        | keyword, operands => .error (.operandCount keyword operands.length)
    | .list _ => .error (.scheme .applicationNotImplemented)
termination_by structural tree

def analyzeAll (room : Room) (trees : List (Tree α)) : Except (Rejection α) (List Expr) :=
  match trees with
  | [] => .ok []
  | tree :: rest => return (← analyzeWithin room tree) :: (← analyzeAll room rest)
termination_by structural trees

def analyzeElse (room : Room) (clauses : List (Tree α)) : Except (Rejection α) Expr :=
  match clauses with
  | [] => .error (.clause .lastNotElse)
  | [last] => analyzeElseClause room last
  | _ :: next :: rest => analyzeElse room (next :: rest)
termination_by structural clauses

def analyzeElseClause (room : Room) (clause : Tree α) : Except (Rejection α) Expr :=
  match clause with
  | .list [.symbol name, body] =>
    if name = "else" then analyzeWithin room body else .error (.clause .lastNotElse)
  | _ => .error (.clause .lastNotElse)
termination_by structural clause

def analyzeClauses (room : Room) (clauses : List (Tree α)) :
    Except (Rejection α) (List Clause) :=
  match clauses with
  | [] | [_] => .ok []
  | clause :: next :: rest =>
    return (← analyzeClause room clause) :: (← analyzeClauses room (next :: rest))
termination_by structural clauses

def analyzeClause (room : Room) (clause : Tree α) : Except (Rejection α) Clause :=
  match clause with
  | .list [test] => return .bare (← analyzeWithin room test)
  | .list [test, consequent] =>
    return .simple (← analyzeWithin room test) (← analyzeWithin room consequent)
  | .list [test, .symbol arrow, receiver] =>
    if arrow = "=>" then
      return .binding (← analyzeWithin room test) (← analyzeWithin room receiver)
    else .error (.clause .noArrow)
  | .list [_, _, _] => .error (.clause .noArrow)
  | .list items => .error (.clause (.length items.length))
  | _ => .error (.clause .notList)
termination_by structural clause

end

def analyze (tree : Tree α) : Except (Rejection α) Expr := analyzeWithin none tree

end SchemeReader
