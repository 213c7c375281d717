import SchemeReader.Expr
import SchemeReader.Tree

set_option autoImplicit false

namespace SchemeReader

inductive Plain
  | integer (value : Int)
  | fraction (unscaled : Int) (places : Nat)
  | truth (value : Bool)
  | text (value : String)
  | absent
deriving DecidableEq, Inhabited

inductive Value
  | plain (value : Plain)
  | literal (value : Literal)
  | symbol (name : String)
  | variable (name : String)
  | nil
  | cons (head tail : Value)
  | list (items : List Value)
  | quote (datum : Value)
  | time (body : Value)
  | ifElse (test consequent alternative : Value)
  | and (operands : List Value)
  | or (operands : List Value)
  | begin (body : List Value)
  | unlessThen (test body : Value)
  | cond (clauses : List Value) (otherwise : Value)
  | simple (test consequent : Value)
  | binding (test receiver : Value)
  | bare (test : Value)
deriving Inhabited

namespace Value

def ofDatum : Datum → Value
  | .literal value => .literal value
  | .symbol name => .symbol name
  | .nil => .nil
  | .cons head tail => .cons (ofDatum head) (ofDatum tail)

mutual

def ofExpr : Expr → Value
  | .literal value => .literal value
  | .variable name => .variable name
  | .quote datum => .quote (ofDatum datum)
  | .time body => .time (ofExpr body)
  | .ifElse test consequent alternative =>
    .ifElse (ofExpr test) (ofExpr consequent) (ofExpr alternative)
  | .and operands => .and (ofExprs operands)
  | .or operands => .or (ofExprs operands)
  | .begin body => .begin (ofExprs body)
  | .unlessThen test body => .unlessThen (ofExpr test) (ofExpr body)
  | .cond clauses otherwise => .cond (ofClauses clauses) (ofExpr otherwise)

def ofExprs : List Expr → List Value
  | [] => []
  | expr :: rest => ofExpr expr :: ofExprs rest

def ofClause : Clause → Value
  | .simple test consequent => .simple (ofExpr test) (ofExpr consequent)
  | .binding test receiver => .binding (ofExpr test) (ofExpr receiver)
  | .bare test => .bare (ofExpr test)

def ofClauses : List Clause → List Value
  | [] => []
  | clause :: rest => ofClause clause :: ofClauses rest

end

variable {α : Type}

mutual

def ofTree (embed : α → Value) : Tree α → Value
  | .symbol name => .symbol name
  | .literal value => .literal value
  | .list items => .list (ofTrees embed items)
  | .foreign value => embed value

def ofTrees (embed : α → Value) : List (Tree α) → List Value
  | [] => []
  | tree :: rest => ofTree embed tree :: ofTrees embed rest

end

def ofNode (node : Node) : Value := ofTree (fun value => nomatch value) node

mutual

def toTree : Value → Tree Value
  | .symbol name => .symbol name
  | .literal value => .literal value
  | .list items => .list (toTrees items)
  | other => .foreign other

def toTrees : List Value → List (Tree Value)
  | [] => []
  | value :: rest => toTree value :: toTrees rest

end

def chain (items : List Value) : Value := items.foldr cons nil

def elements : Value → List Value
  | .cons head tail => head :: tail.elements
  | _ => []

def isNil : Value → Bool
  | .nil => true
  | _ => false

structure Shape where
  depth : Nat
  lists : Nat
  atoms : Nat

mutual

def shape : Value → Shape
  | .list items =>
    let inner := shapes items
    { inner with depth := inner.depth + 1, lists := inner.lists + 1 }
  | _ => { depth := 0, lists := 0, atoms := 1 }

def shapes : List Value → Shape
  | [] => { depth := 0, lists := 0, atoms := 0 }
  | value :: rest =>
    let first := shape value
    let others := shapes rest
    { depth := max first.depth others.depth
      lists := first.lists + others.lists
      atoms := first.atoms + others.atoms }

end

end Value

end SchemeReader
