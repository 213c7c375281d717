import SchemeReader.Datum

set_option autoImplicit false

namespace SchemeReader

mutual

inductive Expr
  | literal (value : Literal)
  | variable (name : String)
  | quote (datum : Datum)
  | time (body : Expr)
  | ifElse (test consequent alternative : Expr)
  | and (operands : List Expr)
  | or (operands : List Expr)
  | begin (body : List Expr)
  | unlessThen (test body : Expr)
  | cond (clauses : List Clause) (otherwise : Expr)

inductive Clause
  | simple (test consequent : Expr)
  | binding (test receiver : Expr)
  | bare (test : Expr)

end

mutual

def Expr.depth : Expr → Nat
  | .literal _ | .variable _ => 0
  | .quote datum => datum.depth + 1
  | .time body => body.depth + 1
  | .ifElse test consequent alternative =>
    max test.depth (max consequent.depth alternative.depth) + 1
  | .and operands | .or operands | .begin operands => Expr.depths operands + 1
  | .unlessThen test body => max test.depth body.depth + 1
  | .cond clauses otherwise => max (Clause.depths clauses) (otherwise.depth + 1) + 1

def Expr.depths : List Expr → Nat
  | [] => 0
  | expr :: rest => max expr.depth (Expr.depths rest)

def Clause.depth : Clause → Nat
  | .simple test part | .binding test part => max test.depth part.depth + 1
  | .bare test => test.depth + 1

def Clause.depths : List Clause → Nat
  | [] => 0
  | clause :: rest => max clause.depth (Clause.depths rest)

end

mutual

def Expr.spelling : Expr → List Char
  | .literal value => value.spelling
  | .variable name => name.toList
  | .quote datum => Text.parenthesized ["quote".toList, datum.spelling]
  | .time body => Text.parenthesized ["time".toList, body.spelling]
  | .ifElse test consequent alternative =>
    Text.parenthesized
      ["if".toList, test.spelling, consequent.spelling, alternative.spelling]
  | .and operands => Text.parenthesized ("and".toList :: Expr.spellings operands)
  | .or operands => Text.parenthesized ("or".toList :: Expr.spellings operands)
  | .begin body => Text.parenthesized ("begin".toList :: Expr.spellings body)
  | .unlessThen test body =>
    Text.parenthesized ["unless".toList, test.spelling, body.spelling]
  | .cond clauses otherwise =>
    Text.parenthesized ("cond".toList :: Clause.spellings clauses ++
      [Text.parenthesized ["else".toList, otherwise.spelling]])

def Expr.spellings : List Expr → List (List Char)
  | [] => []
  | expr :: rest => expr.spelling :: Expr.spellings rest

def Clause.spelling : Clause → List Char
  | .simple test consequent => Text.parenthesized [test.spelling, consequent.spelling]
  | .binding test receiver =>
    Text.parenthesized [test.spelling, "=>".toList, receiver.spelling]
  | .bare test => Text.parenthesized [test.spelling]

def Clause.spellings : List Clause → List (List Char)
  | [] => []
  | clause :: rest => clause.spelling :: Clause.spellings rest

end

def Expr.source (expr : Expr) : String := String.ofList expr.spelling

end SchemeReader
