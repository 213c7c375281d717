import SchemeReader.Value.Description

set_option autoImplicit false

namespace SchemeReader

inductive Unprintable
  | noSource (value : Value)
  | notClause (value : Value)

def Unprintable.message : Unprintable → String
  | noSource value => "Cannot render " ++ value.describe
  | notClause value => "Not a cond clause: " ++ value.describe

namespace Value

mutual

def spelling : Value → Except Unprintable (List Char)
  | .literal value => .ok value.spelling
  | .symbol name | .variable name => .ok name.toList
  | .nil => .ok (Text.parenthesized [])
  | .cons head tail => return Text.parenthesized ((← head.spelling) :: (← tail.tailSpellings))
  | .list items => return Text.parenthesized (← spellings items)
  | .quote datum => return Text.parenthesized ["quote".toList, ← datum.spelling]
  | .time body => return Text.parenthesized ["time".toList, ← body.spelling]
  | .ifElse test consequent alternative =>
    return Text.parenthesized
      ["if".toList, ← test.spelling, ← consequent.spelling, ← alternative.spelling]
  | .and operands => return Text.parenthesized ("and".toList :: (← spellings operands))
  | .or operands => return Text.parenthesized ("or".toList :: (← spellings operands))
  | .begin body => return Text.parenthesized ("begin".toList :: (← spellings body))
  | .unlessThen test body =>
    return Text.parenthesized ["unless".toList, ← test.spelling, ← body.spelling]
  | .cond clauses otherwise =>
    return Text.parenthesized ("cond".toList :: (← clauseSpellings clauses) ++
      [Text.parenthesized ["else".toList, ← otherwise.spelling]])
  | value => .error (.noSource value)

def tailSpellings : Value → Except Unprintable (List (List Char))
  | .nil => .ok []
  | .cons head tail => return (← head.spelling) :: (← tail.tailSpellings)
  | value => return [['.'], ← value.spelling]

def spellings : List Value → Except Unprintable (List (List Char))
  | [] => .ok []
  | value :: rest => return (← value.spelling) :: (← spellings rest)

def clauseSpelling : Value → Except Unprintable (List Char)
  | .simple test consequent =>
    return Text.parenthesized [← test.spelling, ← consequent.spelling]
  | .binding test receiver =>
    return Text.parenthesized [← test.spelling, "=>".toList, ← receiver.spelling]
  | .bare test => return Text.parenthesized [← test.spelling]
  | value => .error (.notClause value)

def clauseSpellings : List Value → Except Unprintable (List (List Char))
  | [] => .ok []
  | clause :: rest => return (← clause.clauseSpelling) :: (← clauseSpellings rest)

end

mutual

def depth : Value → Nat
  | .plain _ | .literal _ | .symbol _ | .variable _ => 0
  | .nil => 1
  | .cons head tail => max (head.depth + 1) tail.depth
  | .list items => depths items + 1
  | .quote part | .time part | .bare part => part.depth + 1
  | .ifElse test consequent alternative =>
    max test.depth (max consequent.depth alternative.depth) + 1
  | .and parts | .or parts | .begin parts => depths parts + 1
  | .unlessThen test part | .simple test part | .binding test part =>
    max test.depth part.depth + 1
  | .cond clauses otherwise => max (depths clauses) (otherwise.depth + 1) + 1

def depths : List Value → Nat
  | [] => 0
  | value :: rest => max value.depth (depths rest)

end

end Value

end SchemeReader
