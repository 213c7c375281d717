import SchemeReader.Token
import SchemeReader.Value

set_option autoImplicit false

namespace SchemeReader

def field (name : String) (part : List Char) : List Char := name.toList ++ '=' :: part

def commaSeparated (parts : List (List Char)) : List Char := [',', ' '].intercalate parts

def construction (name : String) (fields : List (List Char)) : List Char :=
  name.toList ++ '(' :: commaSeparated fields ++ [')']

def tuple : List (List Char) → List Char
  | [part] => '(' :: part ++ [',', ')']
  | parts => '(' :: commaSeparated parts ++ [')']

def truthText (value : Bool) : List Char := if value then "True".toList else "False".toList

def Literal.description : Literal → List Char
  | .number n => construction "Number" [field "value" (decimal n.value)]
  | .boolean b => construction "Boolean" [field "value" (truthText b)]
  | .character c => construction "Character" [field "value" (Text.quoted [c])]
  | .string text => construction "String" [field "value" (Text.quoted text.toList)]

def fractionText (unscaled : Int) (places : Nat) : List Char :=
  let digits := Nat.toDigits 10 unscaled.natAbs
  let padded := List.replicate (places + 1 - digits.length) '0' ++ digits
  let whole := padded.take (padded.length - places)
  let parts := (padded.drop (padded.length - places)).reverse.dropWhile (· = '0')
  let sign := if unscaled < 0 then ['-'] else []
  sign ++ whole ++ '.' :: (if parts = [] then ['0'] else parts.reverse)

def Plain.description : Plain → List Char
  | .integer n => decimal n
  | .fraction unscaled places => fractionText unscaled places
  | .truth b => truthText b
  | .text characters => Text.quoted characters.toList
  | .absent => "None".toList

namespace Value

mutual

def description : Value → List Char
  | .plain value => value.description
  | .literal value => value.description
  | .symbol name => construction "Symbol" [Text.quoted name.toList]
  | .variable name => construction "Variable" [field "name" (Text.quoted name.toList)]
  | .nil => "Nil".toList
  | .cons head tail =>
    construction "Cons" [field "car" head.description, field "cdr" tail.description]
  | .list items => '[' :: commaSeparated (descriptions items) ++ [']']
  | .quote datum => construction "Quote" [field "datum" datum.description]
  | .time body => construction "Time" [field "body" body.description]
  | .ifElse test consequent alternative =>
    construction "If"
      [field "test" test.description, field "then" consequent.description,
        field "otherwise" alternative.description]
  | .and operands => construction "And" [field "operands" (tuple (descriptions operands))]
  | .or operands => construction "Or" [field "operands" (tuple (descriptions operands))]
  | .begin body => construction "Begin" [field "body" (tuple (descriptions body))]
  | .unlessThen test body =>
    construction "Unless" [field "test" test.description, field "body" body.description]
  | .cond clauses otherwise =>
    construction "Cond"
      [field "clauses" (tuple (descriptions clauses)), field "else_body" otherwise.description]
  | .simple test consequent =>
    construction "Simple"
      [field "test" test.description, field "consequent" consequent.description]
  | .binding test receiver =>
    construction "Binding"
      [field "test" test.description, field "receiver" receiver.description]
  | .bare test => construction "Inconsequential" [field "test" test.description]

def descriptions : List Value → List (List Char)
  | [] => []
  | value :: rest => value.description :: descriptions rest

end

mutual

def height : Value → Nat
  | .plain _ | .literal _ | .symbol _ | .variable _ | .nil => 1
  | .cons head tail => max head.height tail.height + 1
  | .list items => heights items + 1
  | .quote part | .time part | .bare part => part.height + 1
  | .ifElse test consequent alternative =>
    max test.height (max consequent.height alternative.height) + 1
  | .and parts | .or parts | .begin parts => heights parts + 1
  | .unlessThen test part | .simple test part | .binding test part =>
    max test.height part.height + 1
  | .cond clauses otherwise => max (heights clauses) otherwise.height + 1

def heights : List Value → Nat
  | [] => 0
  | value :: rest => max value.height (heights rest)

end

def describe (value : Value) : String := String.ofList value.description

end Value

def Token.describe {α : Type} (embed : α → Value) : Token α → String
  | .opening => "Token(lparen)"
  | .closing => "Token(rparen)"
  | .identifier name => "Token(identifier, " ++ Text.quotedString name ++ ")"
  | .literal value => "Token(literal, " ++ String.ofList value.description ++ ")"
  | .foreign value => "Token(literal, " ++ (embed value).describe ++ ")"

end SchemeReader
