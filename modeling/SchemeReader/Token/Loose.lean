import SchemeReader.Value.Checked

set_option autoImplicit false

namespace SchemeReader

structure LooseToken where
  kind : String
  content : Option Value

namespace LooseToken

def describe (token : LooseToken) : String :=
  match token.content with
  | none | some (.plain .absent) => "Token(" ++ token.kind ++ ")"
  | some content => "Token(" ++ token.kind ++ ", " ++ content.describe ++ ")"

def value (token : LooseToken) : Value := token.content.getD (.plain .absent)

def identifierItem (value : Value) : Item Value :=
  match value with
  | .plain plain =>
    match Value.checkIdentifier plain with
    | .ok name => .token (.identifier name)
    | .error fault => .fault fault
  | other => .fault (.invalidIdentifier other.describe)

def literalItem (value : Value) : Item Value :=
  match value with
  | .literal literal => .token (.literal literal)
  | other => .token (.foreign other)

def item (token : LooseToken) : Item Value :=
  if token.kind = "lparen" then .token .opening
  else if token.kind = "rparen" then .token .closing
  else if token.kind = "identifier" then identifierItem token.value
  else if token.kind = "literal" then literalItem token.value
  else .fault (.unknownToken token.describe)

end LooseToken

inductive LooseItem
  | token (token : LooseToken)
  | error (error : LexError)

def openAfter (lists : Nat) : Item Value → Nat
  | .token .opening => lists + 1
  | .token .closing => lists - 1
  | .token _ => lists
  | .error _ | .fault _ => 0

def looseItems (lists : Nat) : List LooseItem → List (Item Value)
  | [] => []
  | .error error :: rest => .error error :: looseItems 0 rest
  | .token token :: rest =>
    match lists, token.item with
    | 0, .token (.foreign (.plain .absent)) => []
    | _, item => item :: looseItems (openAfter lists item) rest

end SchemeReader
