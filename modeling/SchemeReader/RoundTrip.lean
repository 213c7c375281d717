import SchemeReader.Printing
import SchemeReader.Reading
import SchemeReader.Value.Equality

set_option autoImplicit false

namespace SchemeReader

def Expr.equals? (a b : Expr) (limits : Limits := .standard) : Option Bool :=
  (Value.ofExpr a).equals? (Value.ofExpr b) limits

def Expr.isReadFrom? (expr : Expr) (kind : LexerKind) (text : String) (limits : Limits) :
    Option Bool :=
  let reading := read kind text.toList
  match reading.results limits, reading.fault with
  | [.ok other], none => other.equals? expr limits
  | _, _ => some false

structure RoundTrip where
  source : String
  lookahead : Bool
  pattern : Bool

def Expr.roundTrip? (expr : Expr) (limits : Limits := .standard) : Option RoundTrip := do
  let source ← expr.source? limits
  let lookahead ← expr.isReadFrom? .lookahead source limits
  let pattern ← expr.isReadFrom? .pattern source limits
  return { source, lookahead, pattern }

end SchemeReader
