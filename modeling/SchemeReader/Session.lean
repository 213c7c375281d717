import SchemeReader.Reading

set_option autoImplicit false

namespace SchemeReader

open Text (CharSource)

structure Session where
  kind : LexerKind
  limits : Limits
  forms : Nat
  errors : Nat

namespace Session

def start (kind : LexerKind) (limits : Limits := .standard) : Session :=
  { kind, limits, forms := 0, errors := 0 }

def errorCount (results : List (Except ReadError Expr)) : Nat :=
  results.countP fun
    | .error _ => true
    | .ok _ => false

def count (session : Session) (reading : Reading Empty) : Session :=
  { session with
    forms := session.forms + (reading.results session.limits).length
    errors := session.errors + errorCount (reading.results session.limits) }

def feed {σ : Type} [CharSource σ] (session : Session) (source : σ) :
    Reading Empty × Session :=
  let reading := read session.kind source
  (reading, session.count reading)

end Session

end SchemeReader
