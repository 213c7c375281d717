import SchemeReader.Analysis.Keyword

set_option autoImplicit false

namespace SchemeReader

inductive ClauseFlaw
  | lastNotElse
  | notList
  | noArrow
  | length (got : Nat)
deriving DecidableEq

def ClauseFlaw.message : ClauseFlaw → String
  | lastNotElse => "cond: last clause must be (else <expression>)"
  | notList => "cond: clause must be a list"
  | noArrow => "cond: three-element clause must be (test => receiver)"
  | length got => "cond: clause must have 1 to 3 elements, got " ++ toString got

structure ArityMismatch where
  keyword : String
  arity : Arity
  got : Nat
deriving DecidableEq

def ArityMismatch.message (mismatch : ArityMismatch) : String :=
  mismatch.keyword ++ ": expected " ++ mismatch.arity.describe ++ ", got " ++
    toString mismatch.got

inductive SchemeError
  | emptyApplication
  | unhandledKeyword (name : String)
  | applicationNotImplemented
  | arityMismatch (mismatch : ArityMismatch)
  | malformedClause (flaw : ClauseFlaw)
  | nestingTooDeep
deriving DecidableEq

def SchemeError.message : SchemeError → String
  | emptyApplication => "unexpected nil: empty application"
  | unhandledKeyword name => "unhandled keyword " ++ name
  | applicationNotImplemented => "application not implemented"
  | arityMismatch mismatch => mismatch.message
  | malformedClause flaw => flaw.message
  | nestingTooDeep => "form nested too deeply"

-- The last two name a foreign value in the tree.
inductive Rejection (α : Type)
  | scheme (error : SchemeError)
  | notNode (value : α)
  | notQuotable (value : α)
deriving DecidableEq

def checkArity (keyword : String) (arity : Arity) (got : Nat) : Except ArityMismatch Unit :=
  if arity.admits got then .ok () else .error { keyword, arity, got }

end SchemeReader
