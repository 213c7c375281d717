import SchemeReader.Analysis
import SchemeReader.Lexer
import SchemeReader.Limits
import SchemeReader.Parser

set_option autoImplicit false

namespace SchemeReader

open Text (CharSource)

inductive ReadError
  | parse (cause : ParseError)
  | scheme (cause : SchemeError)
deriving DecidableEq

def ReadError.message : ReadError → String
  | parse cause => cause.message
  | scheme cause => cause.message

def analyzeNode (limits : Limits) (node : Node) : Except SchemeError Expr :=
  match analyzeWithin (some limits.analysis) node with
  | .ok expr => .ok expr
  | .error (.scheme cause) => .error cause
  | .error (.notNode value) | .error (.notQuotable value) => nomatch value

def Reading.result (limits : Limits) (form : Except ParseError Node) : Except ReadError Expr :=
  match form with
  | .error cause => .error (.parse cause)
  | .ok node => (analyzeNode limits node).mapError .scheme

def Reading.results (reading : Reading Empty) (limits : Limits := .standard) :
    List (Except ReadError Expr) :=
  reading.forms.map (Reading.result limits)

def parse {σ : Type} [CharSource σ] (kind : LexerKind) (source : σ) : List (Form Empty) :=
  Form.all (Lexer.start kind source)

def read {σ : Type} [CharSource σ] (kind : LexerKind) (source : σ) : Reading Empty :=
  Reading.ofForms (parse kind source)

inductive FirstFailure
  | error (cause : ReadError)
  | fault (cause : Fault)

def readFirst {σ : Type} [CharSource σ] (kind : LexerKind) (source : σ)
    (limits : Limits := .standard) : Except FirstFailure Expr :=
  let reading := read kind source
  match reading.results limits, reading.fault with
  | result :: _, _ => result.mapError .error
  | [], some cause => .error (.fault cause)
  | [], none => .error (.error (.parse .unexpectedEnd))

end SchemeReader
