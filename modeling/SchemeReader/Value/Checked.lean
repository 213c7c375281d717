import SchemeReader.Analysis
import SchemeReader.Limits
import SchemeReader.Value.Description

set_option autoImplicit false

namespace SchemeReader.Value

inductive Refusal
  | literal (invalid : InvalidLiteral)
  | fault (fault : Fault)

def number (value : Plain) : Except Refusal Value :=
  match value with
  | .integer n => (Literal.ofInt n).mapError .literal |>.map .literal
  | other => .error (.literal ⟨String.ofList other.description, InvalidLiteral.notInteger⟩)

def character (text : String) : Except Refusal Value :=
  (Literal.ofCharText text).mapError .literal |>.map .literal

def checkIdentifier (value : Plain) : Except Fault String :=
  match value with
  | .text name =>
    if name = "" then .error (.invalidIdentifier (Text.quotedString name)) else .ok name
  | other => .error (.invalidIdentifier (String.ofList other.description))

def identifier (value : Plain) : Except Refusal Value :=
  (checkIdentifier value).mapError .fault |>.map .symbol

def immutableSymbol : String := "Symbol is immutable"

def analyzed (value : Value) (limits : Limits := .standard) : Except (Rejection Value) Expr :=
  analyzeWithin (some limits.analysis) value.toTree

def quotation (value : Value) : Except (Rejection Value) Datum :=
  (Datum.ofTree value.toTree).mapError .notQuotable

end SchemeReader.Value

namespace SchemeReader

def Rejection.message : Rejection Value → String
  | .scheme error => error.message
  | .notNode value => "Not a node: " ++ value.describe
  | .notQuotable value => "Cannot quote " ++ value.describe

end SchemeReader
