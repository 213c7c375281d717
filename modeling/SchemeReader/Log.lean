import SchemeReader.Analysis.Walk
import SchemeReader.Reading
import SchemeReader.Settings

set_option autoImplicit false

namespace SchemeReader

structure LogRecord where
  level : LogLevel
  logger : String
  message : String

namespace LogRecord

def line (record : LogRecord) : String :=
  record.level.name ++ " " ++ record.logger ++ ": " ++ record.message

def debug (logger message : String) : LogRecord := { level := .debug, logger, message }

def ofLexError (error : LexError) : LogRecord :=
  debug "kappa.reader.lexer" <|
    match error with
    | .unmatched .unterminated text => "unterminated string " ++ Text.quotedString text
    | .unmatched .shapeless text => "no token matches " ++ Text.quotedString text
    | other => "lex error: " ++ other.message

def ofParseError (error : ParseError) : List LogRecord :=
  let own := debug "kappa.reader.parser" ("parse error: " ++ error.message)
  match error with
  | .lexFailure cause => [ofLexError cause, own]
  | _ => [own]

def ofDispatch (keyword : Keyword) (operands : Nat) : LogRecord :=
  debug "kappa.analysis.analyzer"
    ("special form " ++ keyword.name ++ " with " ++ toString operands ++ " operands")

def ofSchemeError (error : SchemeError) : LogRecord :=
  debug "kappa.pipeline" <|
    match error with
    | .nestingTooDeep => "analysis failed: recursion limit reached"
    | other => "analysis failed: " ++ other.message

def ofNode (limits : Limits) (node : Node) : List LogRecord :=
  let chosen := (dispatches (some limits.analysis) node).map fun (keyword, operands) =>
    ofDispatch keyword operands
  match analyzeNode limits node with
  | .ok _ => chosen
  | .error cause => chosen ++ [ofSchemeError cause]

def ofForm (limits : Limits) (form : Except ParseError Node) : List LogRecord :=
  match form with
  | .error cause => ofParseError cause
  | .ok node => ofNode limits node

end LogRecord

end SchemeReader
