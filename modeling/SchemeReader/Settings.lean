import SchemeReader.Fault
import SchemeReader.Lexer
import SchemeReader.Text.Blank
import SchemeReader.Text.Casing

set_option autoImplicit false

namespace SchemeReader

inductive LogLevel
  | critical
  | error
  | warning
  | info
  | debug
  | notSet
deriving DecidableEq

namespace LogLevel

def rank : LogLevel → Nat
  | critical => 50
  | error => 40
  | warning => 30
  | info => 20
  | debug => 10
  | notSet => 0

def name : LogLevel → String
  | critical => "CRITICAL"
  | error => "ERROR"
  | warning => "WARNING"
  | info => "INFO"
  | debug => "DEBUG"
  | notSet => "NOTSET"

def names : List (String × LogLevel) :=
  [("CRITICAL", critical), ("FATAL", critical), ("ERROR", error), ("WARNING", warning),
    ("WARN", warning), ("INFO", info), ("DEBUG", debug), ("NOTSET", notSet)]

def ofName? (name : String) : Option LogLevel := names.lookup name

end LogLevel

structure Environment where
  lexer : Option String
  logLevel : Option String

namespace Environment

def setting? (raw : Option String) : Option String :=
  match raw.map Text.strip with
  | some "" | none => none
  | some value => some value

def lexerKind (environment : Environment) : Except Fault LexerKind :=
  match setting? environment.lexer with
  | none => .ok .lookahead
  | some value =>
    let name := Text.lower value
    match LexerKind.ofName? name with
    | some kind => .ok kind
    | none => .error (.lexerSetting name)

def minimumLevel (environment : Environment) : Except Fault LogLevel :=
  match setting? environment.logLevel with
  | none => .ok .warning
  | some value =>
    let name := Text.upper value
    match LogLevel.ofName? name with
    | some level => .ok level
    | none => .error (.logLevelSetting name)

def chooseLexer (environment : Environment) (name : String) : Except Fault LexerKind :=
  if name = "" then environment.lexerKind
  else
    match LexerKind.ofName? name with
    | some kind => .ok kind
    | none => .error (.unknownLexer name)

end Environment

end SchemeReader
