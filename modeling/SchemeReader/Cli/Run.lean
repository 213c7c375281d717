import SchemeReader.Cli.Files
import SchemeReader.Cli.Options
import SchemeReader.Cli.Usage
import SchemeReader.Log
import SchemeReader.Printing
import SchemeReader.Session
import SchemeReader.Text.Chunks
import SchemeReader.Text.Lines

set_option autoImplicit false

namespace SchemeReader.Cli

structure Host where
  environment : Environment
  input : String
  open? : String → Lookup
  limits : Limits := .standard

structure Report where
  status : Nat
  out : String
  err : String

structure Style where
  describe : Bool
  level : LogLevel

def Style.text? (style : Style) (limits : Limits) (expr : Expr) : Option String :=
  if style.describe then (Value.ofExpr expr).describe? limits else expr.source? limits

structure Transcript where
  session : Session
  out : List String
  err : List String

namespace Transcript

def errorLine (message : String) : String := "error: " ++ message

def resultLine (style : Style) (limits : Limits) (result : Except ReadError Expr) :
    String × Bool :=
  match result with
  | .error cause => (errorLine cause.message, false)
  | .ok expr =>
    match style.text? limits expr with
    | some text => (text, false)
    | none => (errorLine SchemeError.nestingTooDeep.message, true)

def records (style : Style) (limits : Limits) (reading : Reading Empty) : List LogRecord :=
  if style.level.rank ≤ LogLevel.debug.rank then reading.forms.flatMap (LogRecord.ofForm limits)
  else []

def feed {σ : Type} [Text.CharSource σ] (style : Style) (transcript : Transcript) (source : σ) :
    Except Fault Transcript :=
  let (reading, session) := transcript.session.feed source
  match reading.fault with
  | some cause => .error cause
  | none =>
    let limits := transcript.session.limits
    let lines := (reading.results limits).map (resultLine style limits)
    .ok
      { session := { session with errors := session.errors + lines.countP (·.2) }
        out := transcript.out ++ lines.map (·.1)
        err := transcript.err ++ (records style limits reading).map LogRecord.line }

def feedLines (style : Style) : Transcript → List (List Char) → Except Fault Transcript
  | transcript, [] => .ok transcript
  | transcript, line :: rest => do feedLines style (← transcript.feed style line) rest

def feedDocument (style : Style) (whole : Bool) (transcript : Transcript) (document : String) :
    Except Fault Transcript :=
  let text := Text.unifyLineEnds document.toList
  if whole then transcript.feed style (Text.Chunks.ofText text)
  else feedLines style transcript (Text.lines text)

def feedFiles (style : Style) (whole : Bool) (open? : String → Lookup) :
    Transcript → List String → Except Fault (Transcript × Bool)
  | transcript, [] => .ok (transcript, true)
  | transcript, path :: rest =>
    match open? path with
    | .fault cause => .error cause
    | .failed error =>
      let line := "Error reading " ++ path ++ ": " ++ error.message path
      .ok ({ transcript with err := transcript.err ++ [line] }, false)
    | .found contents => do
      feedFiles style whole open? (← transcript.feedDocument style whole contents) rest

def summary (session : Session) : LogRecord :=
  { level := .info
    logger := "kappa.cli"
    message :=
      "read " ++ toString session.forms ++ " forms, " ++ toString session.errors ++ " errors" }

def unlines (lines : List String) : String := String.join (lines.map (· ++ "\n"))

def report (style : Style) (transcript : Transcript) : Report :=
  let last :=
    if style.level.rank ≤ LogLevel.info.rank then [(summary transcript.session).line] else []
  { status := if transcript.session.errors = 0 then 0 else 1
    out := unlines transcript.out
    err := unlines (transcript.err ++ last) }

def abandoned (transcript : Transcript) : Report :=
  { status := 1, out := unlines transcript.out, err := unlines transcript.err }

end Transcript

def chooseLevel (options : Options) (environment : Environment) : Except String LogLevel :=
  match options.logLevel with
  | none | some "" => environment.minimumLevel.mapError Fault.message
  | some name =>
    match LogLevel.ofName? (Text.upper name) with
    | some level => .ok level
    | none => .error ("not a logging level: " ++ Text.quotedString name)

def chooseKind (options : Options) (environment : Environment) : Except String LexerKind :=
  match options.lexer with
  | some kind => .ok kind
  | none => environment.lexerKind.mapError Fault.message

def configure (options : Options) (environment : Environment) :
    Except String (LogLevel × LexerKind) :=
  return (← chooseLevel options environment, ← chooseKind options environment)

def execute (host : Host) (options : Options) (style : Style) (kind : LexerKind) :
    Except Fault Report := do
  let fresh : Transcript := { session := .start kind host.limits, out := [], err := [] }
  match options.command, options.files with
  | some code, _ => return (← fresh.feed style code.toList).report style
  | none, [] => return (← fresh.feedDocument style options.whole host.input).report style
  | none, files =>
    let (transcript, complete) ←
      Transcript.feedFiles style options.whole host.open? fresh files
    return if complete then transcript.report style else transcript.abandoned

def refusal (text : String) : Report := { status := 2, out := "", err := text ++ "\n" }

def run (host : Host) (arguments : List String) : Except Fault Report :=
  match Options.ofArguments arguments with
  | .error .help => .ok { status := 0, out := Usage.help, err := "" }
  | .error (.usage error) => .ok (refusal (Usage.synopsis ++ "kappa: error: " ++ error.message))
  | .ok options =>
    match configure options host.environment with
    | .error message => .ok (refusal ("Error: " ++ message))
    | .ok (level, kind) => execute host options { describe := options.describe, level } kind

end SchemeReader.Cli
