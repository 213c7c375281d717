import SchemeReader.Lexer
import SchemeReader.Text.DecimalDigit
import SchemeReader.Text.Quoted

set_option autoImplicit false

namespace SchemeReader.Cli

inductive Switch
  | help
  | command
  | lexer
  | whole
  | describe
  | logLevel
deriving DecidableEq

namespace Switch

def takesValue : Switch → Bool
  | command | lexer | logLevel => true
  | help | whole | describe => false

def spellings : List (String × Switch) :=
  [("-h", help), ("--help", help), ("-c", command), ("--command", command), ("--lexer", lexer),
    ("--whole", whole), ("--repr", describe), ("--log-level", logLevel)]

def title (switch : Switch) : String :=
  "/".intercalate ((spellings.filter (·.2 = switch)).map (·.1))

end Switch

inductive UsageError
  | ambiguous (argument : String) (candidates : List String)
  | missingValue (switch : Switch)
  | unexpectedValue (switch : Switch) (value : String)
  | unknownLexer (name : String)
  | unrecognized (arguments : List String)
deriving DecidableEq

namespace UsageError

def about (switch : Switch) (complaint : String) : String :=
  "argument " ++ switch.title ++ ": " ++ complaint

def message : UsageError → String
  | ambiguous argument candidates =>
    "ambiguous option: " ++ argument ++ " could match " ++ ", ".intercalate candidates
  | missingValue switch => about switch "expected one argument"
  | unexpectedValue switch value =>
    about switch ("ignored explicit argument " ++ Text.quotedString value)
  | unknownLexer name =>
    about .lexer
      ("invalid choice: " ++ Text.quotedString name ++ " (choose from 'char', 'regex')")
  | unrecognized arguments => "unrecognized arguments: " ++ " ".intercalate arguments

end UsageError

inductive Argument
  | word (text : String)
  | separator
  | switch (switch : Switch) (oneLetter : Bool) (value : Option String)
  | unknown (text : String)

namespace Argument

-- A line feed at the end does no harm.
def isNegativeNumber (text : List Char) : Bool :=
  match text with
  | '-' :: rest =>
    let body := if rest.getLast? = some '\n' then rest.dropLast else rest
    match body.dropWhile Text.isDecimalDigit with
    | [] => body ≠ []
    | '.' :: places => places ≠ [] && places.all Text.isDecimalDigit
    | _ => false
  | _ => false

def splitValue (text : List Char) : List Char × Option String :=
  let name := text.takeWhile (· ≠ '=')
  match text.dropWhile (· ≠ '=') with
  | [] => (name, none)
  | _ :: value => (name, some (String.ofList value))

def candidates (beginning : List Char) : List (String × Switch) :=
  Switch.spellings.filter fun (spelling, _) => beginning.isPrefixOf spelling.toList

def unknownOrWord (text : String) : Argument :=
  if isNegativeNumber text.toList || ' ' ∈ text.toList then .word text else .unknown text

def isLong (text : String) : Bool := ['-', '-'].isPrefixOf text.toList

def sortLong (text : String) : Except UsageError Argument :=
  let (name, value) := splitValue text.toList
  match candidates name with
  | [] => .ok (unknownOrWord text)
  | [(_, found)] => .ok (.switch found false value)
  | several => .error (.ambiguous text (several.map (·.1)))

def sortShort (text : String) : Argument :=
  match Switch.spellings.lookup (String.ofList (text.toList.take 2)) with
  | some found => .switch found true (some (String.ofList (text.toList.drop 2)))
  | none => unknownOrWord text

def sort (text : String) : Except UsageError Argument :=
  if text.toList.head? ≠ some '-' then .ok (.word text)
  else
    match Switch.spellings.lookup text with
    | some found => .ok (.switch found false none)
    | none =>
      if text = "-" then .ok (.word text)
      else
        let (name, value) := splitValue text.toList
        match value, Switch.spellings.lookup (String.ofList name) with
        | some value, some found => .ok (.switch found (!isLong text) (some value))
        | _, _ =>
          if isLong text then sortLong text else .ok (sortShort text)

def sortAll : List String → Except UsageError (List Argument)
  | [] => .ok []
  | text :: rest =>
    if text = "--" then .ok (.separator :: rest.map .word)
    else return (← sort text) :: (← sortAll rest)

end Argument

structure Options where
  command : Option String
  lexer : Option LexerKind
  whole : Bool
  describe : Bool
  logLevel : Option String
  files : List String

inductive Stop
  | help
  | usage (error : UsageError)

inductive FileRun
  | ahead
  | open
  | over
deriving DecidableEq

structure Taking where
  options : Options
  run : FileRun
  extras : List String

namespace Taking

def start : Taking :=
  { options :=
      { command := none, lexer := none, whole := false, describe := false, logLevel := none,
        files := [] }
    run := .ahead
    extras := [] }

def word (taking : Taking) (text : String) : Taking :=
  if taking.run = .over then { taking with extras := taking.extras ++ [text] }
  else
    { taking with
      options := { taking.options with files := taking.options.files ++ [text] }
      run := .open }

def closeRun (taking : Taking) : Taking :=
  if taking.run = .open then { taking with run := .over } else taking

def unknown (taking : Taking) (text : String) : Taking :=
  { taking with extras := taking.extras ++ [text] }

def flag (taking : Taking) (switch : Switch) : Except Stop Taking :=
  match switch with
  | .help => .error .help
  | .whole => .ok { taking with options := { taking.options with whole := true } }
  | .describe => .ok { taking with options := { taking.options with describe := true } }
  | .command | .lexer | .logLevel => .error (.usage (.missingValue switch))

-- The separator is dropped here too: then there is no code in the argument, and a setting is as
-- the environment has it.
def value (taking : Taking) (switch : Switch) (text : String) : Except Stop Taking :=
  let options := taking.options
  let given := if text = "--" then none else some text
  match switch with
  | .command => .ok { taking with options := { options with command := some (given.getD "") } }
  | .logLevel => .ok { taking with options := { options with logLevel := given } }
  | .lexer =>
    match given with
    | none => .ok { taking with options := { options with lexer := none } }
    | some name =>
      match LexerKind.ofName? name with
      | some kind => .ok { taking with options := { options with lexer := some kind } }
      | none => .error (.usage (.unknownLexer name))
  | .help | .whole | .describe => .error (.usage (.unexpectedValue switch text))

def helpCluster (letters : List Char) (next : Option Argument) : Stop :=
  match letters with
  | [] => .help
  | 'h' :: rest => helpCluster rest next
  | ['c'] =>
    match next with
    | some (.word _) => .help
    | _ => .usage (.missingValue .command)
  | 'c' :: _ => .help
  | _ => .usage (.unexpectedValue .help (String.ofList letters))

def switchWith (taking : Taking) (switch : Switch) (oneLetter : Bool) (text : String)
    (next : Option Argument) : Except Stop Taking :=
  if switch.takesValue then taking.value switch text
  else if oneLetter && text ≠ "" then .error (helpCluster text.toList next)
  else .error (.usage (.unexpectedValue switch text))

def all : Taking → List Argument → Except Stop Taking
  | taking, [] => .ok taking
  | taking, .word text :: rest => all (taking.word text) rest
  | taking, .separator :: rest => all (taking.word "--") rest
  | taking, .unknown text :: rest => all (taking.closeRun.unknown text) rest
  | taking, .switch switch oneLetter (some text) :: rest => do
    all (← taking.closeRun.switchWith switch oneLetter text rest.head?) rest
  | taking, .switch switch _ none :: rest =>
    if switch.takesValue then
      match rest with
      | .word text :: later => do all (← taking.closeRun.value switch text) later
      | _ => .error (.usage (.missingValue switch))
    else do all (← taking.closeRun.flag switch) rest

end Taking

def Options.ofArguments (arguments : List String) : Except Stop Options := do
  let sorted ← (Argument.sortAll arguments).mapError .usage
  let taking ← Taking.all .start sorted
  if taking.extras ≠ [] then .error (.usage (.unrecognized taking.extras))
  else .ok { taking.options with files := taking.options.files.erase "--" }

end SchemeReader.Cli
