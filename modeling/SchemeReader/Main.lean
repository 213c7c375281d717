import SchemeReader.Cli.Run

set_option autoImplicit false

namespace SchemeReader.Cli

def FileError.ofCode (code : UInt32) (details : String) : FileError :=
  let number := if code < -code then code else -code
  if number = 2 then .notFound
  else if number = 20 then .notDirectory
  else if number = 21 then .isDirectory
  else if number = 36 then .nameTooLong
  else .other number.toNat details

def FileError.ofIO : IO.Error → FileError
  | .noFileOrDirectory _ code details
  | .inappropriateType _ code details
  | .permissionDenied _ code details
  | .invalidArgument _ code details
  | .resourceExhausted _ code details
  | .otherError code details => .ofCode code details
  | failure => .other 5 (toString failure)

def load (path : String) : IO Lookup := do
  try
    let bytes ← IO.FS.readBinFile path
    return (String.fromUTF8? bytes).elim (.fault .notUtf8) .found
  catch failure =>
    return .failed (.ofIO failure)

def loadFiles (arguments : List String) : IO (List (String × Lookup)) := do
  match Options.ofArguments arguments with
  | .ok options =>
    if options.command.isSome then return []
    options.files.mapM fun path => return (path, ← load path)
  | .error _ => return []

def readsInput (arguments : List String) : Bool :=
  match Options.ofArguments arguments with
  | .ok options => options.command.isNone && options.files.isEmpty
  | .error _ => false

def hostFor (arguments : List String) : IO Host := do
  let files ← loadFiles arguments
  let stdin ← IO.getStdin
  let input ← if readsInput arguments then stdin.readToEnd else pure ""
  return {
    environment := { lexer := ← IO.getEnv "KAPPA_LEXER", logLevel := ← IO.getEnv "KAPPA_LOG_LEVEL" }
    input
    open? := fun path => (files.lookup path).getD (.failed .notFound)
    limits := .standard }

end SchemeReader.Cli

def main (arguments : List String) : IO UInt32 := do
  match SchemeReader.Cli.run (← SchemeReader.Cli.hostFor arguments) arguments with
  | .ok report =>
    IO.print report.out
    IO.eprint report.err
    return report.status.toUInt32
  | .error fault =>
    IO.eprintln fault.message
    return 1
