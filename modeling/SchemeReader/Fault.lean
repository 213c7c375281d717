import SchemeReader.Text.Quoted

set_option autoImplicit false

namespace SchemeReader

inductive Fault
  -- A numeral with too many digits to be converted, however small its value.
  | tooManyDigits (count : Nat)
  | invalidIdentifier (shown : String)
  | unknownToken (shown : String)
  | unknownLexer (name : String)
  | lexerSetting (name : String)
  | logLevelSetting (name : String)
  | chunkSize
  | nullInPath
  | notUtf8
deriving DecidableEq

namespace Fault

-- The longest numeral that is converted, leading zeros included.
def digitLimit : Nat := 4300

def message : Fault → String
  | tooManyDigits count =>
    "Exceeds the limit (" ++ toString digitLimit ++
      " digits) for integer string conversion: value has " ++ toString count ++
      " digits; use sys.set_int_max_str_digits() to increase the limit"
  | invalidIdentifier shown => "invalid identifier " ++ shown
  | unknownToken shown => "Unknown token: " ++ shown
  | unknownLexer name => "unknown lexer kind " ++ Text.quotedString name
  | lexerSetting name =>
    "KAPPA_LEXER must be one of char, regex, got " ++ Text.quotedString name
  | logLevelSetting name => "KAPPA_LOG_LEVEL is not a logging level: " ++ Text.quotedString name
  | chunkSize => "chunk_size must be positive"
  | nullInPath => "embedded null byte"
  | notUtf8 => "the file is not encoded in UTF-8"

end Fault

end SchemeReader
