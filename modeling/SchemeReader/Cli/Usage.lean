set_option autoImplicit false

namespace SchemeReader.Cli.Usage

def lines (texts : List String) : String := String.join (texts.map (· ++ "\n"))

def synopsis : String := lines [
  "usage: kappa [-h] [-c CODE] [--lexer \x7bchar,regex\x7d] [--whole] [--repr]",
  "             [--log-level LEVEL]",
  "             [FILE ...]"]

def description : String := lines [
  "",
  "kappa - read Scheme source into a typed expression tree",
  "",
  "positional arguments:",
  "  FILE                  Source files (default: stdin)",
  ""]

def optionTable : String := lines [
  "options:",
  "  -h, --help            show this help message and exit",
  "  -c CODE, --command CODE",
  "                        Read CODE instead of files",
  "  --lexer \x7bchar,regex\x7d  Lexer variant (default: $KAPPA_LEXER or char)",
  "  --whole               Read each input as one document instead of line by",
  "                        line",
  "  --repr                Print the Python repr of each expression instead of",
  "                        source text",
  "  --log-level LEVEL     Logging level (default: $KAPPA_LOG_LEVEL or WARNING)",
  ""]

def examples : String := lines [
  "examples:",
  "  kappa                         Read forms from stdin, one line at a time",
  "  kappa prog.scm                Read forms from a file",
  "  kappa --whole prog.scm        Let forms span lines",
  "  kappa -c \"(quote (a b))\"      Read code directly",
  "        "]

def help : String := synopsis ++ description ++ optionTable ++ examples

end SchemeReader.Cli.Usage
