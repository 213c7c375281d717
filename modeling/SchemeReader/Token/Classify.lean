import SchemeReader.Literal.Spelling
import SchemeReader.Token

set_option autoImplicit false

namespace SchemeReader

-- The most digits a number in range has, leading zeros apart.
def significantDigits : Nat := 10

variable {α : Type}

-- The length comes before the conversion, and the conversion before the range.
def classifyNumeral (digits : List Char) : Item α :=
  if significantDigits < (digits.dropWhile (· = '0')).length then
    .error (.invalidLiteral ⟨String.ofList digits, InvalidLiteral.outOfRange⟩)
  else if Fault.digitLimit < digits.length then .fault (.tooManyDigits digits.length)
  else
    match Literal.ofInt (Nat.ofDigitChars 10 digits 0) with
    | .ok literal => .token (.literal literal)
    | .error invalid => .error (.invalidLiteral invalid)

def classifyString (body : List Char) : Item α :=
  if body.getLast? = some '"' then
    match Escape.unescape body.dropLast with
    | .ok text => .token (.literal (.string (String.ofList text)))
    | .error escape => .error (.badEscape (String.ofList escape))
  else .error (.unmatched .malformed (String.ofList ('"' :: body)))

def character? (name : List Char) : Option Char :=
  (namedCharacter? name).or
    (match name with
    | [c] => some c
    | _ => none)

def hashLiteral? (body : List Char) : Option Literal :=
  if body.map Char.toLower = ['t'] then some (.boolean true)
  else if body.map Char.toLower = ['f'] then some (.boolean false)
  else
    match body with
    | '\\' :: name => (character? name).map .character
    | _ => none

def classify (spelling : List Char) : Item α :=
  if spelling ≠ [] ∧ spelling.all Char.isDigit then classifyNumeral spelling
  else
    match spelling with
    | '"' :: body => classifyString body
    | '#' :: body =>
      match hashLiteral? body with
      | some literal => .token (.literal literal)
      | none => .error (.unmatched .malformed (String.ofList spelling))
    | _ => .token (.identifier (String.ofList spelling))

end SchemeReader
