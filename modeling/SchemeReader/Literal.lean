import SchemeReader.Text.Quoted

set_option autoImplicit false

namespace SchemeReader

structure InvalidLiteral where
  text : String
  reason : String
deriving DecidableEq

namespace InvalidLiteral

def outOfRange : String := "out of 32-bit signed range"

def notInteger : String := "not an integer"

def notOneCharacter : String := "a character holds exactly one code point"

def message (invalid : InvalidLiteral) : String :=
  "invalid literal " ++ Text.quotedString invalid.text ++ ": " ++ invalid.reason

end InvalidLiteral

def decimal (n : Int) : List Char :=
  match n with
  | .ofNat n => Nat.toDigits 10 n
  | .negSucc n => '-' :: Nat.toDigits 10 (n + 1)

structure Number where
  value : Int
  least : -2147483648 ≤ value
  greatest : value ≤ 2147483647
deriving DecidableEq

def Number.ofInt (n : Int) : Except InvalidLiteral Number :=
  if range : -2147483648 ≤ n ∧ n ≤ 2147483647 then .ok ⟨n, range.1, range.2⟩
  else .error ⟨String.ofList (decimal n), InvalidLiteral.outOfRange⟩

inductive Literal
  | number (value : Number)
  | boolean (value : Bool)
  | character (value : Char)
  | string (value : String)
deriving DecidableEq

namespace Literal

def ofInt (n : Int) : Except InvalidLiteral Literal := .number <$> Number.ofInt n

def ofCharText (text : String) : Except InvalidLiteral Literal :=
  match text.toList with
  | [c] => .ok (.character c)
  | _ => .error ⟨text, InvalidLiteral.notOneCharacter⟩

end Literal

end SchemeReader
