set_option autoImplicit false

namespace SchemeReader

inductive Keyword
  | quote
  | time
  | ifElse
  | and
  | or
  | begin
  | unlessThen
  | cond
deriving DecidableEq

namespace Keyword

def name : Keyword → String
  | quote => "quote"
  | time => "time"
  | ifElse => "if"
  | and => "and"
  | or => "or"
  | begin => "begin"
  | unlessThen => "unless"
  | cond => "cond"

def all : List Keyword := [quote, time, ifElse, and, or, begin, unlessThen, cond]

def ofName? (name : String) : Option Keyword := all.find? (·.name = name)

theorem ofName?_name (keyword : Keyword) : ofName? keyword.name = some keyword := by
  cases keyword <;> decide

theorem name_of_ofName? {name : String} {keyword : Keyword}
    (found : ofName? name = some keyword) : keyword.name = name := by
  simpa using List.find?_some found

end Keyword

inductive Arity
  | exactly (count : Nat)
  | atLeast (count : Nat)
deriving DecidableEq

namespace Arity

def count : Arity → Nat
  | exactly count | atLeast count => count

def isMinimum : Arity → Bool
  | exactly _ => false
  | atLeast _ => true

def admits (arity : Arity) (got : Nat) : Bool :=
  match arity with
  | exactly count => got = count
  | atLeast count => count ≤ got

def describe : Arity → String
  | exactly count => toString count
  | atLeast count => "at least " ++ toString count

end Arity

def Keyword.arity : Keyword → Arity
  | quote | and | or => .atLeast 0
  | begin | cond => .atLeast 1
  | time => .exactly 1
  | unlessThen => .exactly 2
  | ifElse => .exactly 3

end SchemeReader
