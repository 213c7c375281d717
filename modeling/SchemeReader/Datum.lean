import SchemeReader.Literal.Spelling
import SchemeReader.Text.Parenthesized

set_option autoImplicit false

namespace SchemeReader

inductive Datum
  | literal (value : Literal)
  | symbol (name : String)
  | nil
  | cons (head tail : Datum)
deriving DecidableEq

namespace Datum

def ofList (items : List Datum) : Datum := items.foldr cons nil

def elements : Datum → List Datum
  | cons head tail => head :: tail.elements
  | _ => []

def terminator : Datum → Datum
  | cons _ tail => tail.terminator
  | other => other

theorem elements_ofList (items : List Datum) : (ofList items).elements = items := by
  induction items with
  | nil => rfl
  | cons item rest ih =>
    simp only [ofList, List.foldr_cons, elements] at ih ⊢
    rw [ih]

def depth : Datum → Nat
  | cons head tail => max (head.depth + 1) tail.depth
  | nil => 1
  | _ => 0

mutual

def spelling : Datum → List Char
  | literal value => value.spelling
  | symbol name => name.toList
  | nil => Text.parenthesized []
  | cons head tail => Text.parenthesized (head.spelling :: tail.tailSpellings)

def tailSpellings : Datum → List (List Char)
  | nil => []
  | cons head tail => head.spelling :: tail.tailSpellings
  | literal value => [['.'], value.spelling]
  | symbol name => [['.'], name.toList]

end

def source (datum : Datum) : String := String.ofList datum.spelling

end Datum

end SchemeReader
