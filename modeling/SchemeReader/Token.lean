import SchemeReader.Fault
import SchemeReader.Literal

set_option autoImplicit false

namespace SchemeReader

inductive Token (α : Type)
  | opening
  | closing
  | identifier (name : String)
  | literal (value : Literal)
  | foreign (value : α)
deriving DecidableEq

inductive Mismatch
  | unterminated
  | malformed
  | shapeless
deriving DecidableEq

inductive LexError
  | unmatched (cause : Mismatch) (text : String)
  | badEscape (escape : String)
  | invalidLiteral (invalid : InvalidLiteral)
deriving DecidableEq

namespace LexError

def message : LexError → String
  | unmatched _ text => "no token matches " ++ Text.quotedString text
  | badEscape escape => "invalid escape sequence " ++ Text.quotedString escape ++ " in string"
  | invalidLiteral invalid => invalid.message

def isUnmatched : LexError → Bool
  | unmatched .. => true
  | _ => false

end LexError

inductive Item (α : Type)
  | token (made : Token α)
  | error (cause : LexError)
  | fault (cause : Fault)
deriving DecidableEq

def Item.isUnmatched {α : Type} : Item α → Bool
  | .error cause => cause.isUnmatched
  | _ => false

def Item.collect {α : Type} : List (Item α) → Except Fault (List (Except LexError (Token α)))
  | [] => .ok []
  | .fault cause :: _ => .error cause
  | .error cause :: rest => (.error cause :: ·) <$> collect rest
  | .token made :: rest => (.ok made :: ·) <$> collect rest

class TokenSource (τ : Type) (α : outParam Type) where
  draw : τ → Option (Item α) × τ
  size : τ → Nat
  size_draw : ∀ tokens : τ, size (draw tokens).2 + (draw tokens).1.toList.length ≤ size tokens

namespace TokenSource

variable {τ α : Type} [TokenSource τ α]

theorem size_lt_of_draw {tokens rest : τ} {item : Item α}
    (drawn : draw tokens = (some item, rest)) : size rest < size tokens := by
  have bound := size_draw tokens
  simp only [drawn, Option.toList_some, List.length_singleton] at bound
  omega

theorem size_draw_le (tokens : τ) : size (draw tokens).2 ≤ size tokens := by
  have bound := size_draw tokens
  omega

def items (tokens : τ) : List (Item α) :=
  match _ : draw tokens with
  | (none, _) => []
  | (some item, rest) => item :: items rest
termination_by size tokens
decreasing_by
  rename_i drawn
  exact size_lt_of_draw drawn

end TokenSource

instance {α : Type} : TokenSource (List (Item α)) α where
  draw
    | [] => (none, [])
    | item :: rest => (some item, rest)
  size := List.length
  size_draw
    | [] => by simp
    | _ :: _ => by simp

theorem items_list {α : Type} (items : List (Item α)) : TokenSource.items items = items := by
  induction items with
  | nil => rw [TokenSource.items]; rfl
  | cons item rest ih => rw [TokenSource.items]; simp [TokenSource.draw, ih]

end SchemeReader
