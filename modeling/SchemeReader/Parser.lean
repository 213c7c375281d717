import SchemeReader.Token
import SchemeReader.Tree

set_option autoImplicit false

namespace SchemeReader

inductive ParseError
  | unmatchedClosing
  | unexpectedEnd
  | lexFailure (cause : LexError)
deriving DecidableEq

def ParseError.message : ParseError → String
  | unmatchedClosing => "unmatched right parenthesis"
  | unexpectedEnd => "unexpected EOF"
  | lexFailure cause => "lexer error: " ++ cause.message

inductive Form (α : Type)
  | tree (made : Tree α)
  | error (cause : ParseError)
  | fault (cause : Fault)

-- The innermost list first, and in each list the latest item first.
abbrev OpenLists (α : Type) := List (List (Tree α))

namespace Form

variable {τ α : Type}

def place (made : Tree α) : OpenLists α → OpenLists α ⊕ Form α
  | [] => .inr (.tree made)
  | items :: outer => .inl ((made :: items) :: outer)

def push (lists : OpenLists α) : Item α → OpenLists α ⊕ Form α
  | .fault cause => .inr (.fault cause)
  | .error cause => .inr (.error (.lexFailure cause))
  | .token .opening => .inl ([] :: lists)
  | .token .closing =>
    match lists with
    | [] => .inr (.error .unmatchedClosing)
    | items :: outer => place (.list items.reverse) outer
  | .token (.identifier name) => place (.symbol name) lists
  | .token (.literal value) => place (.literal value) lists
  | .token (.foreign value) => place (.foreign value) lists

def atEnd : OpenLists α → Option (Form α)
  | [] => none
  | _ :: _ => some (.error .unexpectedEnd)

variable [TokenSource τ α]

def resume (lists : OpenLists α) (tokens : τ) : Option (Form α) × τ :=
  match _ : TokenSource.draw tokens with
  | (none, rest) => (atEnd lists, rest)
  | (some item, rest) =>
    match push lists item with
    | .inl opened => resume opened rest
    | .inr form => (some form, rest)
termination_by TokenSource.size tokens
decreasing_by
  rename_i drawn
  exact TokenSource.size_lt_of_draw drawn

def draw (tokens : τ) : Option (Form α) × τ := resume [] tokens

theorem size_resume_le (lists : OpenLists α) (tokens : τ) :
    TokenSource.size (resume lists tokens).2 ≤ TokenSource.size tokens := by
  fun_induction resume lists tokens with
  | case1 _ tokens _ drawn =>
    have bound := TokenSource.size_draw_le tokens
    rwa [drawn] at bound
  | case2 _ tokens _ _ drawn _ _ ih =>
    exact Nat.le_trans ih (Nat.le_of_lt (TokenSource.size_lt_of_draw drawn))
  | case3 _ tokens _ _ drawn =>
    exact Nat.le_of_lt (TokenSource.size_lt_of_draw drawn)

theorem size_lt_of_drawn {tokens rest : τ} {form : Form α}
    (drawn : draw tokens = (some form, rest)) :
    TokenSource.size rest < TokenSource.size tokens := by
  unfold draw at drawn
  rw [resume.eq_def] at drawn
  split at drawn
  · simp [atEnd] at drawn
  next item later first =>
    have shorter := TokenSource.size_lt_of_draw first
    split at drawn
    next opened _ =>
      have bound := size_resume_le opened later
      rw [drawn] at bound
      exact Nat.lt_of_le_of_lt bound shorter
    next =>
      simp only [Prod.mk.injEq] at drawn
      rwa [drawn.2] at shorter

def all (tokens : τ) : List (Form α) :=
  match _ : draw tokens with
  | (none, _) => []
  | (some form, rest) => form :: all rest
termination_by TokenSource.size tokens
decreasing_by
  rename_i drawn
  exact size_lt_of_drawn drawn

end Form

structure Reading (α : Type) where
  forms : List (Except ParseError (Tree α))
  fault : Option Fault

def Reading.ofForms {α : Type} : List (Form α) → Reading α
  | [] => { forms := [], fault := none }
  | .fault cause :: _ => { forms := [], fault := some cause }
  | .error cause :: rest =>
    let later := ofForms rest
    { later with forms := .error cause :: later.forms }
  | .tree made :: rest =>
    let later := ofForms rest
    { later with forms := .ok made :: later.forms }

structure Parser (τ : Type) where
  tokens : τ
  exhausted : Bool

namespace Parser

variable {τ α : Type} [TokenSource τ α]

def start (tokens : τ) : Parser τ := { tokens, exhausted := false }

def next (parser : Parser τ) : Option (Form α) × Parser τ :=
  if parser.exhausted then (none, parser)
  else
    match Form.draw parser.tokens with
    | (none, rest) => (none, { tokens := rest, exhausted := true })
    | (some form, rest) => (some form, { tokens := rest, exhausted := false })

def nextItem (parser : Parser τ) : Option (Item α) × Parser τ :=
  let (item, rest) := TokenSource.draw parser.tokens
  (item, { parser with tokens := rest })

end Parser

end SchemeReader
