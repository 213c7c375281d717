import SchemeReader.Lexer.Lookahead
import SchemeReader.Lexer.Pattern

set_option autoImplicit false

namespace SchemeReader

open Text (CharSource)

inductive LexerKind
  | lookahead
  | pattern
deriving DecidableEq

namespace LexerKind

def name : LexerKind → String
  | lookahead => "char"
  | pattern => "regex"

def ofName? (name : String) : Option LexerKind :=
  if name = "char" then some lookahead
  else if name = "regex" then some pattern
  else none

end LexerKind

inductive Lexer (σ : Type)
  | lookahead (cursor : Cursor σ)
  | pattern (lexer : PatternLexer)

namespace Lexer

variable {σ : Type} [CharSource σ]

def start (kind : LexerKind) (source : σ) : Lexer σ :=
  match kind with
  | .lookahead => .lookahead (Cursor.start source)
  | .pattern => .pattern (PatternLexer.start (CharSource.drain source))

def draw : Lexer σ → Option (Item Empty) × Lexer σ
  | .lookahead cursor =>
    let (item, rest) := cursor.draw
    (item, .lookahead rest)
  | .pattern lexer =>
    let (item, rest) := lexer.draw
    (item, .pattern rest)

def size : Lexer σ → Nat
  | .lookahead cursor => cursor.size
  | .pattern lexer => lexer.size

theorem size_draw (lexer : Lexer σ) :
    lexer.draw.2.size + lexer.draw.1.toList.length ≤ lexer.size := by
  cases lexer with
  | lookahead cursor => exact cursor.size_draw
  | pattern lexer => exact lexer.size_draw

def position : Lexer σ → Nat
  | .lookahead cursor => cursor.taken
  | .pattern lexer => lexer.position

end Lexer

instance {σ : Type} [CharSource σ] : TokenSource (Lexer σ) Empty where
  draw := Lexer.draw
  size := Lexer.size
  size_draw := Lexer.size_draw

end SchemeReader
