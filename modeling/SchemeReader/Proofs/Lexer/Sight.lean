import SchemeReader.Proofs.Lexer.Draw
import SchemeReader.Proofs.Token.Stream

set_option autoImplicit false

namespace SchemeReader

open Text (CharSource)
open TokenSource (items items_of_end items_of_item)

variable {σ ρ : Type} [CharSource σ] [CharSource ρ]

namespace Cursor

def SameStep {β : Type} (first : β × Cursor σ) (second : β × Cursor ρ) : Prop :=
  first.1 = second.1 ∧ first.2.ahead = second.2.ahead

variable {first : Cursor σ} {second : Cursor ρ}

theorem ahead_closeIf (condition : Bool) (cursor : Cursor σ) :
    (cursor.closeIf condition).ahead = if condition then [] else cursor.ahead := by
  cases condition <;> rfl

theorem lexeme_quote_same (level : first.ahead = second.ahead) :
    (first.lexeme '"').1 = (second.lexeme '"').1 ∧
      ((first.lexeme '"').1.isUnmatched = false →
        (first.lexeme '"').2.ahead = (second.lexeme '"').2.ahead) := by
  have left := ahead_stringBody first
  have right := ahead_stringBody second
  rw [level] at left
  cases result : Pattern.stringBody second.ahead with
  | some found =>
    simp only [result] at left right
    simp only [lexeme, if_true, left, right, implies_true, and_self]
  | none =>
    simp only [result] at left right
    simp [lexeme, left, right, Item.isUnmatched, LexError.isUnmatched]

theorem lexeme_atom_same {c : Char} (inside : isTerminator c = false)
    (level : first.ahead = second.ahead) :
    SameStep (first.lexeme c) (second.lexeme c) := by
  have quote : c ≠ '"' := by
    rintro rfl
    exact absurd inside (by decide)
  obtain ⟨body, rest⟩ := ahead_atomBody inside first
  obtain ⟨body', rest'⟩ := ahead_atomBody inside second
  rw [level] at body rest
  simp only [SameStep, lexeme, quote, if_false, body, body', rest, rest', and_self]

theorem itemFrom_same {c : Char} (visible : isSpace c = false)
    (level : first.ahead = second.ahead) :
    SameStep (first.itemFrom c) (second.itemFrom c) := by
  unfold itemFrom
  split
  next => exact ⟨rfl, level⟩
  next notOpening =>
    split
    next => exact ⟨rfl, level⟩
    next notClosing =>
      by_cases quote : c = '"'
      · subst quote
        obtain ⟨item, rest⟩ := lexeme_quote_same level
        refine ⟨item, ?_⟩
        simp only [ahead_closeIf, ← item]
        split
        next => rfl
        next accepted => exact rest (by simpa using accepted)
      · have inside : isTerminator c = false := by simp [isTerminator, *]
        obtain ⟨item, rest⟩ := lexeme_atom_same inside level
        refine ⟨item, ?_⟩
        simp only [ahead_closeIf, item, rest]

theorem take_same (visible : ∀ c ∈ first.ahead.head?, isSpace c = false)
    (level : first.ahead = second.ahead) : SameStep first.take second.take := by
  cases here : second.ahead with
  | nil =>
    have ended := level.trans here
    simp only [SameStep, take, peek_of_ahead_nil ended, peek_of_ahead_nil here, level, and_self]
  | cons c text =>
    obtain ⟨found, behind⟩ := peek_of_ahead (level.trans here)
    obtain ⟨found', behind'⟩ := peek_of_ahead here
    have inside := visible c (by simp [level, here])
    obtain ⟨item, rest⟩ := itemFrom_same inside (behind.trans behind'.symm)
    simp only [SameStep, take, found, found', item, rest, and_self]

theorem draw_same (level : first.ahead.dropWhile isSpace = second.ahead.dropWhile isSpace) :
    SameStep first.draw second.draw := by
  have skipped : first.skipSpace.ahead = first.ahead.dropWhile isSpace :=
    (ahead_takeWhile isSpace first).2
  have skipped' : second.skipSpace.ahead = second.ahead.dropWhile isSpace :=
    (ahead_takeWhile isSpace second).2
  apply take_same
  · rw [skipped]
    exact visible_dropWhile first.ahead
  · rw [skipped, skipped', level]

end Cursor

theorem PatternLexer.draw_same {first second : PatternLexer}
    (level : first.rest.dropWhile isSpace = second.rest.dropWhile isSpace) :
    first.draw.1 = second.draw.1 ∧ first.draw.2.rest = second.draw.2.rest := by
  have skipped : first.skipSpace.rest = second.skipSpace.rest := level
  unfold draw take
  rw [skipped]
  split
  next ended => exact ⟨rfl, skipped⟩
  next c text here =>
    split
    · exact ⟨rfl, rfl⟩
    · split
      · exact ⟨rfl, rfl⟩
      · split <;> exact ⟨rfl, rfl⟩

namespace Lexer

variable {first : Lexer σ} {second : Lexer ρ}

theorem draw_same (kind : first.kind = second.kind)
    (level : first.ahead.dropWhile isSpace = second.ahead.dropWhile isSpace) :
    first.draw.1 = second.draw.1 ∧ first.draw.2.ahead = second.draw.2.ahead := by
  cases first with
  | lookahead cursor =>
    cases second with
    | lookahead cursor' => exact Cursor.draw_same level
    | pattern lexer' => cases kind
  | pattern lexer =>
    cases second with
    | lookahead cursor' => cases kind
    | pattern lexer' => exact PatternLexer.draw_same level

theorem items_eq_of_visible (kind : first.kind = second.kind)
    (level : first.ahead.dropWhile isSpace = second.ahead.dropWhile isSpace) :
    items first = items second := by
  fun_induction items first generalizing second with
  | case1 first rest drawn =>
    have same := (draw_same kind level).1
    have ended : first.draw = (none, rest) := drawn
    rw [ended] at same
    have ended' : TokenSource.draw second = (none, second.draw.2) := Prod.ext same.symm rfl
    exact (items_of_end ended').symm
  | case2 first item rest drawn ih =>
    obtain ⟨same, behind⟩ := draw_same kind level
    have kind' : rest.kind = second.draw.2.kind := by
      rw [kind_of_draw drawn, kind_draw, kind]
    have first' : first.draw = (some item, rest) := drawn
    rw [first'] at same behind
    have later : TokenSource.draw second = (some item, second.draw.2) := Prod.ext same.symm rfl
    rw [items_of_item later, ih kind' (by rw [behind])]

theorem items_start_drain (kind : LexerKind) (source : σ) :
    items (start kind source) = items (start kind (CharSource.drain source)) := by
  apply items_eq_of_visible
  · rw [kind_start, kind_start]
  · rw [ahead_start, ahead_start, Text.drain_list]

end Lexer

end SchemeReader
