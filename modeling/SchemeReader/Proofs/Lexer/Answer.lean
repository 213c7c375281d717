import SchemeReader.Proofs.Lexer.Draw
import SchemeReader.Proofs.Token.Stream

set_option autoImplicit false

namespace SchemeReader

open Text (CharSource)
open TokenSource (after answer)

def LexemeAhead (text spelling : List Char) : Prop :=
  ∃ rest, Lexeme spelling rest ∧ text.dropWhile isSpace = spelling ++ rest

namespace Lexer

variable {σ : Type} [CharSource σ] {lexer : Lexer σ} {item : Item Empty}

theorem draw_eq_some_iff (accepted : item.isUnmatched = false) :
    lexer.draw.1 = some item ↔
      ∃ spelling, LexemeAhead lexer.ahead spelling ∧ lexemeItem spelling = item := by
  rcases lexer.draw_take.outcome with ⟨nothing, ended, _⟩ |
      ⟨spelling, lexeme, visible, drawn, _⟩ | ⟨unreadable, cause, shown, drawn, _⟩
  · rw [ended]
    simp only [reduceCtorEq, false_iff]
    rintro ⟨spelling, ⟨rest, lexeme, visible⟩, _⟩
    rw [nothing] at visible
    exact lexeme.ne_nil (List.append_eq_nil_iff.1 visible.symm).1
  · rw [drawn, Option.some.injEq]
    constructor
    · intro made
      exact ⟨spelling, ⟨_, lexeme, visible⟩, made⟩
    · rintro ⟨spelling', ⟨rest, lexeme', visible'⟩, made⟩
      obtain ⟨rfl, _⟩ := lexeme.unique lexeme' (visible.symm.trans visible')
      exact made
  · rw [drawn, Option.some.injEq]
    constructor
    · rintro rfl
      cases accepted
    · rintro ⟨spelling, ⟨rest, lexeme, visible⟩, rfl⟩
      rw [visible] at unreadable
      rw [unreadable.isUnmatched lexeme] at accepted
      cases accepted

theorem answer_eq_some_iff {count : Nat} (accepted : item.isUnmatched = false) :
    answer lexer count = some item ↔
      ∃ spelling, LexemeAhead (after lexer count).ahead spelling ∧ lexemeItem spelling = item :=
  draw_eq_some_iff accepted

end Lexer

end SchemeReader
