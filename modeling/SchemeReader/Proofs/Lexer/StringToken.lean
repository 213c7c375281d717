import SchemeReader.Proofs.Lexer.Answer
import SchemeReader.Proofs.Literal.Escape
import SchemeReader.Proofs.Token.Spelled

set_option autoImplicit false

namespace SchemeReader

open Text (CharSource)
open TokenSource (after answer)

theorem classify_badEscape {spelling : List Char} {shown : String}
    (made : (classify spelling : Item Empty) = .error (.badEscape shown)) :
    spelling.head? = some '"' := by
  have classified := classify_classified spelling
  rw [made] at classified
  generalize found : Item.error (LexError.badEscape shown) = item at classified
  cases classified with
  | numeral =>
    unfold classifyNumeral at found
    split at found
    · cases found
    · split at found
      · cases found
      · split at found <;> cases found
  | string => rfl
  | marked | refused | name => cases found

theorem Lexeme.badEscape_iff {spelling rest : List Char} (lexeme : Lexeme spelling rest)
    {shown : String} :
    lexemeItem spelling = .error (.badEscape shown) ↔
      ∃ body letter, spelling = '"' :: (body ++ ['"']) ∧
        Escape.unescape body = .error ['\\', letter] ∧ shown = String.ofList ['\\', letter] := by
  cases lexeme with
  | bracket shape =>
    rcases shape with opening | closing
    · simp [lexemeItem_opening opening]
    · simp [lexemeItem_closing closing]
  | @string body _ enclosed =>
    rw [lexemeItem_string, classify_string]
    constructor
    · intro made
      split at made
      next => cases made
      next part named =>
        cases made
        obtain ⟨letter, rfl⟩ := Escape.exists_letter_of_error enclosed named
        exact ⟨body, letter, rfl, named, rfl⟩
    · rintro ⟨body', letter, same, named, rfl⟩
      obtain rfl : body = body' := List.append_cancel_right (List.cons.inj same).2
      rw [named]
  | atom atom =>
    obtain ⟨c, later, rfl, inside⟩ := atom.exists_head
    have unquoted : c ≠ '"' := by
      rintro rfl
      exact absurd inside (by decide)
    rw [atom.lexemeItem_eq]
    constructor
    · intro made
      exact absurd (Option.some.inj (classify_badEscape made)) unquoted
    · rintro ⟨_, _, same, _⟩
      exact absurd (List.cons.inj same).1 unquoted

namespace Lexer

/-- Escapes are undone exactly where all of them are known, and if not the first unknown one is
named, which is a backslash and one character. -/
theorem string_escapes :
    (∀ text : String,
      (Literal.string text).spelling = '"' :: (Escape.escape text.toList ++ ['"']) ∧
        Escape.unescape (Escape.escape text.toList) = .ok text.toList ∧
        (∀ c ∈ Escape.layoutCharacters, c ∉ Escape.escape text.toList) ∧
        ['"'] ∉ Escape.parts (Escape.escape text.toList)) ∧
      (∀ body : List Char,
        (Escape.parts body).flatten = body ∧
          ((∃ text, Escape.unescape body = .ok text) ↔
            ∀ part ∈ Escape.parts body, ¬ Escape.Unknown part) ∧
          ∀ part, Escape.unescape body = .error part ↔
            (Escape.parts body).find? (Escape.Unknown ·) = some part) ∧
      ∀ {σ : Type} [CharSource σ] (kind : LexerKind) (source : σ) (count : Nat) (shown : String),
        answer (start kind source) count = some (.error (.badEscape shown)) ↔
          ∃ body letter,
            LexemeAhead (after (start kind source) count).ahead ('"' :: (body ++ ['"'])) ∧
              Escape.unescape body = .error ['\\', letter] ∧
              shown = String.ofList ['\\', letter] := by
  refine ⟨?_, ?_, ?_⟩
  · intro text
    exact ⟨rfl, Escape.unescape_escape text.toList, Escape.layout_not_mem_escape text.toList,
      (Escape.enclosed_iff.1 (enclosed_escape text.toList)).1⟩
  · intro body
    exact ⟨Escape.flatten_parts body, Escape.exists_unescape_iff,
      fun _ => Escape.unescape_eq_error_iff⟩
  · intro σ _ kind source count shown
    rw [answer_eq_some_iff rfl]
    constructor
    · rintro ⟨spelling, ⟨rest, lexeme, visible⟩, made⟩
      obtain ⟨body, letter, rfl, named, same⟩ := lexeme.badEscape_iff.1 made
      exact ⟨body, letter, ⟨rest, lexeme, visible⟩, named, same⟩
    · rintro ⟨body, letter, ⟨rest, lexeme, visible⟩, named, same⟩
      exact ⟨_, ⟨rest, lexeme, visible⟩, lexeme.badEscape_iff.2 ⟨body, letter, rfl, named, same⟩⟩

theorem string_escapes_crowded :
    '\n' ∈ Escape.layoutCharacters ∧ '\n' ∉ Escape.escape "\n\"\\\\".toList ∧
      Escape.unescape (Escape.escape "\n\"\\\\".toList) = .ok "\n\"\\\\".toList ∧
      Escape.unescape "\\\\\\t\\".toList = .error ['\\'] := by
  obtain ⟨written, bodies, _⟩ := string_escapes
  obtain ⟨_, again, layout, _⟩ := written "\n\"\\\\"
  have member : '\n' ∈ Escape.layoutCharacters := by decide
  exact ⟨member, layout '\n' member, again, ((bodies _).2.2 ['\\']).2 (by decide)⟩

end Lexer

end SchemeReader
