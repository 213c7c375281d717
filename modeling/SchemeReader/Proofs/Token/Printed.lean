import SchemeReader.Literal.Spelling
import SchemeReader.Proofs.Text.OneLine
import SchemeReader.Proofs.Token.Origin

set_option autoImplicit false

namespace SchemeReader

def Token.spelling : Token Empty → List Char
  | .opening => ['(']
  | .closing => [')']
  | .identifier name => name.toList
  | .literal value => value.spelling
  | .foreign value => nomatch value

def IsInline (c : Char) : Prop := c ≠ '\n' ∧ c ≠ '\r'

instance : DecidablePred IsInline :=
  fun c => inferInstanceAs (Decidable (c ≠ '\n' ∧ c ≠ '\r'))

theorem isInline_of_all {text : List Char} (all : text.all (fun c => decide (IsInline c)) = true)
    {c : Char} (member : c ∈ text) : IsInline c :=
  of_decide_eq_true (List.all_eq_true.1 all c member)

theorem isInline_of_inside {c : Char} (inside : isTerminator c = false) : IsInline c := by
  constructor
  · rintro rfl
    cases inside
  · rintro rfl
    cases inside

theorem isInline_of_mem_decimal {n : Int} {c : Char} (member : c ∈ decimal n) : IsInline c := by
  rcases sign_or_digit_of_mem_decimal member with rfl | digit
  · decide
  · exact isInline_of_inside (isDigit_inside digit)

theorem isInline_of_mem_escapeChar {c d : Char} (member : c ∈ Escape.escapeChar d) :
    IsInline c := by
  unfold Escape.escapeChar at member
  split at member
  · exact isInline_of_all (by decide) member
  · split at member
    · exact isInline_of_all (by decide) member
    · split at member
      · exact isInline_of_all (by decide) member
      · split at member
        · exact isInline_of_all (by decide) member
        · split at member
          · exact isInline_of_all (by decide) member
          next newline _ returns =>
            rw [List.mem_singleton.1 member]
            exact ⟨newline, returns⟩

theorem isInline_of_mem_characterName {c d : Char} (member : c ∈ characterName d) :
    IsInline c ∨ (c = '\r' ∧ d = '\r') := by
  unfold characterName at member
  split at member
  · exact .inl (isInline_of_all (by decide) member)
  next newline =>
    split at member
    · exact .inl (isInline_of_all (by decide) member)
    next =>
      obtain rfl := List.mem_singleton.1 member
      by_cases returns : c = '\r'
      · exact .inr ⟨returns, returns⟩
      · exact .inl ⟨newline, returns⟩

namespace Literal

theorem isInline_of_mem_spelling {value : Literal} {c : Char} (member : c ∈ value.spelling) :
    IsInline c ∨ (c = '\r' ∧ value = .character '\r') := by
  cases value with
  | number n => exact .inl (isInline_of_mem_decimal member)
  | boolean truth =>
    left
    cases truth <;> exact isInline_of_all (by decide) member
  | character d =>
    have parts : c = '#' ∨ c = '\\' ∨ c ∈ characterName d := by simpa [spelling] using member
    rcases parts with rfl | rfl | named
    · exact .inl (by decide)
    · exact .inl (by decide)
    · rcases isInline_of_mem_characterName named with plain | ⟨returns, rfl⟩
      · exact .inl plain
      · exact .inr ⟨returns, rfl⟩
  | string text =>
    left
    have parts : c = '"' ∨ c ∈ Escape.escape text.toList := by
      simpa [spelling, or_comm] using member
    rcases parts with rfl | escaped
    · decide
    · obtain ⟨d, _, within⟩ := List.mem_flatMap.1 escaped
      exact isInline_of_mem_escapeChar within

end Literal

theorem SpelledIn.isInline_of_mem {text : List Char} {token : Token Empty}
    (spelled : SpelledIn text token) {c : Char} (member : c ∈ token.spelling) :
    IsInline c ∨ (c = '\r' ∧ c ∈ text) := by
  cases token with
  | opening =>
    rw [List.mem_singleton.1 member]
    exact .inl (by decide)
  | closing =>
    rw [List.mem_singleton.1 member]
    exact .inl (by decide)
  | identifier name => exact .inl (isInline_of_inside (spelled.isName.word c member))
  | literal value =>
    rcases value.isInline_of_mem_spelling member with plain | ⟨rfl, rfl⟩
    · exact .inl plain
    · rcases spelled.character_mem with newline | space | within
      · cases newline
      · cases space
      · exact .inr ⟨rfl, within⟩
  | foreign value => cases value

end SchemeReader
