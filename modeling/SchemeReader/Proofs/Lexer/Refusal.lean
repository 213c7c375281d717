import SchemeReader.Proofs.Lexer.Answer
import SchemeReader.Proofs.Lexer.Numeral

set_option autoImplicit false

namespace SchemeReader

open Text (CharSource)
open TokenSource (after answer)

theorem digitChar_digit {c : Char} (digit : c.isDigit = true) :
    (c.toNat - '0'.toNat).digitChar = c ∧ c.toNat - '0'.toNat < 10 := by
  simp only [Char.isDigit, Bool.and_eq_true, decide_eq_true_eq, ge_iff_le] at digit
  have least : '0'.toNat ≤ c.toNat := digit.1
  have greatest : c.toNat ≤ '9'.toNat := digit.2
  have zero : '0'.toNat = 48 := rfl
  have nine : '9'.toNat = 57 := rfl
  have small : c.toNat - '0'.toNat < 10 := by omega
  refine ⟨?_, small⟩
  rw [← Char.toNat_inj, Nat.toNat_digitChar_of_lt_ten small]
  omega

theorem toDigits_ofDigitChars {digits : List Char} (all : ∀ c ∈ digits, c.isDigit = true)
    {value : Nat} (positive : 0 < value) :
    Nat.toDigits 10 (Nat.ofDigitChars 10 digits value) = Nat.toDigits 10 value ++ digits := by
  induction digits generalizing value with
  | nil => simp
  | cons c rest ih =>
    obtain ⟨digit, others⟩ := List.forall_mem_cons.1 all
    obtain ⟨same, small⟩ := digitChar_digit digit
    have larger : 0 < 10 * value + (c.toNat - '0'.toNat) := by omega
    calc
      Nat.toDigits 10 (Nat.ofDigitChars 10 (c :: rest) value)
        = Nat.toDigits 10 (10 * value + (c.toNat - '0'.toNat)) ++ rest := by
          rw [Nat.ofDigitChars_cons, ih others larger]
      _ = Nat.toDigits 10 value ++ Nat.toDigits 10 (c.toNat - '0'.toNat) ++ rest := by
          rw [Nat.toDigits_append_toDigits (by decide) positive small]
      _ = Nat.toDigits 10 value ++ c :: rest := by
          rw [Nat.toDigits_of_lt_base small, same, List.append_assoc, List.singleton_append]

def refusalText (digits : List Char) : List Char :=
  if significantDigits < (digits.dropWhile (· = '0')).length then digits
  else digits.dropWhile (· = '0')

theorem refusalText_eq_self_iff (digits : List Char) :
    refusalText digits = digits ↔
      digits.head? ≠ some '0' ∨ significantDigits < (digits.dropWhile (· = '0')).length := by
  unfold refusalText
  split
  next many => simp [many]
  next few =>
    simp only [few, or_false]
    cases digits with
    | nil => simp
    | cons c rest =>
      by_cases zero : c = '0'
      · subst zero
        have shorter := (List.dropWhile_suffix (· = '0') (l := rest)).length_le
        rw [List.dropWhile_cons_of_pos (by decide)]
        refine iff_of_false ?_ (by simp)
        intro same
        have level := congrArg List.length same
        rw [List.length_cons] at level
        omega
      · simp [zero]

namespace Denotes

variable {digits : List Char} {value : Nat}

theorem toDigits_eq (denotes : Denotes digits value) (positive : 0 < value) :
    Nat.toDigits 10 value = digits.dropWhile (· = '0') := by
  have same := denotes.value_eq
  rw [← ofDigitChars_dropWhile_zero] at same
  cases significant : digits.dropWhile (· = '0') with
  | nil =>
    rw [significant, Nat.ofDigitChars_nil] at same
    omega
  | cons c rest =>
    have all : ∀ d ∈ c :: rest, d.isDigit = true := by
      intro d member
      rw [← significant] at member
      exact denotes.digits d ((List.dropWhile_suffix (· = '0')).subset member)
    obtain ⟨first, others⟩ := List.forall_mem_cons.1 all
    obtain ⟨written, small⟩ := digitChar_digit first
    have place : 0 < c.toNat - '0'.toNat := by
      -- Only a zero has no place value, and the zeros are dropped.
      rw [Nat.pos_iff_ne_zero]
      intro nothing
      have head := List.head?_dropWhile_not (· = '0') digits
      rw [significant] at head
      have other : c ≠ '0' := by simpa using head
      rw [nothing] at written
      exact other written.symm
    rw [significant, Nat.ofDigitChars_cons, Nat.mul_zero, Nat.zero_add] at same
    calc
      Nat.toDigits 10 value
        = Nat.toDigits 10 (Nat.ofDigitChars 10 rest (c.toNat - '0'.toNat)) := by rw [same]
      _ = Nat.toDigits 10 (c.toNat - '0'.toNat) ++ rest := toDigits_ofDigitChars others place
      _ = c :: rest := by rw [Nat.toDigits_of_lt_base small, written, List.singleton_append]

theorem classifyNumeral_refused_iff (denotes : Denotes digits value) {invalid : InvalidLiteral} :
    (classifyNumeral digits : Item Empty) = .error (.invalidLiteral invalid) ↔
      greatestNumber < value ∧ ¬ IsOverlong digits ∧
        invalid = ⟨String.ofList (refusalText digits), InvalidLiteral.outOfRange⟩ := by
  unfold classifyNumeral
  split
  next many =>
    have short : ¬ IsOverlong digits := fun overlong => absurd overlong.small (Nat.not_le.2 many)
    simp [refusalText, many, short, denotes.greatestNumber_lt many, eq_comm]
  next few =>
    split
    next long =>
      have overlong : IsOverlong digits := ⟨denotes.digits, long, Nat.not_lt.1 few⟩
      simp [overlong]
    next short =>
      have convertible : ¬ IsOverlong digits := fun overlong => short overlong.long
      rw [denotes.value_eq]
      rcases Nat.lt_or_ge greatestNumber value with large | range
      · have positive : 0 < value := Nat.zero_lt_of_lt large
        rw [ofInt_of_lt large, denotes.toDigits_eq positive]
        simp [refusalText, few, convertible, large, eq_comm]
      · obtain ⟨n, _, made⟩ := ofInt_of_le range
        rw [made]
        simp [Nat.not_lt.2 range]

end Denotes

theorem Lexeme.invalidLiteral_iff {spelling rest : List Char} (lexeme : Lexeme spelling rest)
    {invalid : InvalidLiteral} :
    lexemeItem spelling = .error (.invalidLiteral invalid) ↔
      ∃ value, Denotes spelling value ∧ greatestNumber < value ∧ ¬ IsOverlong spelling ∧
        invalid = ⟨String.ofList (refusalText spelling), InvalidLiteral.outOfRange⟩ := by
  constructor
  · intro made
    have meaning := lexeme.classify_eq made (by simp)
    have classified := classify_classified spelling
    rw [meaning] at classified
    generalize found : Item.error (LexError.invalidLiteral invalid) = item at classified
    cases classified with
    | numeral nonempty all =>
      have denotes : Denotes spelling (Nat.ofDigitChars 10 spelling 0) :=
        { nonempty, digits := List.all_eq_true.1 all, value_eq := rfl }
      exact ⟨_, denotes, denotes.classifyNumeral_refused_iff.1 found.symm⟩
    | string body =>
      unfold classifyString at found
      split at found
      · split at found <;> cases found
      · cases found
    | marked | refused | name => cases found
  · rintro ⟨value, denotes, refused⟩
    have ends : Atom spelling [] := .of_digits denotes.nonempty denotes.digits rfl
    rw [ends.lexemeItem_eq, classify_digits denotes.nonempty (List.all_eq_true.2 denotes.digits)]
    exact denotes.classifyNumeral_refused_iff.2 refused

namespace Lexer

/-- A refused numeral is shown as it is written if and only if it has no leading zero, or too many
digits behind its leading zeros. -/
theorem refusal_shows {σ : Type} [CharSource σ] (kind : LexerKind) (source : σ) (count : Nat)
    (invalid : InvalidLiteral) :
    (after (start kind source) count).ahead <:+ CharSource.drain source ∧
      (answer (start kind source) count = some (.error (.invalidLiteral invalid)) ↔
        ∃ digits value, LexemeAhead (after (start kind source) count).ahead digits ∧
          Denotes digits value ∧ greatestNumber < value ∧ ¬ IsOverlong digits ∧
          invalid = ⟨String.ofList (refusalText digits), InvalidLiteral.outOfRange⟩) ∧
      ∀ digits, refusalText digits = digits ↔
        digits.head? ≠ some '0' ∨ significantDigits < (digits.dropWhile (· = '0')).length := by
  refine ⟨?_, ?_, refusalText_eq_self_iff⟩
  · have within := (start kind source).ahead_after_suffix count
    rwa [ahead_start] at within
  · rw [answer_eq_some_iff rfl]
    constructor
    · rintro ⟨digits, ⟨rest, lexeme, visible⟩, made⟩
      obtain ⟨value, refused⟩ := lexeme.invalidLiteral_iff.1 made
      exact ⟨digits, value, ⟨rest, lexeme, visible⟩, refused⟩
    · rintro ⟨digits, value, ⟨rest, lexeme, visible⟩, refused⟩
      exact ⟨digits, ⟨rest, lexeme, visible⟩, lexeme.invalidLiteral_iff.2 ⟨value, refused⟩⟩

theorem not_refusal_shows_spelling :
    ¬ ∀ (kind : LexerKind) (source : List Char) (count : Nat) (invalid : InvalidLiteral)
        (digits : List Char),
      answer (start kind source) count = some (.error (.invalidLiteral invalid)) →
        LexemeAhead (after (start kind source) count).ahead digits →
          invalid.text = String.ofList digits := by
  intro shown
  have lexeme : Lexeme paddedNumeral [] :=
    .atom (.of_digits denotes_paddedNumeral.nonempty denotes_paddedNumeral.digits rfl)
  have ahead : LexemeAhead (after (start .lookahead paddedNumeral) 0).ahead paddedNumeral := by
    refine ⟨[], lexeme, ?_⟩
    rw [after, ahead_start, Text.drain_list]
    rfl
  have refused : answer (start .lookahead paddedNumeral) 0 =
      some (.error (.invalidLiteral ⟨"2147483648", InvalidLiteral.outOfRange⟩)) :=
    (answer_eq_some_iff rfl).2 ⟨paddedNumeral, ahead, by decide⟩
  have wrong := shown .lookahead paddedNumeral 0 _ _ refused ahead
  exact absurd wrong (by decide)

end Lexer

end SchemeReader
