import Mathlib.Algebra.Group.Nat.Defs
import SchemeReader.Proofs.Lexer.Overlong
import SchemeReader.Proofs.Lexer.Seam

set_option autoImplicit false

namespace SchemeReader

open TokenSource (items)

structure Denotes (text : List Char) (value : Nat) : Prop where
  nonempty : text ≠ []
  digits : ∀ c ∈ text, c.isDigit = true
  value_eq : Nat.ofDigitChars 10 text 0 = value

def greatestNumber : Nat := 2147483647

theorem denotes_toDigits (value : Nat) : Denotes (Nat.toDigits 10 value) value where
  nonempty := Nat.toDigits_ne_nil
  digits _ member := Nat.isDigit_of_mem_toDigits (by decide) (by decide) member
  value_eq := Nat.ofDigitChars_ten_toDigits

theorem ofDigitChars_dropWhile_zero (digits : List Char) :
    Nat.ofDigitChars 10 (digits.dropWhile (· = '0')) 0 = Nat.ofDigitChars 10 digits 0 := by
  induction digits with
  | nil => rfl
  | cons c rest ih =>
    by_cases zero : c = '0'
    · subst zero
      rw [List.dropWhile_cons_of_pos (by decide), ih, Nat.ofDigitChars_cons]
      rfl
    · rw [List.dropWhile_cons_of_neg (by simpa using zero)]

-- A digit that is not zero is worth its place.
theorem pow_le_ofDigitChars {c : Char} (digit : c.isDigit = true) (significant : c ≠ '0')
    (rest : List Char) : 10 ^ rest.length ≤ Nat.ofDigitChars 10 (c :: rest) 0 := by
  have least : '0'.toNat ≤ c.toNat := by
    simp only [Char.isDigit, Bool.and_eq_true, decide_eq_true_eq, ge_iff_le] at digit
    exact digit.1
  have other : c.toNat ≠ '0'.toNat := by
    intro same
    exact significant (Char.toNat_inj.1 same)
  have positive : 0 < 10 * 0 + (c.toNat - '0'.toNat) := by omega
  calc
    10 ^ rest.length ≤ 10 ^ rest.length * (10 * 0 + (c.toNat - '0'.toNat)) :=
      Nat.le_mul_of_pos_right _ positive
    _ ≤ 10 ^ rest.length * (10 * 0 + (c.toNat - '0'.toNat)) + Nat.ofDigitChars 10 rest 0 :=
      Nat.le_add_right _ _
    _ = Nat.ofDigitChars 10 (c :: rest) 0 := by
      rw [Nat.ofDigitChars_cons, ← Nat.ofDigitChars_eq_ofDigitChars_zero]

theorem ofInt_of_le {value : Nat} (range : value ≤ greatestNumber) :
    ∃ n : Number, n.value = value ∧ Literal.ofInt value = .ok (.number n) := by
  have fits : -2147483648 ≤ (value : Int) ∧ (value : Int) ≤ 2147483647 := by
    rw [greatestNumber] at range
    omega
  refine ⟨⟨value, fits.1, fits.2⟩, rfl, ?_⟩
  rw [Literal.ofInt, Number.ofInt, dif_pos fits]
  rfl

theorem ofInt_of_lt {value : Nat} (large : greatestNumber < value) :
    Literal.ofInt value =
      .error ⟨String.ofList (Nat.toDigits 10 value), InvalidLiteral.outOfRange⟩ := by
  have exceeds : ¬ (-2147483648 ≤ (value : Int) ∧ (value : Int) ≤ 2147483647) := by
    rw [greatestNumber] at large
    omega
  rw [Literal.ofInt, Number.ofInt, dif_neg exceeds]
  rfl

namespace Denotes

variable {digits : List Char} {value : Nat}

theorem greatestNumber_lt (denotes : Denotes digits value)
    (many : significantDigits < (digits.dropWhile (· = '0')).length) : greatestNumber < value := by
  obtain ⟨c, rest, significant⟩ : ∃ c rest, digits.dropWhile (· = '0') = c :: rest := by
    refine List.exists_cons_of_ne_nil ?_
    rintro none
    rw [none] at many
    cases many
  have member : c ∈ digits := by
    apply (List.dropWhile_suffix (· = '0')).subset
    rw [significant]
    exact List.mem_cons_self
  have nonzero : c ≠ '0' := by
    have first := List.head?_dropWhile_not (· = '0') digits
    rw [significant] at first
    simpa using first
  rw [significant, List.length_cons, significantDigits] at many
  have places : 10 ≤ rest.length := by omega
  calc
    greatestNumber < 10 ^ 10 := by decide
    _ ≤ 10 ^ rest.length := Nat.pow_le_pow_right (by decide) places
    _ ≤ Nat.ofDigitChars 10 (c :: rest) 0 :=
      pow_le_ofDigitChars (denotes.digits c member) nonzero rest
    _ = value := by rw [← significant, ofDigitChars_dropWhile_zero, denotes.value_eq]

theorem classify_cases (denotes : Denotes digits value) (convertible : ¬ IsOverlong digits) :
    (value ≤ greatestNumber ∧ ∃ n : Number, n.value = value ∧
      (classify digits : Item Empty) = .token (.literal (.number n))) ∨
    (greatestNumber < value ∧ ∃ text, Denotes text.toList value ∧
      (classify digits : Item Empty) =
        .error (.invalidLiteral ⟨text, InvalidLiteral.outOfRange⟩)) := by
  rw [classify_digits denotes.nonempty (List.all_eq_true.2 denotes.digits), classifyNumeral]
  by_cases many : significantDigits < (digits.dropWhile (· = '0')).length
  · right
    refine ⟨denotes.greatestNumber_lt many, String.ofList digits, ?_, if_pos many⟩
    rwa [String.toList_ofList]
  have short : ¬ Fault.digitLimit < digits.length := fun long =>
    convertible ⟨denotes.digits, long, Nat.not_lt.1 many⟩
  rw [if_neg many, if_neg short, denotes.value_eq]
  rcases Nat.lt_or_ge greatestNumber value with large | range
  · right
    rw [ofInt_of_lt large]
    refine ⟨large, String.ofList (Nat.toDigits 10 value), ?_, rfl⟩
    rw [String.toList_ofList]
    exact denotes_toDigits value
  · left
    obtain ⟨n, same, made⟩ := ofInt_of_le range
    rw [made]
    exact ⟨range, n, same, rfl⟩

end Denotes

/-- A numeral adds one item to those of the text behind it: the number of its value if that is in
range, and an error that shows the value if not. -/
theorem numeral_items (kind : LexerKind) {digits rest : List Char} {value : Nat}
    (denotes : Denotes digits value) (convertible : ¬ IsOverlong digits)
    (ends : Pattern.endsWord rest = true) :
    ∃ item : Item Empty, classify digits = item ∧
      items (Lexer.start kind (digits ++ rest)) = item :: items (Lexer.start kind rest) ∧
      (value ≤ greatestNumber ↔
        ∃ n : Number, n.value = value ∧ item = .token (.literal (.number n))) ∧
      (greatestNumber < value ↔
        ∃ text, Denotes text.toList value ∧
          item = .error (.invalidLiteral ⟨text, InvalidLiteral.outOfRange⟩)) := by
  have atom : Atom digits [] := .of_digits denotes.nonempty denotes.digits rfl
  have accepted : (classify digits : Item Empty).isUnmatched = false := by
    rw [classify_digits denotes.nonempty (List.all_eq_true.2 denotes.digits)]
    exact classifyNumeral_isUnmatched digits
  have spells : Spells [classify digits] (digits ++ []) := by
    rw [← atom.lexemeItem_eq] at accepted ⊢
    exact .token (.atom atom) accepted .finish
  rw [List.append_nil] at spells
  refine ⟨classify digits, rfl, Lexer.items_start_append kind spells ends, ?_⟩
  rcases denotes.classify_cases convertible with ⟨range, n, same, made⟩ | ⟨large, text, shown, made⟩
  · rw [made]
    refine ⟨iff_of_true range ⟨n, same, rfl⟩, iff_of_false (Nat.not_lt.2 range) ?_⟩
    rintro ⟨_, _, wrong⟩
    cases wrong
  · rw [made]
    refine ⟨iff_of_false (Nat.not_le.2 large) ?_, iff_of_true large ⟨text, shown, rfl⟩⟩
    rintro ⟨_, _, wrong⟩
    cases wrong

def paddedNumeral : List Char := "0002147483648".toList

theorem denotes_paddedNumeral : Denotes paddedNumeral 2147483648 where
  nonempty := by decide
  digits := List.all_eq_true.1 (by decide)
  value_eq := by decide

theorem numeral_items_padded :
    Denotes paddedNumeral 2147483648 ∧ ¬ IsOverlong paddedNumeral ∧
      Pattern.endsWord ['(', '1'] = true ∧
      ∃ text, Denotes text.toList 2147483648 ∧
        items (Lexer.start .pattern (paddedNumeral ++ ['(', '1'])) =
          .error (.invalidLiteral ⟨text, InvalidLiteral.outOfRange⟩) ::
            items (Lexer.start .pattern ['(', '1']) := by
  have convertible : ¬ IsOverlong paddedNumeral := fun overlong =>
    absurd overlong.long (by decide)
  have ends : Pattern.endsWord ['(', '1'] = true := rfl
  obtain ⟨item, _, drawn, _, refused⟩ :=
    numeral_items .pattern denotes_paddedNumeral convertible ends
  obtain ⟨text, shown, made⟩ := refused.1 (by decide)
  rw [made] at drawn
  exact ⟨denotes_paddedNumeral, convertible, ends, text, shown, drawn⟩

end SchemeReader
