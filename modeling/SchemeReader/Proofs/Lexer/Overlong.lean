import SchemeReader.Proofs.Lexer.Agreement
import SchemeReader.Proofs.Lexer.Ending

set_option autoImplicit false

namespace SchemeReader

open Text (CharSource)
open TokenSource (items after answer)

structure IsOverlong (numeral : List Char) : Prop where
  digits : ∀ c ∈ numeral, c.isDigit = true
  long : Fault.digitLimit < numeral.length
  small : (numeral.dropWhile (· = '0')).length ≤ significantDigits

def OverlongAhead (text numeral : List Char) : Prop :=
  IsOverlong numeral ∧ ∃ rest, text.dropWhile isSpace = numeral ++ rest ∧
    Pattern.endsWord rest = true

theorem OverlongAhead.infix_text {text numeral : List Char} (ahead : OverlongAhead text numeral) :
    numeral <:+: text := by
  obtain ⟨_, rest, visible, _⟩ := ahead
  refine List.IsInfix.trans ?_ (List.dropWhile_suffix isSpace).isInfix
  rw [visible]
  exact (List.prefix_append numeral rest).isInfix

def Item.fault? {α : Type} : Item α → Option Fault
  | .fault cause => some cause
  | _ => none

theorem Item.fault?_eq_some_iff {α : Type} {item : Item α} {cause : Fault} :
    item.fault? = some cause ↔ item = .fault cause := by
  cases item <;> simp [fault?]

namespace IsOverlong

variable {numeral rest : List Char}

theorem ne_nil (overlong : IsOverlong numeral) : numeral ≠ [] := by
  rintro rfl
  exact absurd overlong.long (by simp)

theorem atom (overlong : IsOverlong numeral) (ends : Pattern.endsWord rest = true) :
    Atom numeral rest :=
  .of_digits overlong.ne_nil overlong.digits ends

end IsOverlong

theorem classifyNumeral_eq_fault_iff {digits : List Char} {cause : Fault} :
    (classifyNumeral digits : Item Empty) = .fault cause ↔
      (Fault.digitLimit < digits.length ∧
        (digits.dropWhile (· = '0')).length ≤ significantDigits) ∧
          cause = .tooManyDigits digits.length := by
  unfold classifyNumeral
  by_cases many : significantDigits < (digits.dropWhile (· = '0')).length
  · rw [if_pos many]
    simp [Nat.not_le.2 many]
  · rw [if_neg many]
    by_cases long : Fault.digitLimit < digits.length
    · rw [if_pos long]
      simp [long, Nat.not_lt.1 many, eq_comm]
    · rw [if_neg long]
      simp only [long, false_and, iff_false]
      split <;> simp

theorem classify_eq_fault_iff {spelling : List Char} {cause : Fault} :
    (classify spelling : Item Empty) = .fault cause ↔
      IsOverlong spelling ∧ cause = .tooManyDigits spelling.length := by
  by_cases numeral : spelling ≠ [] ∧ spelling.all Char.isDigit = true
  · rw [classify_digits numeral.1 numeral.2, classifyNumeral_eq_fault_iff]
    have digits := List.all_eq_true.1 numeral.2
    constructor
    · rintro ⟨⟨long, small⟩, same⟩
      exact ⟨⟨digits, long, small⟩, same⟩
    · rintro ⟨overlong, same⟩
      exact ⟨⟨overlong.long, overlong.small⟩, same⟩
  · have never : ¬ IsOverlong spelling := fun overlong =>
      numeral ⟨overlong.ne_nil, List.all_eq_true.2 overlong.digits⟩
    simp only [never, false_and, iff_false]
    unfold classify
    rw [if_neg numeral]
    split
    next body =>
      unfold classifyString
      split
      · split <;> simp
      · simp
    next body => split <;> simp
    next => simp

theorem IsOverlong.endsWord {numeral rest : List Char} (overlong : IsOverlong numeral)
    (atom : Atom numeral rest) : Pattern.endsWord rest = true := by
  cases atom with
  | word _ _ _ ends => exact ends
  | character _ _ ends => exact ends
  | cut => rfl

theorem Lexeme.fault_iff {spelling rest : List Char} (lexeme : Lexeme spelling rest)
    {cause : Fault} :
    lexemeItem spelling = .fault cause ↔
      (IsOverlong spelling ∧ Pattern.endsWord rest = true) ∧
        cause = .tooManyDigits spelling.length := by
  cases lexeme with
  | @bracket c _ shape =>
    have short : ¬ IsOverlong [c] := fun overlong =>
      absurd overlong.long (by simp [Fault.digitLimit])
    simp only [short, false_and, iff_false]
    rcases shape with opening | closing
    · simp [lexemeItem_opening opening]
    · simp [lexemeItem_closing closing]
  | @string body _ _ =>
    have never : ¬ IsOverlong ('"' :: (body ++ ['"'])) := fun overlong =>
      absurd (overlong.digits '"' (by simp)) (by decide)
    rw [lexemeItem_string, classify_eq_fault_iff]
    simp only [never, false_and]
  | atom atom =>
    rw [atom.lexemeItem_eq, classify_eq_fault_iff]
    constructor
    · rintro ⟨overlong, same⟩
      exact ⟨⟨overlong, overlong.endsWord atom⟩, same⟩
    · rintro ⟨⟨overlong, _⟩, same⟩
      exact ⟨overlong, same⟩

theorem classify_identifier {spelling : List Char} {name : String}
    (made : (classify spelling : Item Empty) = .token (.identifier name)) :
    name = String.ofList spelling := by
  unfold classify at made
  split at made
  next numeral =>
    unfold classifyNumeral at made
    split at made
    · cases made
    · split at made
      · cases made
      · split at made <;> cases made
  next =>
    split at made
    next body =>
      unfold classifyString at made
      split at made
      · split at made <;> cases made
      · cases made
    next body => split at made <;> cases made
    next =>
      cases made
      rfl

theorem Lexeme.name_ne_empty {spelling rest : List Char} (lexeme : Lexeme spelling rest)
    {name : String} (made : lexemeItem spelling = .token (.identifier name)) : name ≠ "" := by
  rw [classify_identifier (lexeme.classify_eq made (by simp))]
  intro empty
  exact lexeme.ne_nil (by simpa using congrArg String.toList empty)

theorem Take.rest_suffix {kind : LexerKind} {text rest : List Char} {item : Option (Item Empty)}
    (taken : Take kind text item rest) : rest <:+ text := by
  cases taken with
  | finish => exact List.nil_suffix
  | token => exact List.suffix_append _ _
  | refused => exact List.nil_suffix
  | misnamed => exact List.suffix_append _ _

namespace Lexer

variable {σ : Type} [CharSource σ]

instance : TokenSource.Settled (Lexer σ) where
  items_after_end ended := by
    have taken := take_of_draw ended
    rw [taken.ended_iff.1 rfl] at taken
    exact items_of_ahead_nil taken.at_end.2

theorem draw_fault_iff {lexer : Lexer σ} {cause : Fault} :
    lexer.draw.1 = some (.fault cause) ↔
      ∃ numeral, OverlongAhead lexer.ahead numeral ∧ cause = .tooManyDigits numeral.length := by
  rcases lexer.draw_take.outcome with ⟨nothing, ended, _⟩ |
      ⟨spelling, lexeme, visible, drawn, accepted⟩ | ⟨unreadable, mismatch, shown, drawn, _⟩
  · rw [ended]
    simp only [reduceCtorEq, false_iff]
    rintro ⟨numeral, ⟨overlong, rest, visible, _⟩, _⟩
    rw [nothing] at visible
    exact overlong.ne_nil (List.append_eq_nil_iff.1 visible.symm).1
  · rw [drawn, Option.some.injEq, lexeme.fault_iff]
    constructor
    · rintro ⟨⟨overlong, ends⟩, same⟩
      exact ⟨spelling, ⟨overlong, _, visible, ends⟩, same⟩
    · rintro ⟨numeral, ⟨overlong, rest, visible', ends⟩, same⟩
      obtain ⟨rfl, rfl⟩ := lexeme.unique (.atom (overlong.atom ends)) (visible.symm.trans visible')
      exact ⟨⟨overlong, ends⟩, same⟩
  · rw [drawn]
    simp only [Option.some.injEq, reduceCtorEq, false_iff]
    rintro ⟨numeral, ⟨overlong, rest, visible, ends⟩, _⟩
    have atom := overlong.atom ends
    rw [visible] at unreadable
    have refused := unreadable.isUnmatched (.atom atom)
    rw [(Lexeme.fault_iff (.atom atom)).2 ⟨⟨overlong, ends⟩, rfl⟩] at refused
    cases refused

theorem draw_ahead_suffix (lexer : Lexer σ) : lexer.draw.2.ahead <:+ lexer.ahead :=
  lexer.draw_take.rest_suffix.trans (List.dropWhile_suffix isSpace)

theorem ahead_after_suffix (lexer : Lexer σ) (count : Nat) :
    (after lexer count).ahead <:+ lexer.ahead := by
  induction count generalizing lexer with
  | zero => exact List.suffix_rfl
  | succ count ih => exact (ih lexer.draw.2).trans lexer.draw_ahead_suffix

theorem exists_lexeme_of_mem {lexer : Lexer σ} {item : Item Empty} (member : item ∈ items lexer)
    (accepted : item.isUnmatched = false) :
    ∃ spelling rest, Lexeme spelling rest ∧ spelling <:+: lexer.ahead ∧
      lexemeItem spelling = item := by
  obtain ⟨count, answered⟩ := TokenSource.mem_items_iff.1 member
  have here := lexer.ahead_after_suffix count
  rcases (after lexer count).draw_take.outcome with ⟨_, ended, _⟩ |
      ⟨spelling, lexeme, visible, drawn, _⟩ | ⟨_, _, _, drawn, _⟩
  · cases answered.symm.trans ended
  · have start : spelling <+: (after lexer count).ahead.dropWhile isSpace := by
      rw [visible]
      exact List.prefix_append _ _
    exact ⟨spelling, _, lexeme,
      start.isInfix.trans ((List.dropWhile_suffix isSpace).trans here).isInfix,
      Option.some.inj (drawn.symm.trans answered)⟩
  · cases answered.symm.trans drawn
    cases accepted

theorem name_ne_empty {lexer : Lexer σ} {name : String}
    (named : .token (.identifier name) ∈ items lexer) : name ≠ "" := by
  obtain ⟨_, _, lexeme, _, made⟩ := exists_lexeme_of_mem named rfl
  exact lexeme.name_ne_empty made

theorem answer_fault?_iff {lexer : Lexer σ} {count : Nat} {cause : Fault} :
    (answer lexer count).bind Item.fault? = some cause ↔
      ∃ numeral, OverlongAhead (after lexer count).ahead numeral ∧
        cause = .tooManyDigits numeral.length := by
  rw [← draw_fault_iff, Option.bind_eq_some_iff]
  constructor
  · rintro ⟨item, answered, fault⟩
    rw [Item.fault?_eq_some_iff.1 fault] at answered
    exact answered
  · intro drawn
    exact ⟨.fault cause, drawn, rfl⟩

theorem answer_faultless_iff {lexer : Lexer σ} {count : Nat} :
    (answer lexer count).bind Item.fault? = none ↔
      ∀ numeral, ¬ OverlongAhead (after lexer count).ahead numeral := by
  constructor
  · intro missing numeral overlong
    have found := answer_fault?_iff.2 ⟨numeral, overlong, rfl⟩
    rw [missing] at found
    cases found
  · intro never
    cases found : (answer lexer count).bind Item.fault? with
    | none => rfl
    | some cause =>
      obtain ⟨numeral, overlong, _⟩ := answer_fault?_iff.1 found
      exact absurd overlong (never numeral)

def FirstOverlong (lexer : Lexer σ) (count : Nat) (numeral : List Char) : Prop :=
  OverlongAhead (after lexer count).ahead numeral ∧
    ∀ earlier < count, ∀ other, ¬ OverlongAhead (after lexer earlier).ahead other

theorem FirstOverlong.infix_ahead {lexer : Lexer σ} {count : Nat} {numeral : List Char}
    (first : lexer.FirstOverlong count numeral) : numeral <:+: lexer.ahead :=
  first.1.infix_text.trans (lexer.ahead_after_suffix count).isInfix

theorem first_fault_iff {lexer : Lexer σ} {cause : Fault} :
    (items lexer).findSome? Item.fault? = some cause ↔
      ∃ count numeral, FirstOverlong lexer count numeral ∧
        cause = .tooManyDigits numeral.length := by
  simp only [TokenSource.findSome?_items_eq_some_iff, answer_fault?_iff, answer_faultless_iff]
  constructor
  · rintro ⟨count, ⟨numeral, overlong, same⟩, before⟩
    exact ⟨count, numeral, ⟨overlong, before⟩, same⟩
  · rintro ⟨count, numeral, ⟨overlong, before⟩, same⟩
    exact ⟨count, ⟨numeral, overlong, same⟩, before⟩

end Lexer

end SchemeReader
