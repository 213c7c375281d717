import SchemeReader.Proofs.Lexer.Overlong
import SchemeReader.Proofs.Token.Spelled

set_option autoImplicit false

namespace SchemeReader

open Text (CharSource)
open TokenSource (items)

variable {spelling rest : List Char}

theorem classifyNumeral_token {digits : List Char} {token : Token Empty}
    (made : classifyNumeral digits = .token token) :
    ∃ n : Number, token = .literal (.number n) ∧ 0 ≤ n.value := by
  unfold classifyNumeral at made
  split at made
  · cases made
  · split at made
    · cases made
    · unfold Literal.ofInt Number.ofInt at made
      split at made
      next literal result =>
        split at result
        next range =>
          cases result
          cases made
          exact ⟨_, rfl, Int.natCast_nonneg _⟩
        next => cases result
      next => cases made

theorem classify_literal {value : Literal}
    (made : (classify spelling : Item Empty) = .token (.literal value)) :
    (∃ n : Number, value = .number n ∧ 0 ≤ n.value) ∨ (∃ text, value = .string text) ∨
      ∃ body, spelling = '#' :: body ∧ hashLiteral? body = some value := by
  unfold classify at made
  split at made
  next =>
    obtain ⟨n, same, natural⟩ := classifyNumeral_token made
    cases same
    exact .inl ⟨n, rfl, natural⟩
  next =>
    split at made
    next =>
      unfold classifyString at made
      split at made
      · split at made
        · cases made
          exact .inr (.inl ⟨_, rfl⟩)
        · cases made
      · cases made
    next =>
      split at made
      next literal found =>
        cases made
        exact .inr (.inr ⟨_, rfl, found⟩)
      next => cases made
    next => cases made

theorem hashLiteral?_cases {body : List Char} {value : Literal}
    (found : hashLiteral? body = some value) :
    (∃ truth, value = .boolean truth) ∨
      ∃ name c, body = '\\' :: name ∧ character? name = some c ∧ value = .character c := by
  unfold hashLiteral? at found
  split at found
  · cases found
    exact .inl ⟨true, rfl⟩
  · split at found
    · cases found
      exact .inl ⟨false, rfl⟩
    · split at found
      next =>
        obtain ⟨c, named, rfl⟩ := Option.map_eq_some_iff.1 found
        exact .inr ⟨_, c, rfl, named, rfl⟩
      next => cases found

theorem namedCharacter?_mem {name : List Char} {c : Char} (named : namedCharacter? name = some c) :
    c = '\n' ∨ c = ' ' := by
  unfold namedCharacter? characterNames at named
  simp only [List.lookup_cons, List.lookup_nil] at named
  split at named
  · cases named
    exact .inl rfl
  · split at named
    · cases named
      exact .inr rfl
    · cases named

theorem character?_mem {name : List Char} {c : Char} (found : character? name = some c) :
    c = '\n' ∨ c = ' ' ∨ c ∈ name := by
  rcases Option.or_eq_some_iff.1 found with named | ⟨_, alone⟩
  · rcases namedCharacter?_mem named with newline | space
    · exact .inl newline
    · exact .inr (.inl space)
  · split at alone
    next => exact .inr (.inr (by simpa using (Option.some.inj alone).symm))
    next => cases alone

theorem lexemeItem_bracket_ne {c : Char} (shape : isOpening c = true ∨ isClosing c = true)
    {token : Token Empty} (atomic : token ≠ .opening ∧ token ≠ .closing) :
    lexemeItem [c] ≠ .token token := by
  intro made
  rcases shape with opening | closing
  · rw [lexemeItem_opening opening] at made
    exact atomic.1 (Item.token.inj made).symm
  · rw [lexemeItem_closing closing] at made
    exact atomic.2 (Item.token.inj made).symm

theorem IsName.of_classify {name : String} (atom : Atom spelling rest)
    (made : (classify spelling : Item Empty) = .token (.identifier name)) : IsName name := by
  rw [classify_identifier made]
  have digits : ¬ spelling.all Char.isDigit = true := by
    intro all
    rw [classify_digits (Lexeme.atom atom).ne_nil all] at made
    obtain ⟨n, same, _⟩ := classifyNumeral_token made
    cases same
  have unmarked : spelling.head? ≠ some '#' := by
    intro first
    obtain ⟨c, body, rfl, _⟩ := atom.exists_head
    cases first
    rw [classify_hash] at made
    split at made <;> cases made
  have word : IsWord spelling := by
    cases atom with
    | word _ run _ _ => exact run
    | character | cut => exact absurd rfl unmarked
  constructor
  · rw [String.toList_ofList]
    exact (Lexeme.atom atom).ne_nil
  · rwa [String.toList_ofList]
  · rwa [String.toList_ofList]
  · rwa [String.toList_ofList]

namespace Lexeme

theorem isName (lexeme : Lexeme spelling rest) {name : String}
    (made : lexemeItem spelling = .token (.identifier name)) : IsName name := by
  cases lexeme with
  | bracket shape => exact absurd made (lexemeItem_bracket_ne shape (by simp))
  | string =>
    rw [lexemeItem_string, classify_string] at made
    split at made <;> cases made
  | atom atom =>
    rw [atom.lexemeItem_eq] at made
    exact .of_classify atom made

end Lexeme

def SpelledIn (text : List Char) (token : Token Empty) : Prop :=
  ∃ spelling rest, Lexeme spelling rest ∧ spelling <:+: text ∧ lexemeItem spelling = .token token

namespace SpelledIn

variable {text : List Char}

theorem isName {name : String} (spelled : SpelledIn text (.identifier name)) : IsName name := by
  obtain ⟨spelling, rest, lexeme, _, made⟩ := spelled
  exact lexeme.isName made

theorem readable {value : Literal} (spelled : SpelledIn text (.literal value)) :
    value.Readable := by
  obtain ⟨spelling, rest, lexeme, _, made⟩ := spelled
  rcases classify_literal (lexeme.classify_eq made (by simp)) with ⟨n, rfl, natural⟩ | ⟨_, rfl⟩ |
      ⟨body, _, found⟩
  · exact natural
  · trivial
  · rcases hashLiteral?_cases found with ⟨_, rfl⟩ | ⟨_, _, _, _, rfl⟩ <;> trivial

theorem character_mem {c : Char} (spelled : SpelledIn text (.literal (.character c))) :
    c = '\n' ∨ c = ' ' ∨ c ∈ text := by
  obtain ⟨spelling, rest, lexeme, within, made⟩ := spelled
  rcases classify_literal (lexeme.classify_eq made (by simp)) with
    ⟨_, same, _⟩ | ⟨_, same⟩ | ⟨body, rfl, found⟩
  · cases same
  · cases same
  · rcases hashLiteral?_cases found with ⟨_, same⟩ | ⟨name, d, rfl, named, same⟩
    · cases same
    · cases same
      rcases character?_mem named with newline | space | member
      · exact .inl newline
      · exact .inr (.inl space)
      · exact .inr (.inr (within.subset (by simp [member])))

end SpelledIn

theorem Lexer.spelledIn {σ : Type} [CharSource σ] {lexer : Lexer σ} {token : Token Empty}
    (member : .token token ∈ items lexer) : SpelledIn lexer.ahead token :=
  exists_lexeme_of_mem member rfl

end SchemeReader
