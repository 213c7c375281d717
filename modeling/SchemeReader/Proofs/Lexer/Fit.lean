import Mathlib.Data.List.Forall2
import SchemeReader.Proofs.Lexeme

set_option autoImplicit false

namespace SchemeReader

namespace Pattern

theorem eq_or_eq_of_toLower {c letter : Char} (capital : letter.val = letter.toUpper.val + 32)
    (same : c.toLower = letter) : c = letter ∨ c = letter.toUpper := by
  unfold Char.toLower at same
  split at same
  · right
    apply Char.ext
    rw [← same] at capital
    exact (UInt32.add_left_inj 32).1 (capital.trans (by rw [same]))
  · exact .inl same

theorem matchesLetter_inside {letter c : Char} (inside : isTerminator letter = false)
    (matched : matchesLetter letter c = true) : isTerminator c = false := by
  have own : ∀ d ∈ terminators, d.toLower = d ∧ d ≠ 'ſ' ∧ d ≠ 'İ' ∧ d ≠ 'ı' := by
    simp [terminators]
  by_contra terminator
  obtain ⟨lower, long, dotted, dotless⟩ :=
    own c (mem_terminators.2 (by simpa using terminator))
  simp only [matchesLetter, lower, long, dotted, dotless, decide_false, Bool.and_false,
    Bool.or_false, decide_eq_true_eq] at matched
  exact terminator (matched ▸ inside)

abbrev Matches (letters spelling : List Char) : Prop :=
  List.Forall₂ (fun letter c => matchesLetter letter c = true) letters spelling

theorem name_of_matches {letters spelling rest : List Char} (matched : Matches letters spelling)
    (ends : endsWord rest = true) : name letters (spelling ++ rest) = some (spelling, rest) := by
  induction matched with
  | nil => simp [name, ends]
  | cons first _ ih => simp [name, first, ih]

theorem matches_of_name {letters text : List Char} {found : Match}
    (matched : name letters text = some found) :
    Matches letters found.1 ∧ endsWord found.2 = true := by
  fun_induction name letters text generalizing found with
  | case1 text ends =>
    cases matched
    exact ⟨.nil, ends⟩
  | case2 => simp at matched
  | case3 => simp at matched
  | case4 letter letters c rest first ih =>
    obtain ⟨inner, result, rfl⟩ := Option.map_eq_some_iff.1 matched
    exact ⟨.cons first (ih result).1, (ih result).2⟩
  | case5 => simp at matched

theorem Matches.isWord {letters spelling : List Char} (matched : Matches letters spelling)
    (inside : IsWord letters) : IsWord spelling := by
  induction matched with
  | nil => simp [IsWord]
  | cons first _ ih =>
    simp only [IsWord, List.forall_mem_cons] at inside ⊢
    exact ⟨matchesLetter_inside inside.1 first, ih inside.2⟩

theorem name_eq_some_iff {letters word rest : List Char} {c : Char} (nonempty : letters ≠ [])
    (inside : IsWord letters) (run : IsWord word) (ends : endsWord rest = true) (found : Match) :
    name letters (c :: word ++ rest) = some found ↔
      Matches letters (c :: word) ∧ found = (c :: word, rest) := by
  constructor
  · intro matched
    obtain ⟨same, stops⟩ := matches_of_name matched
    have whole := name_append matched
    have run' := same.isWord inside
    obtain ⟨spelling, behind⟩ := found
    cases same with
    | nil => exact absurd rfl nonempty
    | @cons _ d _ later first same =>
      simp only [List.cons_append, List.cons.injEq] at whole
      obtain ⟨rfl, whole⟩ := whole
      have run'' : IsWord later := fun c member => run' c (List.mem_cons_of_mem _ member)
      have taken := run.take_drop ends
      rw [← whole, (run''.take_drop stops).1, (run''.take_drop stops).2] at taken
      obtain ⟨rfl, rfl⟩ := taken
      exact ⟨.cons first same, rfl⟩
  · rintro ⟨same, rfl⟩
    exact name_of_matches same ends

def Folds (letters : List Char) : Prop :=
  Matches "newline".toList letters ∨ Matches "space".toList letters

theorem folds_of_named {letters : List Char} {c : Char} (named : namedCharacter? letters = some c) :
    Folds letters := by
  have same (name : List Char) (lower : letters.map Char.toLower = name) :
      Matches name letters := by
    subst lower
    rw [Matches, List.forall₂_map_left_iff]
    exact List.forall₂_same.2 fun d _ => by simp [matchesLetter]
  unfold namedCharacter? characterNames at named
  simp only [List.lookup_cons, List.lookup_nil] at named
  split at named
  next lower => exact .inl (same _ (by simpa using lower))
  next =>
    split at named
    next lower => exact .inr (same _ (by simpa using lower))
    next => simp at named

theorem single_eq_some_iff {c : Char} {word rest : List Char} (run : IsWord word)
    (ends : endsWord rest = true) (found : Match) :
    single (c :: word ++ rest) = some found ↔ word = [] ∧ found = (c :: word, rest) := by
  cases word with
  | nil => simp [single, ends, eq_comm]
  | cons d word => simp [single, run d (by simp)]

theorem or_eq_some_iff {α : Type} {first second : Option α} {p q : Prop} {value : α}
    (left : ∀ found, first = some found ↔ p ∧ found = value)
    (right : ∀ found, second = some found ↔ q ∧ found = value) (found : α) :
    first.or second = some found ↔ (p ∨ q) ∧ found = value := by
  cases first with
  | none =>
    have never : ¬ p := fun holds => by simpa using (left value).2 ⟨holds, rfl⟩
    simp [right found, never]
  | some other =>
    obtain ⟨holds, rfl⟩ := (left other).1 rfl
    simp [holds, eq_comm]

theorem character_eq_some_iff {c : Char} {word rest : List Char} (run : IsWord word)
    (ends : endsWord rest = true) (found : Match) :
    character ('#' :: '\\' :: (c :: word ++ rest)) = some found ↔
      (Folds (c :: word) ∨ word = []) ∧ found = ('#' :: '\\' :: c :: word, rest) := by
  have choice := or_eq_some_iff
    (name_eq_some_iff (c := c) (by decide : "newline".toList ≠ []) (by decide) run ends)
    (or_eq_some_iff
      (name_eq_some_iff (by decide : "space".toList ≠ []) (by decide) run ends)
      (single_eq_some_iff run ends))
  simp only [character, Option.map_eq_some_iff, choice, ← or_assoc, Folds]
  constructor
  · rintro ⟨_, ⟨shape, rfl⟩, rfl⟩
    exact ⟨shape, rfl⟩
  · rintro ⟨shape, rfl⟩
    exact ⟨_, ⟨shape, rfl⟩, rfl⟩

theorem boolean_marked (text : List Char) : boolean ('#' :: '\\' :: text) = none := by
  simp [boolean]

theorem spelling_mark (text : List Char) :
    spelling ('#' :: text) = (boolean ('#' :: text)).or (character ('#' :: text)) := by
  have noWord : word ('#' :: text) = none := by
    simp [word, isTerminator, isSpace, isOpening, isClosing]
  simp [spelling, string, number, noWord]

end Pattern

-- A name of a character to the pattern, and to nothing else.
def Misnamed (spelling : List Char) : Prop :=
  ∃ letters, spelling = '#' :: '\\' :: letters ∧ Pattern.Folds letters ∧
    namedCharacter? letters = none

theorem isBooleanLetter_iff (c : Char) :
    c ∈ ['t', 'T', 'f', 'F'] ↔ c.toLower = 't' ∨ c.toLower = 'f' := by
  constructor
  · intro member
    simp only [List.mem_cons, List.not_mem_nil, or_false] at member
    rcases member with rfl | rfl | rfl | rfl <;> decide
  · rintro (lower | lower)
    · rcases Pattern.eq_or_eq_of_toLower (by decide) lower with rfl | rfl <;> decide
    · rcases Pattern.eq_or_eq_of_toLower (by decide) lower with rfl | rfl <;> decide

theorem hashLiteral?_cons {c : Char} {body : List Char} (other : c ≠ '\\') :
    (hashLiteral? (c :: body)).isSome ↔ c ∈ ['t', 'T', 'f', 'F'] ∧ body = [] := by
  rw [isBooleanLetter_iff]
  cases body with
  | nil =>
    by_cases true_ : c.toLower = 't'
    · simp [hashLiteral?, true_]
    · by_cases false_ : c.toLower = 'f' <;> simp [hashLiteral?, true_, false_, other]
  | cons d body => simp [hashLiteral?, other]

theorem hashLiteral?_marked (c : Char) (word : List Char) :
    (hashLiteral? ('\\' :: c :: word)).isSome ↔
      (namedCharacter? (c :: word)).isSome ∨ word = [] := by
  have long (letter : Char) : ('\\' :: c :: word).map Char.toLower ≠ [letter] := by simp
  simp only [hashLiteral?, long, if_false, Option.isSome_map, character?, Option.isSome_or,
    Bool.or_eq_true]
  cases word <;> simp

namespace Pattern

theorem boolean_word {word rest : List Char} (run : IsWord ('#' :: word))
    (other : ¬ ['#', '\\'] <+: '#' :: word) (ends : endsWord rest = true) (found : Match) :
    boolean ('#' :: (word ++ rest)) = some found ↔
      (hashLiteral? word).isSome ∧ found = ('#' :: word, rest) := by
  cases word with
  | nil =>
    have missing : boolean ('#' :: rest) = none := by
      cases rest with
      | nil => rfl
      | cons c rest =>
        have outside : c ∉ ['t', 'T', 'f', 'F'] := by
          intro member
          simp only [List.mem_cons, List.not_mem_nil, or_false] at member
          rw [endsWord_cons] at ends
          rcases member with rfl | rfl | rfl | rfl <;> exact absurd ends (by decide)
        simp [boolean, outside]
    simp [missing, hashLiteral?]
  | cons c word =>
    have plain : c ≠ '\\' := by simpa [List.cons_prefix_cons, eq_comm] using other
    rw [hashLiteral?_cons plain]
    cases word with
    | nil => simp [boolean, ends, eq_comm]
    | cons d word => simp [boolean, run d (by simp)]

theorem character_word {word rest : List Char} (other : ¬ ['#', '\\'] <+: '#' :: word)
    (ends : endsWord rest = true) : character ('#' :: (word ++ rest)) = none := by
  unfold character
  split
  next rest' whole =>
    cases word with
    | nil =>
      simp only [List.nil_append, List.cons.injEq, true_and] at whole
      rw [whole, endsWord_cons] at ends
      exact absurd ends (by decide)
    | cons c word =>
      simp only [List.cons_append, List.cons.injEq, true_and] at whole
      simp [List.cons_prefix_cons, whole.1] at other
  next => rfl

theorem spelling_hash {body rest : List Char} (atom : Atom ('#' :: body) rest) (found : Match) :
    spelling ('#' :: (body ++ rest)) = some found ↔
      ((hashLiteral? body).isSome ∨ Misnamed ('#' :: body)) ∧ found = ('#' :: body, rest) := by
  rw [spelling_mark]
  cases atom with
  | word _ run other ends =>
    have named : ¬ Misnamed ('#' :: body) := by
      rintro ⟨letters, same, _⟩
      exact other ⟨letters, same.symm⟩
    rw [character_word other ends, Option.or_none, boolean_word run other ends]
    simp [named]
  | @character c later _ run ends =>
    have named : Misnamed ('#' :: '\\' :: c :: later) ↔
        Folds (c :: later) ∧ namedCharacter? (c :: later) = none := by
      simp [Misnamed]
    have folds : (namedCharacter? (c :: later)).isSome → Folds (c :: later) := by
      intro isSome
      obtain ⟨d, found⟩ := Option.isSome_iff_exists.1 isSome
      exact folds_of_named found
    simp only [List.cons_append, boolean_marked, Option.none_or]
    rw [← List.cons_append, character_eq_some_iff run ends, hashLiteral?_marked, named]
    refine and_congr_left fun _ => ?_
    cases found : namedCharacter? (c :: later) with
    | none => simp [or_comm]
    | some d => simp [folds (by simp [found])]
  | cut =>
    have missing : ¬ Misnamed ['#', '\\'] := by
      rintro ⟨letters, same, folds, _⟩
      cases same
      rcases folds with matched | matched <;> cases matched
    simp [boolean, character, name, single, hashLiteral?, missing, character?, namedCharacter?,
      characterNames]

theorem number_eq_of_word {word rest : List Char} {found : Match} (run : IsWord word)
    (ends : endsWord rest = true) (matched : number (word ++ rest) = some found) :
    found = (word, rest) := by
  simp only [number, Option.ite_none_right_eq_some, Option.some.injEq] at matched
  obtain ⟨⟨_, stops⟩, rfl⟩ := matched
  have digits : IsWord ((word ++ rest).takeWhile Char.isDigit) := fun c member =>
    isDigit_inside (List.mem_takeWhile_imp member)
  have taken := digits.take_drop stops
  rw [List.takeWhile_append_dropWhile, (run.take_drop ends).1, (run.take_drop ends).2] at taken
  rw [← taken.1, ← taken.2]

theorem spelling_word {spelling' rest : List Char} (atom : Atom spelling' rest)
    (plain : spelling'.head? ≠ some '#') :
    spelling (spelling' ++ rest) = some (spelling', rest) := by
  cases atom with
  | character => exact absurd rfl plain
  | cut => exact absurd rfl plain
  | word nonempty run _ ends =>
    have found : word (spelling' ++ rest) = some (spelling', rest) := by
      simp [word, run.take_drop ends, nonempty, plain]
    obtain ⟨c, later, rfl⟩ := List.exists_cons_of_ne_nil nonempty
    simp only [List.head?_cons, ne_eq, Option.some.injEq] at plain
    have quote : c ≠ '"' := by
      rintro rfl
      exact absurd (run '"' (by simp)) (by decide)
    have noString : string (c :: later ++ rest) = none := by simp [string, quote]
    have noBoolean : boolean (c :: later ++ rest) = none := by simp [boolean, plain]
    have noCharacter : character (c :: later ++ rest) = none := by simp [character, plain]
    rw [spelling, noString, noBoolean, noCharacter, found]
    cases digits : number (c :: later ++ rest) with
    | none => rfl
    | some other => rw [number_eq_of_word run ends digits]; rfl

theorem spelling_quote (text : List Char) : spelling ('"' :: text) = string ('"' :: text) := by
  have noNumber : number ('"' :: text) = none := by simp [number, Char.isDigit]
  have noBoolean : boolean ('"' :: text) = none := by simp [boolean]
  have noCharacter : character ('"' :: text) = none := by simp [character]
  have noWord : word ('"' :: text) = none := by simp [word, isTerminator]
  simp [spelling, noNumber, noBoolean, noCharacter, noWord]

theorem unmatched_ne_nil {c : Char} (text : List Char) (visible : isSpace c = false)
    (opening : isOpening c = false) (closing : isClosing c = false) :
    unmatched (c :: text) ≠ [] := by
  simp [unmatched, visible, opening, closing]

theorem unmatched_prefix (text : List Char) : unmatched text <+: text := List.takeWhile_prefix _

end Pattern

end SchemeReader
