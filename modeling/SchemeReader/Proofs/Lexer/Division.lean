import SchemeReader.Proofs.Lexer.Draw
import SchemeReader.Proofs.Token.Stream

set_option autoImplicit false

namespace SchemeReader

open Text (CharSource)
open TokenSource (items items_of_item items_of_end)

def IsBlank (text : List Char) : Prop := ∀ c ∈ text, isSpace c = true

structure Piece where
  blanks : List Char
  spelling : List Char

structure Division where
  pieces : List Piece
  gap : List Char
  rest : List Char

namespace Division

inductive Divides : Division → List Char → Prop
  | last {gap rest : List Char} (blank : IsBlank gap)
      (visible : ∀ c ∈ rest.head?, isSpace c = false) : Divides ⟨[], gap, rest⟩ (gap ++ rest)
  | piece {blanks spelling gap rest text : List Char} {pieces : List Piece}
      (blank : IsBlank blanks) (lexeme : Lexeme spelling text)
      (later : Divides ⟨pieces, gap, rest⟩ text) :
      Divides ⟨⟨blanks, spelling⟩ :: pieces, gap, rest⟩ (blanks ++ (spelling ++ text))

def spelled (division : Division) : List (Item Empty) :=
  division.pieces.map fun piece => lexemeItem piece.spelling

end Division

def StopsAt (rest : List Char) : Option (Item Empty) → Prop
  | none => rest = []
  | some item => Unreadable rest ∧
      ∃ cause shown, item = .error (.unmatched cause (String.ofList shown)) ∧ shown ≠ [] ∧
        shown <+: rest

theorem isBlank_takeWhile (text : List Char) : IsBlank (text.takeWhile isSpace) :=
  fun _ member => List.mem_takeWhile_imp member

theorem Lexeme.visible {spelling rest : List Char} (lexeme : Lexeme spelling rest) :
    ∀ c ∈ (spelling ++ rest).head?, isSpace c = false := by
  obtain ⟨c, later, rfl⟩ := List.exists_cons_of_ne_nil lexeme.ne_nil
  simpa using lexeme.head_not_space

theorem IsBlank.unique {blanks blanks' text text' : List Char} (blank : IsBlank blanks)
    (blank' : IsBlank blanks') (visible : ∀ c ∈ text.head?, isSpace c = false)
    (visible' : ∀ c ∈ text'.head?, isSpace c = false) (same : blanks ++ text = blanks' ++ text') :
    blanks = blanks' ∧ text = text' := by
  have first := takeWhile_run blank visible
  have second := takeWhile_run blank' visible'
  rw [same] at first
  exact ⟨first.1.symm.trans second.1, first.2.symm.trans second.2⟩

namespace Division

theorem Divides.unique {first second : Division} {text : List Char} (divides : first.Divides text)
    (divides' : second.Divides text) (level : first.pieces.length = second.pieces.length) :
    first = second := by
  induction divides generalizing second with
  | @last gap rest blank visible =>
    generalize whole : gap ++ rest = text at divides'
    cases divides' with
    | last blank' visible' =>
      obtain ⟨rfl, rfl⟩ := blank.unique blank' visible visible' whole
      rfl
    | piece => simp at level
  | @piece blanks spelling _ _ later _ blank lexeme _ ih =>
    generalize whole : blanks ++ (spelling ++ later) = text at divides'
    cases divides' with
    | last => simp at level
    | piece blank' lexeme' later' =>
      obtain ⟨rfl, same⟩ := blank.unique blank' lexeme.visible lexeme'.visible whole
      obtain ⟨rfl, rfl⟩ := lexeme.unique lexeme' same
      have rest := ih later' (by simpa using level)
      cases rest
      rfl

end Division

namespace Lexer

variable {σ : Type} [CharSource σ]

theorem exists_divides (lexer : Lexer σ) :
    ∃ division : Division, division.Divides lexer.ahead ∧
      division.spelled = (items lexer).takeWhile (!·.isUnmatched) ∧
        StopsAt division.rest ((items lexer).find? (·.isUnmatched)) := by
  fun_induction items lexer with
  | case1 lexer rest drawn =>
    have taken := take_of_draw drawn
    have blank : IsBlank lexer.ahead := List.dropWhile_eq_nil_iff.1 (taken.ended_iff.1 rfl)
    have visible : ∀ c ∈ ([] : List Char).head?, isSpace c = false := by simp
    have divides := Division.Divides.last blank visible
    rw [List.append_nil] at divides
    exact ⟨_, divides, rfl, rfl⟩
  | case2 lexer item rest drawn ih =>
    have blank := isBlank_takeWhile lexer.ahead
    have whole := List.takeWhile_append_dropWhile (p := isSpace) (l := lexer.ahead)
    rcases (take_of_draw drawn).outcome with ⟨_, missing, _⟩ |
        ⟨spelling, lexeme, visible, same, accepted⟩ | ⟨unreadable, cause, shown, same, shows⟩
    next => simp at missing
    next =>
      obtain ⟨division, later, spelled, stops⟩ := ih
      cases same
      have divides := Division.Divides.piece blank lexeme later
      rw [← visible, whole] at divides
      refine ⟨_, divides, ?_, ?_⟩
      · simp only [Division.spelled] at spelled
        simp [Division.spelled, accepted, spelled]
      · simpa [accepted] using stops
    next =>
      cases same
      have divides := Division.Divides.last blank (visible_dropWhile lexer.ahead)
      rw [whole] at divides
      exact ⟨_, divides, rfl, unreadable, cause, shown, rfl, shows⟩

/-- A text is cut in exactly one way into as many spellings as there are items before the first
unmatched one, and both lexers cut it so, with no character lost. -/
theorem exists_unique_division (kind : LexerKind) (source : σ) :
    ∃ division : Division,
      (∀ other : Division, other.Divides (CharSource.drain source) ∧
        other.pieces.length = division.pieces.length ↔ other = division) ∧
      division.spelled = (items (start kind source)).takeWhile (!·.isUnmatched) ∧
      StopsAt division.rest ((items (start kind source)).find? (·.isUnmatched)) := by
  obtain ⟨division, divides, spelled, stops⟩ := exists_divides (start kind source)
  rw [ahead_start] at divides
  refine ⟨division, ?_, spelled, stops⟩
  intro other
  constructor
  · rintro ⟨divides', level⟩
    exact divides'.unique divides level
  · rintro rfl
    exact ⟨divides, rfl⟩

end Lexer

end SchemeReader
