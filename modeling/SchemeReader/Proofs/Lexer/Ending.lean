import SchemeReader.Proofs.Lexer.Draw
import SchemeReader.Proofs.Token.Stream

set_option autoImplicit false

namespace SchemeReader

open Text (CharSource)
open TokenSource (after answer answer_add)

def MisnamedBefore (text : List Char) : Prop :=
  ∃ spelling rest, text.dropWhile isSpace = spelling ++ rest ∧ Atom spelling rest ∧
    Misnamed spelling ∧ ∃ c ∈ rest, isSpace c = false

namespace Lexer

variable {σ : Type} [CharSource σ]

theorem kind_after (lexer : Lexer σ) (count : Nat) : (after lexer count).kind = lexer.kind := by
  induction count generalizing lexer with
  | zero => rfl
  | succ count ih => exact (ih _).trans (kind_draw lexer)

theorem answer_of_blank {lexer : Lexer σ} (blank : ∀ c ∈ lexer.ahead, isSpace c = true)
    (later : Nat) : answer lexer later = none := by
  induction later generalizing lexer with
  | zero =>
    have taken := lexer.draw_take
    exact taken.ended_iff.2 (List.dropWhile_eq_nil_iff.2 blank)
  | succ later ih =>
    have taken := lexer.draw_take
    rw [List.dropWhile_eq_nil_iff.2 blank] at taken
    have still : ∀ c ∈ lexer.draw.2.ahead, isSpace c = true := by simp [taken.at_end.2]
    exact ih still

theorem answers_none_iff {lexer : Lexer σ} :
    (∀ later, answer lexer later = none) ↔ ∀ c ∈ lexer.ahead, isSpace c = true := by
  constructor
  · intro ended
    have taken := lexer.draw_take
    exact List.dropWhile_eq_nil_iff.1 (taken.ended_iff.1 (ended 0))
  · exact answer_of_blank

theorem blank_behind_unmatched_iff {lexer : Lexer σ} {cause : Mismatch} {shown : String}
    (drawn : lexer.draw.1 = some (.error (.unmatched cause shown))) :
    (∀ c ∈ lexer.draw.2.ahead, isSpace c = true) ↔
      ¬ (lexer.kind = .pattern ∧ MisnamedBefore lexer.ahead) := by
  have taken := lexer.draw_take
  rw [drawn] at taken
  generalize behind : lexer.draw.2.ahead = rest at taken
  generalize here : lexer.ahead.dropWhile isSpace = text at taken
  generalize found : some (Item.error (LexError.unmatched cause shown)) = item at taken
  cases taken with
  | finish => cases found
  | token lexeme accepted =>
    rw [← Option.some.inj found] at accepted
    cases accepted
  | refused cause unreadable shapeless nonempty start =>
    have never : ¬ (lexer.kind = .pattern ∧ MisnamedBefore lexer.ahead) := by
      rintro ⟨pattern, spelling, rest, whole, atom, misnamed, _⟩
      exact shapeless pattern ⟨spelling, rest, here.symm.trans whole, atom, misnamed⟩
    simp [never]
  | misnamed pattern atom misnamed =>
    rename_i spelling
    constructor
    · rintro blank ⟨_, spelling', rest', whole, atom', _, c, member, visible⟩
      obtain ⟨_, rfl⟩ := Lexeme.unique (.atom atom) (.atom atom') (here.symm.trans whole)
      simp [blank c member] at visible
    · intro last c member
      by_contra visible
      exact last ⟨pattern, spelling, rest, here, atom, misnamed, c, member, by simpa using visible⟩

/-- After an unmatched text there is only the end, unless the pattern lexer has found a misnamed
character that is not the last thing to see. -/
theorem ends_after_unmatched_iff (kind : LexerKind) (source : σ) (count : Nat)
    (cause : Mismatch) (shown : String)
    (unmatched : answer (start kind source) count = some (.error (.unmatched cause shown))) :
    (∀ later, count < later → answer (start kind source) later = none) ↔
      ¬ (kind = .pattern ∧ MisnamedBefore (after (start kind source) count).ahead) := by
  have here := blank_behind_unmatched_iff unmatched
  rw [kind_after, kind_start, ← answers_none_iff] at here
  rw [← here]
  have shifted (later : Nat) : answer (start kind source) (count + (later + 1)) =
      answer (after (start kind source) count).draw.2 later := by
    rw [answer_add]
    rfl
  constructor
  · intro ended later
    rw [← shifted]
    exact ended _ (by omega)
  · intro ended later behind
    obtain ⟨further, rfl⟩ : ∃ further, later = count + (further + 1) :=
      ⟨later - count - 1, by omega⟩
    rw [shifted]
    exact ended further

-- The first letter of the name is no `s`, but folds to one.
def misnamedSpace : List Char := "#\\ſpace x".toList

theorem lookahead_ends_after_misnamedSpace :
    answer (start .lookahead misnamedSpace) 0 =
        some (.error (.unmatched .malformed "#\\ſpace")) ∧
      ∀ later, 0 < later → answer (start .lookahead misnamedSpace) later = none := by
  have unmatched : answer (start .lookahead misnamedSpace) 0 =
      some (.error (.unmatched .malformed "#\\ſpace")) := by
    decide +kernel
  exact ⟨unmatched, (ends_after_unmatched_iff .lookahead _ 0 _ _ unmatched).2 (by simp)⟩

theorem not_ends_after_unmatched :
    ¬ ∀ (kind : LexerKind) (source : List Char) (count : Nat) (cause : Mismatch) (shown : String),
      answer (start kind source) count = some (.error (.unmatched cause shown)) →
        ∀ later, count < later → answer (start kind source) later = none := by
  intro ends
  have drained := Text.drain_list misnamedSpace
  have unmatched : answer (start .pattern misnamedSpace) 0 =
      some (.error (.unmatched .malformed "#\\ſpace")) := by
    simp only [start, drained]
    decide
  have goesOn : answer (start .pattern misnamedSpace) 1 = some (.token (.identifier "x")) := by
    simp only [start, drained]
    decide
  have ended := ends .pattern misnamedSpace 0 _ _ unmatched 1 (by omega)
  rw [goesOn] at ended
  cases ended

end Lexer

end SchemeReader
