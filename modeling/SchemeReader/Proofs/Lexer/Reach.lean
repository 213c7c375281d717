import SchemeReader.Proofs.Lexer.Overlong
import SchemeReader.Proofs.Lexer.Pass
import SchemeReader.Proofs.Text.Watched

set_option autoImplicit false

namespace SchemeReader

open Text (CharSource Watched)
open Text.CharSource (Settled)
open TokenSource (after answer items items_of_end items_of_item)

namespace Cursor

variable {σ : Type} [CharSource σ]

def unread (cursor : Cursor σ) : List Char := cursor.source.elim [] CharSource.drain

theorem ahead_advance (cursor : Cursor σ) : cursor.advance.ahead = cursor.unread := by
  unfold advance unread
  split
  next given_up => simp [given_up, ahead]
  next source found => simp [found]

structure Counts (total : Nat) (cursor : Cursor σ) : Prop where
  ended : cursor.peek = none → cursor.unread = []
  whole : cursor.source.isSome = true → cursor.taken + cursor.unread.length = total

theorem counts_fetch [Settled σ] (source : σ) (taken : Nat) :
    (fetch source taken).Counts (taken + (CharSource.drain source).length) := by
  have text := CharSource.drain_eq source
  unfold fetch
  cases drawn : CharSource.next source with
  | mk c rest =>
    rw [drawn] at text
    cases c with
    | none =>
      have nothing := Settled.drain_after_end drawn
      exact { ended := fun _ => nothing, whole := by simp [unread, nothing, text] }
    | some c =>
      exact { ended := nofun, whole := by simp [unread, text]; omega }

theorem isSome_source_advance {cursor : Cursor σ} (going : cursor.source.isSome = true) :
    cursor.advance.source.isSome = true := by
  obtain ⟨source, found⟩ := Option.isSome_iff_exists.1 going
  simp only [advance, found, fetch]
  split <;> rfl

theorem taken_le_advance (cursor : Cursor σ) : cursor.taken ≤ cursor.advance.taken := by
  unfold advance
  split
  · exact Nat.le_refl _
  · unfold fetch
    split <;> simp

theorem seen_lexeme_atom {c : Char} (cursor : Cursor σ) (inside : isTerminator c = false) :
    ∃ body, cursor.ahead = body ++ (cursor.lexeme c).2.ahead ∧
      Seen (c :: body) (some (cursor.lexeme c).1) (cursor.lexeme c).2.ahead := by
  have quote : c ≠ '"' := by
    rintro rfl
    exact absurd inside (by decide)
  have body := ahead_atomBody inside cursor
  have atom := atom_firstAtom inside cursor.ahead
  have whole := firstAtom_splits (c :: cursor.ahead)
  rw [← body.1, ← body.2] at atom whole
  simp only [lexeme, quote, if_false]
  refine ⟨(cursor.atomBody c).1, ?_, ?_⟩
  · simpa using whole.symm
  · rw [← atom.lexemeItem_eq]
    exact .lexeme (.atom atom)

namespace Counts

variable {cursor : Cursor σ} {total : Nat}

theorem taken_eq (counts : cursor.Counts total) (going : cursor.source.isSome = true)
    {offset : Nat} (level : offset + cursor.ahead.length = total) :
    cursor.taken = min (offset + 1) total := by
  have whole := counts.whole going
  cases found : cursor.peek with
  | none =>
    simp only [counts.ended found, ahead_of_peek_none found, List.length_nil] at whole level
    omega
  | some c =>
    rw [ahead_eq_cons found, ahead_advance, List.length_cons] at level
    omega

section

variable [Settled σ]

theorem advance (counts : cursor.Counts total) : cursor.advance.Counts total := by
  unfold Cursor.advance
  split
  next given_up =>
    exact { ended := fun _ => by simp [unread, given_up], whole := by simp [given_up] }
  next source found =>
    have fetched := counts_fetch source cursor.taken
    have level := counts.whole (by simp [found])
    simp only [unread, found, Option.elim_some] at level
    rwa [level] at fetched

theorem reach (counts : cursor.Counts total) : cursor.reach.Counts total :=
  reach_keeps (P := Counts total) (fun _ => advance) counts

theorem ahead_stringBody_unclosed (counts : cursor.Counts total)
    (unclosed : cursor.stringBody.2.1 = false) : cursor.stringBody.2.2.ahead = [] := by
  fun_induction stringBody cursor with
  | case1 cursor ended => rw [ahead_advance, counts.ended ended]
  | case2 => cases unclosed
  | case3 cursor ended => rw [ahead_advance, counts.advance.ended ended]
  | case4 cursor _ _ _ _ _ result _ _ ih =>
    rw [result] at ih
    exact ih counts.advance.advance unclosed
  | case5 cursor _ _ _ _ _ _ _ result ih =>
    rw [result] at ih
    exact ih counts.advance unclosed

theorem seen_lexeme_quote (counts : cursor.Counts total) :
    ∃ body, cursor.ahead = body ++ (cursor.lexeme '"').2.ahead ∧
      Seen ('"' :: body) (some (cursor.lexeme '"').1) (cursor.lexeme '"').2.ahead := by
  have body := ahead_stringBody cursor
  cases result : Pattern.stringBody cursor.ahead with
  | some found =>
    obtain ⟨inner, enclosed, spelled, whole⟩ := Pattern.enclosed_of_stringBody result
    simp only [result] at body
    refine ⟨found.1, ?_, ?_⟩
    · simp [lexeme, body, spelled, whole]
    · simp only [lexeme, if_true, body, spelled]
      rw [← lexemeItem_string]
      exact .lexeme (.string enclosed)
  | none =>
    simp only [result] at body
    have nothing := counts.ahead_stringBody_unclosed body.2
    refine ⟨cursor.ahead, ?_, ?_⟩
    · simp [lexeme, body, nothing]
    · simp only [lexeme, if_true, body]
      rw [if_neg Bool.false_ne_true, nothing]
      exact .unclosed (Pattern.stringBody_eq_none_iff.1 result)

theorem seen_reachFrom (counts : cursor.Counts total) {c : Char} (visible : isSpace c = false) :
    ∃ body, cursor.ahead = body ++ (cursor.reachFrom c).ahead ∧
      Seen (c :: body) (some (cursor.itemFrom c).1) (cursor.reachFrom c).ahead := by
  unfold reachFrom itemFrom
  by_cases opening : isOpening c = true
  · simp only [opening, Bool.true_or, if_true]
    refine ⟨[], rfl, ?_⟩
    rw [← lexemeItem_opening opening]
    exact .lexeme (.bracket (.inl opening))
  · by_cases closing : isClosing c = true
    · simp only [opening, closing, Bool.or_true, if_true]
      refine ⟨[], rfl, ?_⟩
      rw [← lexemeItem_closing closing]
      exact .lexeme (.bracket (.inr closing))
    · simp only [opening, closing]
      by_cases quote : c = '"'
      · subst quote
        exact counts.seen_lexeme_quote
      · exact seen_lexeme_atom cursor (by simp [isTerminator, *])

theorem pass (counts : cursor.Counts total) :
    ∃ passed, cursor.ahead = passed ++ cursor.reach.ahead ∧
      Pass passed cursor.draw.1 cursor.reach.ahead := by
  have skipped : cursor.skipSpace.ahead = cursor.ahead.dropWhile isSpace :=
    (ahead_takeWhile isSpace cursor).2
  have visible : cursor.skipSpace.Counts total :=
    takeWhile_keeps (P := Counts total) (fun _ => advance) isSpace counts
  have blank := isBlank_takeWhile cursor.ahead
  have split := List.takeWhile_append_dropWhile (p := isSpace) (l := cursor.ahead)
  rw [← skipped] at split
  unfold Cursor.reach Cursor.draw take
  cases found : cursor.skipSpace.peek with
  | none =>
    have nothing := ahead_of_peek_none found
    refine ⟨cursor.ahead.takeWhile isSpace ++ [], ?_, ?_⟩
    · simpa using split.symm
    · simp only [nothing]
      exact .blanks blank .nothing
  | some c =>
    have shown := ahead_eq_cons found
    have first : isSpace c = false := by
      apply visible_dropWhile cursor.ahead
      rw [← skipped, shown]
      rfl
    obtain ⟨body, whole, seen⟩ := visible.advance.seen_reachFrom first
    refine ⟨cursor.ahead.takeWhile isSpace ++ c :: body, ?_, .blanks blank seen⟩
    rw [shown, whole] at split
    simpa using split.symm

end

end Counts

end Cursor

end SchemeReader
