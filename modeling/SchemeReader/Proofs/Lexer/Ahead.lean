import SchemeReader.Lexer.Lookahead
import SchemeReader.Proofs.Lexeme

set_option autoImplicit false

namespace SchemeReader

open Text (CharSource)

variable {σ : Type} [CharSource σ]

theorem Text.CharSource.drain_eq (source : σ) :
    CharSource.drain source =
      match CharSource.next source with
      | (none, _) => []
      | (some c, rest) => c :: CharSource.drain rest := by
  unfold CharSource.drain
  rw [CharSource.exhaust]
  split <;> simp [*]

namespace Cursor

def ahead (cursor : Cursor σ) : List Char :=
  match cursor.peek with
  | none => []
  | some c => c :: cursor.source.elim [] CharSource.drain

theorem ahead_of_peek_none {cursor : Cursor σ} (ended : cursor.peek = none) :
    cursor.ahead = [] := by
  simp [ahead, ended]

@[simp] theorem ahead_fetch (source : σ) (taken : Nat) :
    (fetch source taken).ahead = CharSource.drain source := by
  rw [CharSource.drain_eq]
  unfold fetch
  split <;> simp [ahead, *]

theorem ahead_eq_cons {cursor : Cursor σ} {c : Char} (found : cursor.peek = some c) :
    cursor.ahead = c :: cursor.advance.ahead := by
  unfold advance
  cases behind : cursor.source with
  | none => simp [ahead, found, behind]
  | some source =>
    rw [ahead_fetch]
    simp [ahead, found, behind]

theorem head?_ahead (cursor : Cursor σ) : cursor.ahead.head? = cursor.peek := by
  cases found : cursor.peek <;> simp [ahead, found]

theorem peek_of_ahead {cursor : Cursor σ} {c : Char} {rest : List Char}
    (here : cursor.ahead = c :: rest) :
    cursor.peek = some c ∧ cursor.advance.ahead = rest := by
  have found : cursor.peek = some c := by rw [← head?_ahead, here, List.head?_cons]
  rw [ahead_eq_cons found, List.cons.injEq] at here
  exact ⟨found, here.2⟩

theorem peek_of_ahead_nil {cursor : Cursor σ} (here : cursor.ahead = []) : cursor.peek = none := by
  rw [← head?_ahead, here, List.head?_nil]

@[simp] theorem ahead_close (cursor : Cursor σ) : cursor.close.ahead = [] := rfl

theorem ahead_takeWhile (p : Char → Bool) (cursor : Cursor σ) :
    (cursor.takeWhile p).1 = cursor.ahead.takeWhile p ∧
      (cursor.takeWhile p).2.ahead = cursor.ahead.dropWhile p := by
  fun_induction takeWhile p cursor with
  | case1 cursor ended => simp [ahead_of_peek_none ended]
  | case2 cursor c found inside _ _ result ih =>
    simp only [result] at ih
    simp [ahead_eq_cons found, inside, ih]
  | case3 cursor c found outside => simp [ahead_eq_cons found, outside]

-- The cursor finds the end of a string where the pattern finds it, and takes all there is when
-- there is none.
theorem ahead_stringBody (cursor : Cursor σ) :
    match Pattern.stringBody cursor.ahead with
    | some (body, rest) =>
      cursor.stringBody.1 = body ∧ cursor.stringBody.2.1 = true ∧
        cursor.stringBody.2.2.ahead = rest
    | none => cursor.stringBody.1 = cursor.ahead ∧ cursor.stringBody.2.1 = false := by
  fun_induction stringBody cursor with
  | case1 cursor ended => simp [ahead_of_peek_none ended, Pattern.stringBody]
  | case2 cursor found => simp [ahead_eq_cons found]
  | case3 cursor ended found _ =>
    simp [ahead_eq_cons found, ahead_of_peek_none ended, Pattern.stringBody]
  | case4 cursor escaped next _ _ _ result found _ ih =>
    rw [result] at ih
    rw [ahead_eq_cons found, ahead_eq_cons next, Pattern.stringBody_escaped]
    cases inner : Pattern.stringBody cursor.advance.advance.ahead <;> simp_all
  | case5 cursor c found unquoted bare _ _ _ result ih =>
    rw [result] at ih
    rw [ahead_eq_cons found, Pattern.stringBody_plain unquoted bare]
    cases inner : Pattern.stringBody cursor.advance.ahead <;> simp_all

theorem ahead_takeWord (cursor : Cursor σ) :
    cursor.takeWord.1 = cursor.ahead.takeWhile (!isTerminator ·) ∧
      cursor.takeWord.2.ahead = cursor.ahead.dropWhile (!isTerminator ·) :=
  ahead_takeWhile _ cursor

theorem ahead_atomBody {c : Char} (inside : isTerminator c = false) (cursor : Cursor σ) :
    c :: (cursor.atomBody c).1 = (firstAtom (c :: cursor.ahead)).1 ∧
      (cursor.atomBody c).2.ahead = (firstAtom (c :: cursor.ahead)).2 := by
  unfold atomBody
  split
  next marked =>
    obtain ⟨rfl, backslash⟩ := marked
    rw [ahead_eq_cons backslash]
    split
    next ended => simp [ahead_of_peek_none ended, firstAtom]
    next d next =>
      rw [ahead_eq_cons next]
      have word := ahead_takeWord cursor.advance.advance
      exact ⟨by simp [firstAtom, word.1], word.2⟩
  next plain =>
    have word := ahead_takeWord cursor
    rw [firstAtom_of_not_marked]
    · simp [inside, word.1, word.2]
    · intro marked
      obtain ⟨behind, whole⟩ := marked
      obtain ⟨rfl, backslash⟩ := List.cons.inj whole
      exact plain ⟨rfl, (peek_of_ahead backslash.symm).1⟩

end Cursor

end SchemeReader
