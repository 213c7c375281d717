import SchemeReader.Proofs.Lexer.Division

set_option autoImplicit false

namespace SchemeReader

open Text (CharSource)

inductive Seen : List Char → Option (Item Empty) → List Char → Prop
  | nothing : Seen [] none []
  | lexeme {spelling rest : List Char} (lexeme : Lexeme spelling rest) :
      Seen spelling (some (lexemeItem spelling)) rest
  | unclosed {text : List Char} (unclosed : Unclosed text) :
      Seen text (some (.error (.unmatched .unterminated (String.ofList text)))) []

inductive Pass : List Char → Option (Item Empty) → List Char → Prop
  | blanks {blanks seen rest : List Char} {item : Option (Item Empty)} (blank : IsBlank blanks)
      (sight : Seen seen item rest) : Pass (blanks ++ seen) item rest

theorem Unclosed.ne_nil {text : List Char} (unclosed : Unclosed text) : text ≠ [] := by
  obtain ⟨body, rfl, _⟩ := unclosed
  exact List.cons_ne_nil _ _

theorem Lexeme.of_head {spelling rest rest' : List Char} {c : Char}
    (lexeme : Lexeme spelling (c :: rest)) : Lexeme spelling (c :: rest') := by
  cases lexeme with
  | bracket shape => exact .bracket shape
  | string enclosed => exact .string enclosed
  | atom atom =>
    apply Lexeme.atom
    cases atom with
    | word some run other ends => exact .word some run other ends
    | character d run ends => exact .character d run ends

namespace Seen

variable {seen rest seen' rest' : List Char} {item item' : Option (Item Empty)}

theorem visible (sight : Seen seen item rest) :
    ∀ c ∈ (seen ++ rest).head?, isSpace c = false := by
  cases sight with
  | nothing => simp
  | lexeme lexeme => exact lexeme.visible
  | unclosed unclosed =>
    obtain ⟨body, rfl, _⟩ := unclosed
    simp [isSpace]

theorem nil_iff (sight : Seen seen item rest) : seen = [] ↔ item = none := by
  cases sight with
  | nothing => simp
  | lexeme lexeme => simp [lexeme.ne_nil]
  | unclosed unclosed => simp [unclosed.ne_nil]

theorem unique (sight : Seen seen item rest) (sight' : Seen seen' item' rest')
    (same : seen ++ rest = seen' ++ rest') : seen = seen' ∧ item = item' ∧ rest = rest' := by
  cases sight with
  | nothing =>
    obtain ⟨empty, rfl⟩ := List.append_eq_nil_iff.1 same.symm
    have ended := sight'.nil_iff.1 empty
    exact ⟨empty.symm, ended.symm, rfl⟩
  | lexeme lexeme =>
    cases sight' with
    | nothing => exact absurd (List.append_eq_nil_iff.1 same).1 lexeme.ne_nil
    | lexeme lexeme' =>
      obtain ⟨rfl, rfl⟩ := lexeme.unique lexeme' same
      exact ⟨rfl, rfl, rfl⟩
    | unclosed unclosed =>
      rw [List.append_nil] at same
      exact absurd lexeme (unclosed.not_lexeme same.symm)
  | unclosed unclosed =>
    rw [List.append_nil] at same
    cases sight' with
    | nothing => exact absurd same unclosed.ne_nil
    | lexeme lexeme => exact absurd lexeme (unclosed.not_lexeme same)
    | unclosed =>
      rw [List.append_nil] at same
      subst same
      exact ⟨rfl, rfl, rfl⟩

end Seen

namespace Pass

variable {passed rest passed' rest' : List Char} {item item' : Option (Item Empty)}

theorem unique (pass : Pass passed item rest) (pass' : Pass passed' item' rest')
    (same : passed ++ rest = passed' ++ rest') :
    passed = passed' ∧ item = item' ∧ rest = rest' := by
  obtain ⟨blank, sight⟩ := pass
  obtain ⟨blank', sight'⟩ := pass'
  rw [List.append_assoc, List.append_assoc] at same
  obtain ⟨rfl, level⟩ := blank.unique blank' sight.visible sight'.visible same
  obtain ⟨rfl, rfl, rfl⟩ := sight.unique sight' level
  exact ⟨rfl, rfl, rfl⟩

theorem of_head {c : Char} (pass : Pass passed item (c :: rest)) :
    Pass passed item (c :: rest') := by
  cases pass with
  | blanks blank sight =>
    cases sight with
    | lexeme lexeme => exact .blanks blank (.lexeme lexeme.of_head)

end Pass

-- Nothing is passed any more behind an unmatched item.
inductive Ends : List Char → Nat → Nat → Prop
  | start (text : List Char) : Ends text 0 0
  | item {passed rest : List Char} {item : Item Empty} {count offset : Nat}
      (pass : Pass passed (some item) rest) (going : item.isUnmatched = false ∨ count = 0)
      (later : Ends rest count offset) : Ends (passed ++ rest) (count + 1) (passed.length + offset)

theorem Ends.unique {text : List Char} {count offset offset' : Nat} (ends : Ends text count offset)
    (ends' : Ends text count offset') : offset = offset' := by
  induction ends generalizing offset' with
  | start text => cases ends'; rfl
  | @item passed rest item count offset pass going later ih =>
    generalize whole : passed ++ rest = text at ends'
    cases ends' with
    | item pass' going' later' =>
      obtain ⟨rfl, _, rfl⟩ := pass.unique pass' whole
      rw [ih later']

namespace Cursor

variable {σ : Type} [CharSource σ]

def reachFrom (c : Char) (cursor : Cursor σ) : Cursor σ :=
  if isOpening c || isClosing c then cursor else (cursor.lexeme c).2

-- Where a draw gets to, before the cursor is closed for a text that no token matches.
def reach (cursor : Cursor σ) : Cursor σ :=
  match cursor.skipSpace.peek with
  | none => cursor.skipSpace
  | some c => cursor.skipSpace.advance.reachFrom c

theorem itemFrom_snd (c : Char) (cursor : Cursor σ) :
    (cursor.itemFrom c).2 = (cursor.reachFrom c).closeIf (cursor.itemFrom c).1.isUnmatched := by
  unfold itemFrom reachFrom
  by_cases opening : isOpening c = true
  · simp [opening, closeIf, Item.isUnmatched]
  · by_cases closing : isClosing c = true
    · simp [opening, closing, closeIf, Item.isUnmatched]
    · simp [opening, closing]

theorem draw_snd (cursor : Cursor σ) :
    cursor.draw.2 = cursor.reach.closeIf (cursor.draw.1.any Item.isUnmatched) := by
  unfold draw take reach
  cases cursor.skipSpace.peek with
  | none => rfl
  | some c => exact itemFrom_snd c cursor.skipSpace.advance

section

variable {P : Cursor σ → Prop} (step : ∀ cursor, P cursor → P cursor.advance)
include step

theorem takeWhile_keeps (p : Char → Bool) {cursor : Cursor σ} (holds : P cursor) :
    P (cursor.takeWhile p).2 := by
  fun_induction takeWhile p cursor with
  | case1 => exact holds
  | case2 cursor c found inside _ _ result ih =>
    rw [result] at ih
    exact ih (step cursor holds)
  | case3 => exact holds

theorem stringBody_keeps {cursor : Cursor σ} (holds : P cursor) : P cursor.stringBody.2.2 := by
  fun_induction stringBody cursor with
  | case1 cursor => exact step cursor holds
  | case2 cursor => exact step cursor holds
  | case3 cursor => exact step _ (step cursor holds)
  | case4 cursor _ _ _ _ _ result _ _ ih =>
    rw [result] at ih
    exact ih (step _ (step cursor holds))
  | case5 cursor _ _ _ _ _ _ _ result ih =>
    rw [result] at ih
    exact ih (step cursor holds)

theorem atomBody_keeps (first : Char) {cursor : Cursor σ} (holds : P cursor) :
    P (cursor.atomBody first).2 := by
  unfold atomBody
  split
  · split
    · exact step cursor holds
    · exact takeWhile_keeps step _ (step _ (step cursor holds))
  · exact takeWhile_keeps step _ holds

theorem lexeme_keeps (first : Char) {cursor : Cursor σ} (holds : P cursor) :
    P (cursor.lexeme first).2 := by
  have body := stringBody_keeps step holds
  unfold lexeme
  split
  · split
    next result =>
      rw [result] at body
      split <;> exact body
  · exact atomBody_keeps step first holds

theorem reach_keeps {cursor : Cursor σ} (holds : P cursor) : P cursor.reach := by
  have visible : P cursor.skipSpace := takeWhile_keeps step isSpace holds
  unfold reach
  split
  · exact visible
  · unfold reachFrom
    split
    · exact step _ visible
    · exact lexeme_keeps step _ (step _ visible)

end

end Cursor

end SchemeReader
