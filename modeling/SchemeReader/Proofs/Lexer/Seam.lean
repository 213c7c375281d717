import SchemeReader.Proofs.Lexer.Division
import SchemeReader.Proofs.Lexer.Sight
import SchemeReader.Proofs.Token.Spelled

set_option autoImplicit false

namespace SchemeReader

open TokenSource (items items_of_end items_of_item)

theorem Spells.of_visible {made : List (Item Empty)} {text : List Char}
    (spells : Spells made (text.dropWhile isSpace)) : Spells made text := by
  induction text with
  | nil => exact spells
  | cons c text ih =>
    by_cases space : isSpace c = true
    · rw [List.dropWhile_cons_of_pos space] at spells
      exact .blank space (ih spells)
    · rwa [List.dropWhile_cons_of_neg space] at spells

theorem Pattern.endsWord_append {text rest : List Char} (ends : endsWord text = true)
    (behind : endsWord rest = true) : endsWord (text ++ rest) = true := by
  cases text with
  | nil => exact behind
  | cons c text => exact ends

-- The one spelling that is over only at the end of the text is refused.
theorem Lexeme.extend {spelling text rest : List Char} (lexeme : Lexeme spelling text)
    (accepted : (lexemeItem spelling).isUnmatched = false)
    (ends : Pattern.endsWord rest = true) : Lexeme spelling (text ++ rest) := by
  cases lexeme with
  | bracket shape => exact .bracket shape
  | string enclosed => exact .string enclosed
  | atom atom =>
    apply Lexeme.atom
    cases atom with
    | word some run other stops => exact .word some run other (Pattern.endsWord_append stops ends)
    | character c run stops => exact .character c run (Pattern.endsWord_append stops ends)
    | cut => cases accepted

namespace Lexer

theorem draw_of_lexeme {lexer : Lexer (List Char)} {spelling rest : List Char}
    (lexeme : Lexeme spelling rest) (accepted : (lexemeItem spelling).isUnmatched = false)
    (here : lexer.ahead = spelling ++ rest) :
    ∃ behind, TokenSource.draw lexer = (some (lexemeItem spelling), behind) ∧
      behind.ahead = rest ∧ behind.kind = lexer.kind := by
  cases drawn : TokenSource.draw lexer with
  | mk item behind =>
    have kind := kind_of_draw drawn
    have first : lexer.ahead.dropWhile isSpace = spelling ++ rest := by
      rw [here]
      have nothing : ∀ c ∈ ([] : List Char), isSpace c = true := by simp
      exact (takeWhile_run nothing lexeme.visible).2
    have taken := take_of_draw drawn
    rw [first] at taken
    rcases taken.outcome with ⟨nothing, _⟩ | ⟨spelling', lexeme', whole, rfl, _⟩ | ⟨unreadable, _⟩
    · exact absurd (List.append_eq_nil_iff.1 nothing).1 lexeme.ne_nil
    · obtain ⟨rfl, rfl⟩ := lexeme.unique lexeme' whole
      exact ⟨behind, rfl, rfl, kind⟩
    · rw [unreadable.isUnmatched lexeme] at accepted
      cases accepted

theorem spells_items (lexer : Lexer (List Char))
    (accepted : ∀ item ∈ items lexer, item.isUnmatched = false) :
    Spells (items lexer) lexer.ahead := by
  fun_induction items lexer with
  | case1 lexer rest drawn =>
    apply Spells.of_visible
    rw [(take_of_draw drawn).ended_iff.1 rfl]
    exact .finish
  | case2 lexer item rest drawn ih =>
    have later := ih fun item member => accepted item (List.mem_cons_of_mem _ member)
    apply Spells.of_visible
    rcases (take_of_draw drawn).outcome with ⟨_, missing, _⟩ |
        ⟨spelling, lexeme, whole, same, kept⟩ | ⟨_, cause, shown, same, _⟩
    · cases missing
    · cases same
      rw [whole]
      exact .token lexeme kept later
    · cases same
      cases accepted _ List.mem_cons_self

theorem items_start_append (kind : LexerKind) {made : List (Item Empty)} {text : List Char}
    (spells : Spells made text) {rest : List Char} (ends : Pattern.endsWord rest = true) :
    items (start kind (text ++ rest)) = made ++ items (start kind rest) := by
  induction spells with
  | finish => rfl
  | @blank c made text space _ ih =>
    have skipped :
        items (start kind (c :: (text ++ rest))) = items (start kind (text ++ rest)) := by
      apply items_eq_of_visible
      · rw [kind_start, kind_start]
      · rw [ahead_start, ahead_start, Text.drain_list, Text.drain_list,
          List.dropWhile_cons_of_pos space]
    exact skipped.trans ih
  | @token spelling text made lexeme accepted _ ih =>
    have here : (start kind (spelling ++ (text ++ rest))).ahead = spelling ++ (text ++ rest) := by
      rw [ahead_start, Text.drain_list]
    obtain ⟨behind, drawn, left, kind'⟩ :=
      draw_of_lexeme (lexeme.extend accepted ends) accepted here
    have later : items behind = items (start kind (text ++ rest)) := by
      apply items_eq_of_visible
      · rw [kind', kind_start, kind_start]
      · rw [left, ahead_start, Text.drain_list]
    rw [List.append_assoc, items_of_item drawn, later, ih, List.cons_append]

theorem items_seam (kind : LexerKind) {first : List Char} (second : List Char) {c : Char}
    (space : isSpace c = true)
    (accepted : ∀ item ∈ items (start kind first), item.isUnmatched = false) :
    items (start kind (first ++ c :: second)) =
      items (start kind first) ++ items (start kind second) := by
  have spells := spells_items (start kind first) accepted
  rw [ahead_start, Text.drain_list] at spells
  -- A blank ends a word as the end of the text does.
  have ends : Pattern.endsWord (c :: second) = true := by simp [isTerminator, space]
  calc
    items (start kind (first ++ c :: second))
      = items (start kind first) ++ items (start kind (c :: second)) :=
        items_start_append kind spells ends
    _ = items (start kind first) ++ items (start kind second) := by
      congr 1
      apply items_eq_of_visible
      · rw [kind_start, kind_start]
      · rw [ahead_start, ahead_start, Text.drain_list, Text.drain_list,
          List.dropWhile_cons_of_pos space]

end Lexer

end SchemeReader
