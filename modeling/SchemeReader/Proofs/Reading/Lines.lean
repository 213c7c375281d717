import SchemeReader.Proofs.Reading
import SchemeReader.Proofs.Reading.Seam
import SchemeReader.Proofs.Text.Lines

set_option autoImplicit false

namespace SchemeReader

open Text (CharSource splitLines splitLines_eq_cons)
open TokenSource (items)

theorem read_nil (kind : LexerKind) :
    read kind ([] : List Char) = { forms := [], fault := none } := by
  have nothing : items (Lexer.start kind ([] : List Char)) = [] := by
    apply Lexer.items_of_ahead_nil
    rw [Lexer.ahead_start, Text.drain_list]
  have none : parse kind ([] : List Char) = [] := Form.all_trees [] nothing
  rw [read, none, Reading.ofForms]

theorem forms_splitLines {kind : LexerKind} {limits : Limits} {text : List Char}
    (complete : ∀ line ∈ splitLines text, (read kind line).Complete limits) :
    (read kind text).forms = (splitLines text).flatMap (fun line => (read kind line).forms) ∧
      (read kind text).fault = none := by
  generalize split : splitLines text = lines at complete ⊢
  induction lines generalizing text with
  | nil =>
    have nothing : text = [] := by
      by_contra nonempty
      exact Text.splitLines_ne_nil nonempty split
    rw [nothing, read_nil]
    exact ⟨rfl, rfl⟩
  | cons line later ih =>
    have here := complete line List.mem_cons_self
    rcases splitLines_eq_cons split with ⟨_, ⟨rfl, rfl⟩ | ⟨rest, rfl, behind⟩⟩
    · simp only [List.flatMap_cons, List.flatMap_nil, List.append_nil, here.faultless, and_self]
    · obtain ⟨forms, faultless⟩ :=
        ih behind fun line member => complete line (List.mem_cons_of_mem _ member)
      obtain ⟨joined, fault⟩ := forms_seam rest (by decide : isSpace '\n' = true) here
      rw [joined, forms, fault, faultless, List.flatMap_cons]
      exact ⟨rfl, rfl⟩

end SchemeReader
