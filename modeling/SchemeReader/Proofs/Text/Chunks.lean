import SchemeReader.Proofs.Lexer.Ahead
import SchemeReader.Text.Chunks

set_option autoImplicit false

namespace SchemeReader.Text.Chunks

def rest (chunks : Chunks) : List Char :=
  chunks.buffer ++ if chunks.ended then [] else chunks.stream

theorem rest_next (chunks : Chunks) :
    (chunks.next.1 = none ∧ chunks.rest = []) ∨
      ∃ c, chunks.next.1 = some c ∧ chunks.rest = c :: chunks.next.2.rest := by
  unfold next
  split
  next c later buffered =>
    right
    exact ⟨c, rfl, by simp [rest, buffered]⟩
  next buffered =>
    split
    next ended =>
      left
      exact ⟨rfl, by simp [rest, buffered, ended]⟩
    next open_ =>
      have whole := List.take_append_drop chunks.size chunks.stream
      split
      next empty =>
        left
        have nothing : chunks.stream = [] := by
          rcases List.take_eq_nil_iff.1 empty with none | nothing
          · have positive := chunks.positive
            omega
          · exact nothing
        exact ⟨rfl, by simp [rest, buffered, nothing]⟩
      next c later chunk =>
        right
        rw [chunk] at whole
        refine ⟨c, rfl, ?_⟩
        simp only [rest, buffered, open_, afterRead, List.tail_cons]
        exact whole.symm

theorem drain_eq_rest (chunks : Chunks) : CharSource.drain chunks = chunks.rest := by
  unfold CharSource.drain
  fun_induction CharSource.exhaust chunks with
  | case1 chunks final ended =>
    have none : chunks.next = (.none, final) := ended
    rcases chunks.rest_next with ⟨_, nothing⟩ | ⟨c, found, _⟩
    · exact nothing.symm
    · rw [none] at found
      cases found
  | case2 chunks c later drawn run final result ih =>
    have some : chunks.next = (.some c, later) := drawn
    rw [result] at ih
    rcases chunks.rest_next with ⟨missing, _⟩ | ⟨d, found, whole⟩
    · rw [some] at missing
      cases missing
    · rw [some] at found whole
      cases found
      rw [whole, ← ih]

theorem drain_start (size : Nat) (positive : 0 < size) (text : List Char) :
    CharSource.drain (start size positive text) = text :=
  drain_eq_rest (start size positive text)

end SchemeReader.Text.Chunks
