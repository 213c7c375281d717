import Mathlib.Algebra.Order.Floor.Div
import SchemeReader.Proofs.Lexer.Sight
import SchemeReader.Proofs.Text.Chunks

set_option autoImplicit false

namespace SchemeReader.Text

open TokenSource (items)

def CharSource.draws {σ : Type} [CharSource σ] : Nat → σ → List Char × σ
  | 0, source => ([], source)
  | count + 1, source =>
    match CharSource.next source with
    | (none, rest) => ([], rest)
    | (some c, rest) =>
      let (later, final) := draws count rest
      (c :: later, final)

theorem CharSource.exhaust_of_end {σ : Type} [CharSource σ] {source final : σ}
    (ended : CharSource.next source = (none, final)) :
    CharSource.exhaust source = ([], final) := by
  rw [CharSource.exhaust]
  split <;> simp_all

theorem CharSource.exhaust_of_next {σ : Type} [CharSource σ] {source rest : σ} {c : Char}
    (drawn : CharSource.next source = (some c, rest)) :
    CharSource.exhaust source =
      (c :: (CharSource.exhaust rest).1, (CharSource.exhaust rest).2) := by
  rw [CharSource.exhaust]
  split <;> simp_all

theorem ceilDiv_bounds {size : Nat} (positive : 0 < size) (count : Nat) :
    count ≤ count ⌈/⌉ size * size ∧ count ⌈/⌉ size * size < count + size := by
  rw [Nat.ceilDiv_eq_add_pred_div]
  have split := Nat.div_add_mod (count + size - 1) size
  have small := Nat.mod_lt (count + size - 1) positive
  rw [Nat.mul_comm] at split
  omega

theorem ceilDiv_eq_of_bounds {size count requests : Nat} (positive : 0 < size)
    (enough : count ≤ requests * size) (needed : requests * size < count + size) :
    count ⌈/⌉ size = requests := by
  obtain ⟨enough', needed'⟩ := ceilDiv_bounds positive count
  have below : count ⌈/⌉ size * size < (requests + 1) * size := by rw [Nat.succ_mul]; omega
  have above : requests * size < (count ⌈/⌉ size + 1) * size := by rw [Nat.succ_mul]; omega
  have first := Nat.lt_of_mul_lt_mul_right below
  have second := Nat.lt_of_mul_lt_mul_right above
  omega

namespace Chunks

variable {size : Nat} {text : List Char}

def requests (size : Nat) (text : List Char) : Nat → List Read
  | 0 => []
  | count + 1 => ⟨size, ((text.drop (count * size)).take size).length⟩ :: requests size text count

theorem requested_requests (size : Nat) (text : List Char) (count : Nat) :
    (requests size text count).map Read.requested = List.replicate count size := by
  induction count with
  | zero => rfl
  | succ count ih => rw [requests, List.map_cons, ih, List.replicate_succ]

def drawn (size : Nat) (positive : 0 < size) (text : List Char) (count : Nat) : Chunks where
  size := size
  positive := positive
  stream := text.drop (count ⌈/⌉ size * size)
  buffer := (text.take (count ⌈/⌉ size * size)).drop count
  ended := false
  reads := requests size text (count ⌈/⌉ size)

def finished (size : Nat) (positive : 0 < size) (text : List Char) : Chunks where
  size := size
  positive := positive
  stream := []
  buffer := []
  ended := true
  reads := ⟨size, 0⟩ :: requests size text (text.length ⌈/⌉ size)

theorem drawn_zero (positive : 0 < size) :
    drawn size positive text 0 = start size positive text := by
  simp [drawn, start, requests]

theorem next_drawn (positive : 0 < size) {count : Nat} (within : count < text.length) :
    (drawn size positive text count).next =
      (some text[count], drawn size positive text (count + 1)) := by
  obtain ⟨enough, needed⟩ := ceilDiv_bounds positive count
  -- The character is still in the last chunk, or it is the first one of the next.
  by_cases left : count < count ⌈/⌉ size * size
  · have same : (count + 1) ⌈/⌉ size = count ⌈/⌉ size :=
      ceilDiv_eq_of_bounds positive left (by omega)
    have inside : count < (text.take (count ⌈/⌉ size * size)).length := by
      rw [List.length_take]
      omega
    have buffered := List.drop_eq_getElem_cons inside
    rw [List.getElem_take] at buffered
    simp only [next, drawn, buffered, same]
  · have level : count ⌈/⌉ size * size = count := by omega
    have more : (count + 1) ⌈/⌉ size = count ⌈/⌉ size + 1 :=
      ceilDiv_eq_of_bounds positive (by rw [Nat.succ_mul]; omega) (by rw [Nat.succ_mul]; omega)
    have used : (text.take count).drop count = [] :=
      List.drop_eq_nil_of_le (List.length_take_le count text)
    have chunk : (text.drop count).take size =
        text[count] :: (text.drop (count + 1)).take (size - 1) := by
      rw [List.drop_eq_getElem_cons within]
      exact List.take_cons positive
    have left : (text.take (count + size)).drop (count + 1) =
        (text.drop (count + 1)).take (size - 1) := by
      rw [List.drop_take]
      congr 1
      omega
    simp only [next, drawn, requests, more, Nat.succ_mul, level, used, chunk, left, afterRead,
      List.drop_drop, List.tail_cons, Bool.false_eq_true, if_false]

theorem next_drawn_length (positive : 0 < size) :
    (drawn size positive text text.length).next = (none, finished size positive text) := by
  obtain ⟨enough, _⟩ := ceilDiv_bounds positive text.length
  have used : (text.take (text.length ⌈/⌉ size * size)).drop text.length = [] :=
    List.drop_eq_nil_of_le (List.length_take_le' _ text)
  have nothing : text.drop (text.length ⌈/⌉ size * size) = [] := List.drop_eq_nil_of_le enough
  simp only [next, drawn, finished, used, nothing, afterRead, List.take_nil, List.drop_nil,
    List.tail_nil, List.length_nil, Bool.false_eq_true, if_false]

theorem draws_drawn (positive : 0 < size) {count before : Nat}
    (within : before + count ≤ text.length) :
    CharSource.draws count (drawn size positive text before) =
      ((text.drop before).take count, drawn size positive text (before + count)) := by
  induction count generalizing before with
  | zero => rfl
  | succ count ih =>
    have inside : before < text.length := by omega
    have first : CharSource.next (drawn size positive text before) =
        (some text[before], drawn size positive text (before + 1)) := next_drawn positive inside
    have later := ih (show before + 1 + count ≤ text.length by omega)
    rw [CharSource.draws, first, List.drop_eq_getElem_cons inside]
    simp only [later, List.take_succ_cons, Nat.add_right_comm before 1 count, Nat.add_assoc]

theorem exhaust_drawn (positive : 0 < size) {before : Nat} (within : before ≤ text.length) :
    CharSource.exhaust (drawn size positive text before) =
      (text.drop before, finished size positive text) := by
  induction left : text.length - before generalizing before with
  | zero =>
    have level : before = text.length := by omega
    rw [level, List.drop_length]
    exact CharSource.exhaust_of_end (next_drawn_length positive)
  | succ left ih =>
    have inside : before < text.length := by omega
    rw [CharSource.exhaust_of_next (next_drawn positive inside),
      ih (show before + 1 ≤ text.length by omega) (by omega), ← List.drop_eq_getElem_cons inside]

/-- The first characters of a text are drawn with as many requests as it takes chunks to hold them,
and its end takes one more. -/
theorem reads_on_demand {size : Nat} (positive : 0 < size) (text : List Char) :
    (∀ count ≤ text.length,
        (CharSource.draws count (start size positive text)).1 = text.take count ∧
          (CharSource.draws count (start size positive text)).2.reads.map Read.requested =
            List.replicate (count ⌈/⌉ size) size) ∧
      ((CharSource.exhaust (start size positive text)).1 = text ∧
        (CharSource.exhaust (start size positive text)).2.reads.map Read.requested =
          List.replicate (text.length ⌈/⌉ size + 1) size) ∧
      items (Lexer.start .lookahead (start size positive text)) =
        items (Lexer.start .lookahead text) := by
  refine ⟨?_, ?_, ?_⟩
  · intro count within
    rw [← drawn_zero, draws_drawn positive (by omega), Nat.zero_add]
    exact ⟨rfl, requested_requests size text (count ⌈/⌉ size)⟩
  · rw [← drawn_zero, exhaust_drawn positive (Nat.zero_le _)]
    refine ⟨rfl, ?_⟩
    rw [finished, List.map_cons, requested_requests, List.replicate_succ]
  · rw [Lexer.items_start_drain, drain_start]

theorem reads_on_demand_in_threes :
    0 < 3 ∧
      (CharSource.draws 4 (start 3 (by decide) "(abcd)".toList)).1 = "(abc".toList ∧
      (CharSource.draws 4 (start 3 (by decide) "(abcd)".toList)).2.reads.map Read.requested =
        [3, 3] ∧
      (CharSource.exhaust (start 3 (by decide) "(abcd)".toList)).2.reads.map Read.requested =
        [3, 3, 3] ∧
      items (Lexer.start .lookahead (start 3 (by decide) "(abcd)".toList)) =
        items (Lexer.start .lookahead "(abcd)".toList) := by
  obtain ⟨demand, ⟨_, all⟩, same⟩ := reads_on_demand (show 0 < 3 by decide) "(abcd)".toList
  obtain ⟨first, asked⟩ := demand 4 (by decide)
  exact ⟨by decide, first, asked, all, same⟩

end Chunks

end SchemeReader.Text
