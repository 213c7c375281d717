import Mathlib.Data.List.Infix
import SchemeReader.Proofs.Parser

set_option autoImplicit false

namespace SchemeReader

variable {α : Type}

def Item.step : Item α → Int
  | .token .opening => 1
  | .token .closing => -1
  | _ => 0

def level : List (Item α) → Int
  | [] => 0
  | item :: rest => item.step + level rest

@[simp] theorem level_nil : level ([] : List (Item α)) = 0 := rfl

@[simp] theorem level_cons (item : Item α) (run : List (Item α)) :
    level (item :: run) = item.step + level run :=
  rfl

@[simp] theorem level_append (run later : List (Item α)) :
    level (run ++ later) = level run + level later := by
  induction run with
  | nil => simp
  | cons item rest ih => simp [ih, Int.add_assoc]

theorem start_of_append {start run later : List (Item α)} (within : start <+: run ++ later) :
    start <+: run ∨ ∃ behind, start = run ++ behind ∧ behind <+: later := by
  rcases List.prefix_or_prefix_of_prefix within (List.prefix_append run later) with inside | whole
  · exact .inl inside
  · obtain ⟨behind, rfl⟩ := whole
    exact .inr ⟨behind, rfl, (List.prefix_append_right_inj run).1 within⟩

structure Balanced (run : List (Item α)) : Prop where
  tokens : ∀ item ∈ run, ∃ token, item = .token token
  level_nonneg : ∀ start, start <+: run → 0 ≤ level start
  settled : level run = 0

namespace Balanced

theorem nil : Balanced ([] : List (Item α)) where
  tokens := by simp
  level_nonneg := by simp
  settled := rfl

theorem of_atom {token : Token α} (flat : (Item.token token).step = 0) :
    Balanced [Item.token token] where
  tokens item member := ⟨token, List.mem_singleton.1 member⟩
  level_nonneg start within := by
    rcases List.prefix_cons_iff.1 within with rfl | ⟨later, rfl, inside⟩
    · simp
    · simp [List.prefix_nil.1 inside, flat]
  settled := by simp [flat]

theorem append {run later : List (Item α)} (first : Balanced run) (second : Balanced later) :
    Balanced (run ++ later) where
  tokens item member := by
    rcases List.mem_append.1 member with inside | behind
    · exact first.tokens item inside
    · exact second.tokens item behind
  level_nonneg start within := by
    rcases start_of_append within with inside | ⟨behind, rfl, inside⟩
    · exact first.level_nonneg start inside
    · rw [level_append, first.settled, Int.zero_add]
      exact second.level_nonneg behind inside
  settled := by rw [level_append, first.settled, second.settled, Int.zero_add]

theorem enclose {run : List (Item α)} (balanced : Balanced run) :
    Balanced (.token .opening :: (run ++ [.token .closing])) where
  tokens item member := by
    simp only [List.mem_cons, List.mem_append, List.not_mem_nil, or_false] at member
    rcases member with rfl | inside | rfl
    · exact ⟨_, rfl⟩
    · exact balanced.tokens item inside
    · exact ⟨_, rfl⟩
  level_nonneg start within := by
    rcases List.prefix_cons_iff.1 within with rfl | ⟨later, rfl, opened⟩
    · simp
    · rcases List.prefix_concat_iff.1 opened with rfl | inside
      · simp [Item.step, balanced.settled]
      · have above := balanced.level_nonneg later inside
        simp only [level_cons, Item.step]
        omega
  settled := by simp [Item.step, balanced.settled]

end Balanced

mutual

theorem Tree.balanced_items (tree : Tree α) : Balanced tree.items := by
  match tree with
  | .symbol name => exact .of_atom rfl
  | .literal value => exact .of_atom rfl
  | .foreign value => exact .of_atom rfl
  | .list trees => exact (Tree.balanced_itemLists trees).enclose

theorem Tree.balanced_itemLists (trees : List (Tree α)) :
    Balanced (Tree.itemLists trees).flatten := by
  match trees with
  | [] => exact .nil
  | tree :: rest => exact tree.balanced_items.append (Tree.balanced_itemLists rest)

end

structure Unfinished (run : List (Item α)) : Prop where
  tokens : ∀ item ∈ run, ∃ token, item = .token token
  pending : ∀ start, start <+: run → start ≠ [] → 0 < level start

namespace Unfinished

theorem nil : Unfinished ([] : List (Item α)) where
  tokens := by simp
  pending start within nonempty := absurd (List.prefix_nil.1 within) nonempty

theorem level_nonneg {run : List (Item α)} (unfinished : Unfinished run) : 0 ≤ level run := by
  by_cases empty : run = []
  · simp [empty]
  · exact Int.le_of_lt (unfinished.pending run List.prefix_rfl empty)

theorem deepen {run later : List (Item α)} (unfinished : Unfinished run)
    (balanced : Balanced later) : Unfinished (run ++ .token .opening :: later) where
  tokens item member := by
    simp only [List.mem_append, List.mem_cons] at member
    rcases member with before | rfl | behind
    · exact unfinished.tokens item before
    · exact ⟨_, rfl⟩
    · exact balanced.tokens item behind
  pending start within nonempty := by
    have before := unfinished.level_nonneg
    rcases start_of_append within with inside | ⟨behind, rfl, opened⟩
    · exact unfinished.pending start inside nonempty
    · rcases List.prefix_cons_iff.1 opened with rfl | ⟨others, rfl, inside⟩
      · rw [List.append_nil] at nonempty ⊢
        exact unfinished.pending run List.prefix_rfl nonempty
      · have above := balanced.level_nonneg others inside
        simp only [level_append, level_cons, Item.step]
        omega

end Unfinished

end SchemeReader
