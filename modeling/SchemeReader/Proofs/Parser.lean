import SchemeReader.Parser
import SchemeReader.Proofs.Token.Stream

set_option autoImplicit false

namespace SchemeReader

open TokenSource (items items_of_end items_of_item draw_of_items_nil draw_of_items_cons)

variable {τ α : Type}

mutual

def Tree.items : Tree α → List (Item α)
  | .symbol name => [.token (.identifier name)]
  | .literal value => [.token (.literal value)]
  | .foreign value => [.token (.foreign value)]
  | .list items => .token .opening :: ((Tree.itemLists items).flatten ++ [.token .closing])

def Tree.itemLists : List (Tree α) → List (List (Item α))
  | [] => []
  | tree :: rest => tree.items :: Tree.itemLists rest

end

namespace Form

variable [TokenSource τ α]

def proceed (outcome : OpenLists α ⊕ Form α) (tokens : τ) : Option (Form α) × τ :=
  match outcome with
  | .inl opened => resume opened tokens
  | .inr form => (some form, tokens)

theorem resume_of_end (lists : OpenLists α) {tokens rest : τ}
    (ended : TokenSource.draw tokens = (none, rest)) :
    resume lists tokens = (atEnd lists, rest) := by
  rw [resume.eq_def]
  split <;> simp_all

theorem resume_of_draw (lists : OpenLists α) {tokens rest : τ} {item : Item α}
    (drawn : TokenSource.draw tokens = (some item, rest)) :
    resume lists tokens = proceed (push lists item) rest := by
  rw [resume.eq_def]
  split
  next ended => simp [drawn] at ended
  next found rest' drawn' =>
    rw [drawn] at drawn'
    cases drawn'
    cases push lists item <;> rfl

theorem resume_of_item {tokens : τ} {item : Item α} {later : List (Item α)}
    (lists : OpenLists α) (ahead : items tokens = item :: later) :
    ∃ rest, items rest = later ∧ resume lists tokens = proceed (push lists item) rest := by
  obtain ⟨rest, drawn, behind⟩ := draw_of_items_cons ahead
  exact ⟨rest, behind, resume_of_draw lists drawn⟩

mutual

theorem resume_tree (tree : Tree α) (lists : OpenLists α) {tokens : τ} {later : List (Item α)}
    (ahead : items tokens = tree.items ++ later) :
    ∃ rest, items rest = later ∧ resume lists tokens = proceed (place tree lists) rest := by
  match tree with
  | .symbol name => exact resume_of_item lists ahead
  | .literal value => exact resume_of_item lists ahead
  | .foreign value => exact resume_of_item lists ahead
  | .list trees =>
    simp only [Tree.items, List.cons_append, List.append_assoc] at ahead
    obtain ⟨inside, ahead, opened⟩ := resume_of_item lists ahead
    obtain ⟨behind, ahead, filled⟩ := resume_trees trees [] lists ahead
    obtain ⟨rest, ahead, closed⟩ := resume_of_item ((trees.reverse ++ []) :: lists) ahead
    refine ⟨rest, ahead, ?_⟩
    calc
      resume lists tokens = resume ([] :: lists) inside := opened
      _ = resume ((trees.reverse ++ []) :: lists) behind := filled
      _ = proceed (place (.list trees) lists) rest := by simpa [push] using closed

theorem resume_trees (trees made : List (Tree α)) (outer : OpenLists α) {tokens : τ}
    {later : List (Item α)} (ahead : items tokens = (Tree.itemLists trees).flatten ++ later) :
    ∃ rest, items rest = later ∧
      resume (made :: outer) tokens = resume ((trees.reverse ++ made) :: outer) rest := by
  match trees with
  | [] => exact ⟨tokens, ahead, rfl⟩
  | first :: others =>
    simp only [Tree.itemLists, List.flatten_cons, List.append_assoc] at ahead
    obtain ⟨behind, ahead, placed⟩ := resume_tree first (made :: outer) ahead
    obtain ⟨rest, ahead, filled⟩ := resume_trees others (first :: made) outer ahead
    refine ⟨rest, ahead, ?_⟩
    calc
      resume (made :: outer) tokens = resume ((first :: made) :: outer) behind := placed
      _ = resume (((first :: others).reverse ++ made) :: outer) rest := by simpa using filled

end

theorem all_trees (trees : List (Tree α)) {tokens : τ}
    (ahead : items tokens = (Tree.itemLists trees).flatten) :
    all tokens = trees.map .tree := by
  induction trees generalizing tokens with
  | nil =>
    obtain ⟨rest, ended⟩ := draw_of_items_nil ahead
    have none : draw tokens = (none, rest) := resume_of_end [] ended
    rw [all.eq_def]
    split <;> simp_all
  | cons tree trees ih =>
    obtain ⟨rest, ahead, placed⟩ := resume_tree tree [] ahead
    have some : draw tokens = (some (.tree tree), rest) := placed
    have later := ih ahead
    rw [all.eq_def]
    split <;> simp_all

end Form

end SchemeReader
