import SchemeReader.Token

set_option autoImplicit false

namespace SchemeReader.TokenSource

variable {τ α : Type} [TokenSource τ α]

theorem items_of_end {tokens rest : τ} (drawn : draw tokens = (none, rest)) :
    items tokens = [] := by
  rw [items.eq_def]
  split <;> simp_all

theorem items_of_item {tokens rest : τ} {item : Item α} (drawn : draw tokens = (some item, rest)) :
    items tokens = item :: items rest := by
  rw [items.eq_def]
  split <;> simp_all

theorem draw_of_items_nil {tokens : τ} (none : items tokens = []) :
    ∃ rest, draw tokens = (.none, rest) := by
  cases drawn : draw tokens with
  | mk item rest =>
    cases item with
    | none => exact ⟨rest, rfl⟩
    | some item => simp [items_of_item drawn] at none

theorem draw_of_items_cons {tokens : τ} {item : Item α} {later : List (Item α)}
    (some : items tokens = item :: later) :
    ∃ rest, draw tokens = (.some item, rest) ∧ items rest = later := by
  cases drawn : draw tokens with
  | mk found rest =>
    cases found with
    | none => simp [items_of_end drawn] at some
    | some found =>
      rw [items_of_item drawn] at some
      cases some
      exact ⟨rest, rfl, rfl⟩

def after (tokens : τ) : Nat → τ
  | 0 => tokens
  | count + 1 => after (draw tokens).2 count

def answer (tokens : τ) (count : Nat) : Option (Item α) := (draw (after tokens count)).1

theorem after_add (tokens : τ) (count later : Nat) :
    after tokens (count + later) = after (after tokens count) later := by
  induction count generalizing tokens with
  | zero => rw [Nat.zero_add, after]
  | succ count ih => rw [Nat.succ_add, after, after, ih]

theorem answer_add (tokens : τ) (count later : Nat) :
    answer tokens (count + later) = answer (after tokens count) later := by
  rw [answer, answer, after_add]

theorem after_list (source : List (Item α)) (count : Nat) :
    after source count = source.drop count := by
  induction count generalizing source with
  | zero => rw [after, List.drop_zero]
  | succ count ih => cases source <;> simp [after, draw, ih]

class Settled (τ : Type) {α : outParam Type} [TokenSource τ α] : Prop where
  items_after_end : ∀ {tokens rest : τ}, draw tokens = (none, rest) → items rest = []

instance : Settled (List (Item α)) where
  items_after_end {tokens rest} ended := by
    cases tokens with
    | nil =>
      cases ended
      exact items_list []
    | cons item later => cases ended

section

variable [Settled τ]

theorem answer_eq_getElem? (tokens : τ) (count : Nat) :
    answer tokens count = (items tokens)[count]? := by
  induction count generalizing tokens with
  | zero =>
    cases drawn : draw tokens with
    | mk item rest =>
      cases item with
      | none => rw [answer, after, drawn, items_of_end drawn]; rfl
      | some item => rw [answer, after, drawn, items_of_item drawn]; rfl
  | succ count ih =>
    have later : answer tokens (count + 1) = answer (draw tokens).2 count := rfl
    cases drawn : draw tokens with
    | mk item rest =>
      rw [later, ih, drawn]
      cases item with
      | none => rw [items_of_end drawn, Settled.items_after_end drawn]; rfl
      | some item => rw [items_of_item drawn]; rfl

theorem mem_items_iff {tokens : τ} {item : Item α} :
    item ∈ items tokens ↔ ∃ count, answer tokens count = some item := by
  simp only [List.mem_iff_getElem?, answer_eq_getElem?]

theorem findSome?_items_eq_some_iff {β : Type} {find : Item α → Option β} {tokens : τ} {found : β} :
    (items tokens).findSome? find = some found ↔
      ∃ count, (answer tokens count).bind find = some found ∧
        ∀ earlier < count, (answer tokens earlier).bind find = none := by
  simp only [answer_eq_getElem?]
  generalize items tokens = made
  induction made with
  | nil => simp
  | cons item later ih =>
    rw [List.findSome?_cons]
    cases here : find item with
    | some value =>
      constructor
      · intro same
        exact ⟨0, by simpa [here] using same, by simp⟩
      · rintro ⟨count, same, before⟩
        cases count with
        | zero => simpa [here] using same
        | succ count =>
          have first := before 0 (by omega)
          simp [here] at first
    | none =>
      rw [ih]
      constructor
      · rintro ⟨count, same, before⟩
        refine ⟨count + 1, same, ?_⟩
        intro earlier within
        cases earlier with
        | zero => simpa using here
        | succ earlier => exact before earlier (by omega)
      · rintro ⟨count, same, before⟩
        cases count with
        | zero => simp [here] at same
        | succ count => exact ⟨count, same, fun earlier within => before (earlier + 1) (by omega)⟩

end

end SchemeReader.TokenSource
