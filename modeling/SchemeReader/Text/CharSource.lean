set_option autoImplicit false

namespace SchemeReader.Text

class CharSource (σ : Type) where
  next : σ → Option Char × σ
  size : σ → Nat
  size_next : ∀ source : σ, size (next source).2 + (next source).1.toList.length ≤ size source

namespace CharSource

variable {σ : Type} [CharSource σ]

theorem size_lt_of_next {source rest : σ} {c : Char} (drawn : next source = (some c, rest)) :
    size rest < size source := by
  have bound := size_next source
  simp only [drawn, Option.toList_some, List.length_singleton] at bound
  omega

def exhaust (source : σ) : List Char × σ :=
  match _ : next source with
  | (none, final) => ([], final)
  | (some c, rest) =>
    let (later, final) := exhaust rest
    (c :: later, final)
termination_by size source
decreasing_by
  rename_i drawn
  exact size_lt_of_next drawn

def drain (source : σ) : List Char := (exhaust source).1

end CharSource

instance : CharSource (List Char) where
  next
    | [] => (none, [])
    | c :: rest => (some c, rest)
  size := List.length
  size_next
    | [] => by simp
    | _ :: _ => by simp

theorem exhaust_list (text : List Char) : CharSource.exhaust text = (text, []) := by
  induction text with
  | nil => rw [CharSource.exhaust]; rfl
  | cons c rest ih => rw [CharSource.exhaust]; simp [CharSource.next, ih]

theorem drain_list (text : List Char) : CharSource.drain text = text := by
  rw [CharSource.drain, exhaust_list]

end SchemeReader.Text
