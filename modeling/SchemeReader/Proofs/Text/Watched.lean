import SchemeReader.Proofs.Text.Chunks

set_option autoImplicit false

namespace SchemeReader.Text

namespace CharSource

class Settled (σ : Type) [CharSource σ] : Prop where
  drain_after_end : ∀ {source rest : σ}, next source = (none, rest) → drain rest = []

end CharSource

open CharSource (Settled)

instance : Settled (List Char) where
  drain_after_end {source rest} ended := by
    cases source with
    | nil =>
      cases ended
      exact drain_list []
    | cons c later => cases ended

theorem Chunks.rest_of_end {chunks later : Chunks} (ended : chunks.next = (none, later)) :
    later.rest = [] := by
  unfold next at ended
  split at ended
  · cases ended
  next buffered =>
    split at ended
    next finished =>
      cases ended
      simp [rest, buffered, finished]
    next =>
      split at ended
      · cases ended
        rfl
      · cases ended

instance : Settled Chunks where
  drain_after_end {_ rest} ended := by
    rw [rest.drain_eq_rest]
    exact Chunks.rest_of_end ended

structure Watched (σ : Type) where
  source : σ
  asked : Bool

namespace Watched

variable {σ : Type} [CharSource σ]

instance : CharSource (Watched σ) where
  next watched :=
    let (c, rest) := CharSource.next watched.source
    (c, { source := rest, asked := watched.asked || c.isNone })
  size watched := CharSource.size watched.source
  size_next watched := CharSource.size_next watched.source

def start (source : σ) : Watched σ := { source, asked := false }

theorem next_eq (watched : Watched σ) {c : Option Char} {rest : σ}
    (drawn : CharSource.next watched.source = (c, rest)) :
    CharSource.next watched = (c, { source := rest, asked := watched.asked || c.isNone }) := by
  simp [CharSource.next, drawn]

theorem drain_eq (watched : Watched σ) :
    CharSource.drain watched = CharSource.drain watched.source := by
  obtain ⟨source, asked⟩ := watched
  change CharSource.drain (⟨source, asked⟩ : Watched σ) = (CharSource.exhaust source).1
  fun_induction CharSource.exhaust source generalizing asked with
  | case1 source final ended =>
    rw [CharSource.drain_eq, next_eq ⟨source, asked⟩ ended]
  | case2 source c rest drawn later final result ih =>
    rw [result] at ih
    rw [CharSource.drain_eq, next_eq ⟨source, asked⟩ drawn]
    simp only [ih]

instance [Settled σ] : Settled (Watched σ) where
  drain_after_end {watched rest} ended := by
    cases drawn : CharSource.next watched.source with
    | mk c later =>
      rw [next_eq watched drawn] at ended
      cases ended
      rw [drain_eq]
      exact Settled.drain_after_end drawn

end Watched

end SchemeReader.Text
