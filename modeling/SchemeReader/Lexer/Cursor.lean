import SchemeReader.Text.CharSource

set_option autoImplicit false

namespace SchemeReader

open Text (CharSource)

structure Cursor (σ : Type) where
  peek : Option Char
  source : Option σ
  taken : Nat

namespace Cursor

variable {σ : Type} [CharSource σ]

def fetch (source : σ) (taken : Nat) : Cursor σ :=
  match CharSource.next source with
  | (none, rest) => { peek := none, source := some rest, taken }
  | (some c, rest) => { peek := some c, source := some rest, taken := taken + 1 }

def start (source : σ) : Cursor σ := fetch source 0

def advance (cursor : Cursor σ) : Cursor σ :=
  match cursor.source with
  | none => { cursor with peek := none }
  | some source => fetch source cursor.taken

def close (cursor : Cursor σ) : Cursor σ := { cursor with peek := none, source := none }

def size (cursor : Cursor σ) : Nat :=
  cursor.peek.toList.length + cursor.source.elim 0 CharSource.size

theorem size_fetch_le (source : σ) (taken : Nat) :
    (fetch source taken).size ≤ CharSource.size source := by
  have bound := CharSource.size_next source
  unfold fetch
  split
  next rest ended => simpa [size, ended] using bound
  next c rest drawn =>
    simp only [drawn, Option.toList_some, List.length_singleton] at bound
    simp only [size, Option.toList_some, List.length_singleton, Option.elim_some]
    omega

theorem size_advance_le (cursor : Cursor σ) :
    cursor.advance.size ≤ cursor.source.elim 0 CharSource.size := by
  unfold advance
  split
  next ended => simp [size, ended]
  next source found => simpa [found] using size_fetch_le source cursor.taken

theorem size_advance_lt {cursor : Cursor σ} {c : Char} (ahead : cursor.peek = some c) :
    cursor.advance.size < cursor.size := by
  have bound := size_advance_le cursor
  simp only [size, ahead, Option.toList_some, List.length_singleton] at bound ⊢
  omega

theorem size_advance_le_size (cursor : Cursor σ) : cursor.advance.size ≤ cursor.size := by
  have bound := size_advance_le cursor
  simp only [size] at bound ⊢
  omega

theorem size_close (cursor : Cursor σ) : cursor.close.size = 0 := by simp [close, size]

def takeWhile (p : Char → Bool) (cursor : Cursor σ) : List Char × Cursor σ :=
  match _ : cursor.peek with
  | none => ([], cursor)
  | some c =>
    if p c then
      let (run, rest) := takeWhile p cursor.advance
      (c :: run, rest)
    else ([], cursor)
termination_by cursor.size
decreasing_by
  rename_i ahead _
  exact size_advance_lt ahead

theorem size_takeWhile_le (p : Char → Bool) (cursor : Cursor σ) :
    (cursor.takeWhile p).2.size ≤ cursor.size := by
  fun_induction takeWhile p cursor with
  | case1 => exact Nat.le_refl _
  | case2 cursor c ahead _ _ _ result ih =>
    rw [result] at ih
    have shorter := size_advance_lt ahead
    exact Nat.le_of_lt (Nat.lt_of_le_of_lt ih shorter)
  | case3 => exact Nat.le_refl _

end Cursor

end SchemeReader
