import SchemeReader.Text.CharSource

set_option autoImplicit false

namespace SchemeReader.Text

structure Read where
  requested : Nat
  received : Nat
deriving DecidableEq

structure Chunks where
  size : Nat
  positive : 0 < size
  stream : List Char
  buffer : List Char
  ended : Bool
  -- The requests made so far, the latest first.
  reads : List Read

namespace Chunks

def start (size : Nat) (positive : 0 < size) (text : List Char) : Chunks :=
  { size, positive, stream := text, buffer := [], ended := false, reads := [] }

def defaultSize : Nat := 4096

def ofText (text : List Char) : Chunks := start defaultSize (by decide) text

def ofSize? (size : Int) (text : List Char) : Option Chunks :=
  if positive : 0 < size.toNat then some (start size.toNat positive text) else none

def afterRead (chunks : Chunks) (chunk : List Char) : Chunks :=
  { chunks with
    stream := chunks.stream.drop chunks.size
    buffer := chunk.tail
    reads := ⟨chunks.size, chunk.length⟩ :: chunks.reads }

def next (chunks : Chunks) : Option Char × Chunks :=
  match chunks.buffer with
  | c :: rest => (some c, { chunks with buffer := rest })
  | [] =>
    if chunks.ended then (none, chunks)
    else
      match chunks.stream.take chunks.size with
      | [] => (none, { chunks.afterRead [] with ended := true })
      | c :: rest => (some c, chunks.afterRead (c :: rest))

def remaining (chunks : Chunks) : Nat := chunks.buffer.length + chunks.stream.length

theorem remaining_next (chunks : Chunks) :
    chunks.next.2.remaining + chunks.next.1.toList.length ≤ chunks.remaining := by
  unfold next
  split
  next c rest buffered =>
    simp only [remaining, buffered, Option.toList_some, List.length_cons, List.length_nil]
    omega
  next buffered =>
    split
    · simp
    · split
      next empty => simp [remaining, afterRead, buffered]
      next c rest chunk =>
        have total := congrArg List.length (List.take_append_drop chunks.size chunks.stream)
        rw [chunk] at total
        simp only [List.cons_append, List.length_cons, List.length_append] at total
        simp only [remaining, afterRead, buffered, Option.toList_some, List.length_singleton,
          List.length_nil, List.tail_cons]
        omega

instance : CharSource Chunks where
  next := next
  size := remaining
  size_next := remaining_next

def takeUpTo : (limit : Nat) → Chunks → List Char × Chunks
  | 0, chunks => ([], chunks.next.2)
  | limit + 1, chunks =>
    match chunks.next with
    | (none, after) => ([], after)
    | (some c, after) =>
      let (later, final) := takeUpTo limit after
      (c :: later, final)

end Chunks

end SchemeReader.Text
