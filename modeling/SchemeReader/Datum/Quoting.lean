import SchemeReader.Datum
import SchemeReader.Tree

set_option autoImplicit false

namespace SchemeReader.Datum

variable {α : Type}

structure Frame (α : Type) where
  pending : List (Tree α)
  built : List Datum

def ofReverse (built : List Datum) : Datum := built.foldl (fun tail head => cons head tail) nil

def build (pending : List (Tree α)) (built : List Datum) (outer : List (Frame α)) :
    Except α Datum :=
  match pending with
  | [] =>
    match outer with
    | [] => .ok (ofReverse built)
    | frame :: outer => build frame.pending (ofReverse built :: frame.built) outer
  | .list items :: rest => build items [] (⟨rest, built⟩ :: outer)
  | .symbol name :: rest => build rest (symbol name :: built) outer
  | .literal value :: rest => build rest (literal value :: built) outer
  | .foreign value :: _ => .error value
termination_by sizeOf pending + sizeOf (outer.map Frame.pending)
decreasing_by
  all_goals
    simp only [List.map_cons, List.cons.sizeOf_spec, List.nil.sizeOf_spec, Tree.list.sizeOf_spec]
    omega

def ofTree : Tree α → Except α Datum
  | .list items => build items [] []
  | .symbol name => .ok (symbol name)
  | .literal value => .ok (literal value)
  | .foreign value => .error value

end SchemeReader.Datum
