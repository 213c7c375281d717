import SchemeReader.Tree

set_option autoImplicit false

namespace SchemeReader

variable {α : Type}

mutual

def Tree.depth : Tree α → Nat
  | .list items => Tree.depths items + 1
  | _ => 0

def Tree.depths : List (Tree α) → Nat
  | [] => 0
  | item :: rest => max item.depth (Tree.depths rest)

end

end SchemeReader
