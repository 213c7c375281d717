import SchemeReader.Literal

set_option autoImplicit false

namespace SchemeReader

inductive Tree (α : Type)
  | symbol (name : String)
  | literal (value : Literal)
  | list (items : List (Tree α))
  | foreign (value : α)

abbrev Node := Tree Empty

end SchemeReader
