import SchemeReader.Literal.Spelling
import SchemeReader.Text.Parenthesized
import SchemeReader.Tree

set_option autoImplicit false

namespace SchemeReader

mutual

def Tree.spelling : Node → List Char
  | .symbol name => name.toList
  | .literal value => value.spelling
  | .list items => Text.parenthesized (Tree.spellings items)
  | .foreign value => nomatch value

def Tree.spellings : List Node → List (List Char)
  | [] => []
  | item :: rest => item.spelling :: Tree.spellings rest

end

def Tree.source (node : Node) : String := String.ofList node.spelling

end SchemeReader
