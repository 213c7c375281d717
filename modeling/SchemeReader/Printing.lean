import SchemeReader.Limits
import SchemeReader.Tree.Depth
import SchemeReader.Tree.Spelling
import SchemeReader.Value.Spelling

set_option autoImplicit false

namespace SchemeReader

def Tree.source? (node : Node) (limits : Limits := .standard) : Option String :=
  if node.depth ≤ limits.print then some node.source else none

def Datum.source? (datum : Datum) (limits : Limits := .standard) : Option String :=
  if datum.depth ≤ limits.print then some datum.source else none

def Expr.source? (expr : Expr) (limits : Limits := .standard) : Option String :=
  if expr.depth ≤ limits.print then some expr.source else none

def Value.source? (value : Value) (limits : Limits := .standard) :
    Except Unprintable (Option String) :=
  if value.depth ≤ limits.print then (some ∘ String.ofList) <$> value.spelling else .ok none

def Value.describe? (value : Value) (limits : Limits := .standard) : Option String :=
  if value.height ≤ limits.print then some value.describe else none

end SchemeReader
