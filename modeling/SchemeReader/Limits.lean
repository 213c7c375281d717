set_option autoImplicit false

namespace SchemeReader

-- How deep an analysis, a printed text and a comparison of values may go on a host.
structure Limits where
  analysis : Nat
  print : Nat
  compare : Nat

def Limits.standard : Limits := { analysis := 300, print := 450, compare := 300 }

end SchemeReader
