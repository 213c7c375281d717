set_option autoImplicit false

namespace SchemeReader.Text

def isBlank (c : Char) : Bool :=
  let code := c.toNat
  (0x9 ≤ code && code ≤ 0xd) || (0x1c ≤ code && code ≤ 0x20) || code == 0x85 || code == 0xa0 ||
    code == 0x1680 || (0x2000 ≤ code && code ≤ 0x200a) || code == 0x2028 || code == 0x2029 ||
    code == 0x202f || code == 0x205f || code == 0x3000

def strip (text : String) : String :=
  let trimmed := text.toList.dropWhile isBlank
  String.ofList (trimmed.reverse.dropWhile isBlank).reverse

end SchemeReader.Text
