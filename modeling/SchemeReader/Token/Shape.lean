set_option autoImplicit false

namespace SchemeReader

def isSpace (c : Char) : Bool := c = ' ' || c = '\n' || c = '\t' || c = '\r'

def isOpening (c : Char) : Bool := c = '(' || c = '['

def isClosing (c : Char) : Bool := c = ')' || c = ']'

def isTerminator (c : Char) : Bool := isSpace c || isOpening c || isClosing c || c = '"'

end SchemeReader
