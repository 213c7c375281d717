set_option autoImplicit false

namespace SchemeReader.Text

def parenthesized (parts : List (List Char)) : List Char :=
  '(' :: [' '].intercalate parts ++ [')']

end SchemeReader.Text
