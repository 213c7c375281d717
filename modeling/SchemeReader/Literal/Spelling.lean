import SchemeReader.Literal
import SchemeReader.Literal.Escape

set_option autoImplicit false

namespace SchemeReader

def characterNames : List (List Char × Char) :=
  [("newline".toList, '\n'), ("space".toList, ' ')]

def namedCharacter? (name : List Char) : Option Char :=
  characterNames.lookup (name.map Char.toLower)

def characterName (c : Char) : List Char :=
  if c = '\n' then "newline".toList
  else if c = ' ' then "space".toList
  else [c]

def Literal.spelling : Literal → List Char
  | .number n => decimal n.value
  | .boolean true => ['#', 't']
  | .boolean false => ['#', 'f']
  | .character c => '#' :: '\\' :: characterName c
  | .string text => '"' :: Escape.escape text.toList ++ ['"']

end SchemeReader
