import SchemeReader.Token.Classify
import SchemeReader.Token.Shape

set_option autoImplicit false

namespace SchemeReader

namespace Pattern

abbrev Match := List Char × List Char

def endsWord : List Char → Bool
  | [] => true
  | c :: _ => isTerminator c

def stringBody : List Char → Option Match
  | [] => none
  | c :: rest =>
    if c = '"' then some ([c], rest)
    else if c = '\\' then
      match rest with
      | [] => none
      | escaped :: later =>
        (stringBody later).map fun (body, final) => (c :: escaped :: body, final)
    else (stringBody rest).map fun (body, final) => (c :: body, final)

def string : List Char → Option Match
  | '"' :: rest => (stringBody rest).map fun (body, final) => ('"' :: body, final)
  | _ => none

def number (text : List Char) : Option Match :=
  let digits := text.takeWhile Char.isDigit
  let rest := text.dropWhile Char.isDigit
  if digits ≠ [] ∧ endsWord rest then some (digits, rest) else none

def boolean : List Char → Option Match
  | '#' :: c :: rest =>
    if c ∈ ['t', 'T', 'f', 'F'] ∧ endsWord rest then some (['#', c], rest) else none
  | _ => none

-- Either case of the letter, and what folding the case of one character makes equal to it.
def matchesLetter (letter c : Char) : Bool :=
  c.toLower = letter || (letter = 's' && c = 'ſ') || (letter = 'i' && (c = 'İ' || c = 'ı'))

def name : List Char → List Char → Option Match
  | [], text => if endsWord text then some ([], text) else none
  | _ :: _, [] => none
  | letter :: letters, c :: rest =>
    if matchesLetter letter c then
      (name letters rest).map fun (spelling, final) => (c :: spelling, final)
    else none

def single : List Char → Option Match
  | c :: rest => if endsWord rest then some ([c], rest) else none
  | [] => none

def character : List Char → Option Match
  | '#' :: '\\' :: rest =>
    ((name "newline".toList rest).or ((name "space".toList rest).or (single rest))).map
      fun (spelling, final) => ('#' :: '\\' :: spelling, final)
  | _ => none

def word (text : List Char) : Option Match :=
  let spelling := text.takeWhile (!isTerminator ·)
  if spelling ≠ [] ∧ spelling.head? ≠ some '#' then
    some (spelling, text.dropWhile (!isTerminator ·))
  else none

def spelling (text : List Char) : Option Match :=
  (string text).or <| (number text).or <| (boolean text).or <| (character text).or <| word text

def unmatched (text : List Char) : List Char :=
  text.takeWhile fun c => !(isSpace c || isOpening c || isClosing c)

def Splits (text : List Char) (found : Match) : Prop :=
  found.1 ++ found.2 = text ∧ found.1 ≠ []

theorem stringBody_splits {text : List Char} {found : Match}
    (matched : stringBody text = some found) : Splits text found := by
  fun_induction stringBody text generalizing found with
  | case1 => simp at matched
  | case2 rest =>
    cases matched
    exact ⟨rfl, List.cons_ne_nil _ _⟩
  | case3 => simp at matched
  | case4 _ _ _ ih =>
    obtain ⟨inner, result, rfl⟩ := Option.map_eq_some_iff.1 matched
    simp [Splits, (ih result).1]
  | case5 _ _ _ _ ih =>
    obtain ⟨inner, result, rfl⟩ := Option.map_eq_some_iff.1 matched
    simp [Splits, (ih result).1]

theorem string_splits {text : List Char} {found : Match} (matched : string text = some found) :
    Splits text found := by
  unfold string at matched
  split at matched
  · obtain ⟨inner, result, rfl⟩ := Option.map_eq_some_iff.1 matched
    simp [Splits, (stringBody_splits result).1]
  · simp at matched

theorem number_splits {text : List Char} {found : Match} (matched : number text = some found) :
    Splits text found := by
  simp only [number, Option.ite_none_right_eq_some, Option.some.injEq] at matched
  obtain ⟨⟨some, _⟩, rfl⟩ := matched
  exact ⟨List.takeWhile_append_dropWhile, some⟩

theorem boolean_splits {text : List Char} {found : Match} (matched : boolean text = some found) :
    Splits text found := by
  unfold boolean at matched
  split at matched
  · simp only [Option.ite_none_right_eq_some, Option.some.injEq] at matched
    obtain ⟨_, rfl⟩ := matched
    simp [Splits]
  · simp at matched

theorem name_append {letters text : List Char} {found : Match}
    (matched : name letters text = some found) : found.1 ++ found.2 = text := by
  fun_induction name letters text generalizing found with
  | case1 => cases matched; rfl
  | case2 => simp at matched
  | case3 => simp at matched
  | case4 _ _ _ _ _ ih =>
    obtain ⟨inner, result, rfl⟩ := Option.map_eq_some_iff.1 matched
    simp [ih result]
  | case5 => simp at matched

theorem single_append {text : List Char} {found : Match} (matched : single text = some found) :
    found.1 ++ found.2 = text := by
  unfold single at matched
  split at matched
  · simp only [Option.ite_none_right_eq_some, Option.some.injEq] at matched
    obtain ⟨_, rfl⟩ := matched
    simp
  · simp at matched

theorem character_splits {text : List Char} {found : Match}
    (matched : character text = some found) : Splits text found := by
  unfold character at matched
  split at matched
  next rest =>
    obtain ⟨inner, result, rfl⟩ := Option.map_eq_some_iff.1 matched
    simp only [Option.or_eq_some_iff] at result
    have whole : inner.1 ++ inner.2 = rest := by
      rcases result with named | ⟨_, named | ⟨_, alone⟩⟩
      · exact name_append named
      · exact name_append named
      · exact single_append alone
    simp [Splits, whole]
  · simp at matched

theorem word_splits {text : List Char} {found : Match} (matched : word text = some found) :
    Splits text found := by
  simp only [word, Option.ite_none_right_eq_some, Option.some.injEq] at matched
  obtain ⟨⟨some, _⟩, rfl⟩ := matched
  exact ⟨List.takeWhile_append_dropWhile, some⟩

theorem spelling_splits {text : List Char} {found : Match} (matched : spelling text = some found) :
    Splits text found := by
  simp only [spelling, Option.or_eq_some_iff] at matched
  rcases matched with shape | ⟨_, shape | ⟨_, shape | ⟨_, shape | ⟨_, shape⟩⟩⟩⟩
  · exact string_splits shape
  · exact number_splits shape
  · exact boolean_splits shape
  · exact character_splits shape
  · exact word_splits shape

end Pattern

structure PatternLexer where
  position : Nat
  rest : List Char

namespace PatternLexer

def start (text : List Char) : PatternLexer := { position := 0, rest := text }

def pass (lexer : PatternLexer) (found : Pattern.Match) : PatternLexer :=
  { position := lexer.position + found.1.length, rest := found.2 }

def skipSpace (lexer : PatternLexer) : PatternLexer :=
  lexer.pass (lexer.rest.takeWhile isSpace, lexer.rest.dropWhile isSpace)

def close (lexer : PatternLexer) : PatternLexer := lexer.pass (lexer.rest, [])

def take (lexer : PatternLexer) : Option (Item Empty) × PatternLexer :=
  match lexer.rest with
  | [] => (none, lexer)
  | c :: rest =>
    if isOpening c then (some (.token .opening), lexer.pass ([c], rest))
    else if isClosing c then (some (.token .closing), lexer.pass ([c], rest))
    else
      match Pattern.spelling (c :: rest) with
      | some found => (some (classify found.1), lexer.pass found)
      | none =>
        (some (.error (.unmatched .shapeless (String.ofList (Pattern.unmatched (c :: rest))))),
          lexer.close)

def draw (lexer : PatternLexer) : Option (Item Empty) × PatternLexer := lexer.skipSpace.take

def size (lexer : PatternLexer) : Nat := lexer.rest.length

theorem size_take (lexer : PatternLexer) :
    lexer.take.2.size + lexer.take.1.toList.length ≤ lexer.size := by
  unfold take
  split
  · simp
  next c rest ahead =>
    split
    · simp [size, pass, ahead]
    · split
      · simp [size, pass, ahead]
      · split
        next found shape =>
          obtain ⟨whole, some⟩ := Pattern.spelling_splits shape
          have total := congrArg List.length whole
          have positive := List.length_pos_iff.2 some
          simp only [List.length_append, List.length_cons] at total
          simp only [size, pass, ahead, Option.toList_some, List.length_cons, List.length_nil]
          omega
        · simp [size, close, pass, ahead]

theorem size_draw (lexer : PatternLexer) :
    lexer.draw.2.size + lexer.draw.1.toList.length ≤ lexer.size := by
  have skipped : lexer.skipSpace.size ≤ lexer.size := by
    have total := congrArg List.length
      (List.takeWhile_append_dropWhile (p := isSpace) (l := lexer.rest))
    simp only [List.length_append] at total
    simp only [size, skipSpace, pass]
    omega
  exact Nat.le_trans (size_take _) skipped

end PatternLexer

instance : TokenSource PatternLexer Empty where
  draw := PatternLexer.draw
  size := PatternLexer.size
  size_draw := PatternLexer.size_draw

end SchemeReader
