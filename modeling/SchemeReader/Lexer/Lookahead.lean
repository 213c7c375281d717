import SchemeReader.Lexer.Cursor
import SchemeReader.Token.Classify
import SchemeReader.Token.Shape

set_option autoImplicit false

namespace SchemeReader

open Text (CharSource)

namespace Cursor

variable {σ : Type} [CharSource σ]

-- The flag says whether the closing quote was found.
def stringBody (cursor : Cursor σ) : List Char × Bool × Cursor σ :=
  match _ : cursor.peek with
  | none => ([], false, cursor.advance)
  | some c =>
    if c = '"' then ([c], true, cursor.advance)
    else if c = '\\' then
      match _ : cursor.advance.peek with
      | none => ([c], false, cursor.advance.advance)
      | some escaped =>
        let (body, closed, rest) := stringBody cursor.advance.advance
        (c :: escaped :: body, closed, rest)
    else
      let (body, closed, rest) := stringBody cursor.advance
      (c :: body, closed, rest)
termination_by cursor.size
decreasing_by
  · exact Nat.lt_trans (size_advance_lt ‹cursor.advance.peek = some _›)
      (size_advance_lt ‹cursor.peek = some _›)
  · exact size_advance_lt ‹cursor.peek = some _›

theorem size_stringBody_le (cursor : Cursor σ) : (cursor.stringBody).2.2.size ≤ cursor.size := by
  fun_induction stringBody cursor with
  | case1 cursor => exact size_advance_le_size cursor
  | case2 cursor => exact size_advance_le_size cursor
  | case3 cursor =>
    exact Nat.le_trans (size_advance_le_size _) (size_advance_le_size cursor)
  | case4 cursor _ _ _ _ _ result _ _ ih =>
    rw [result] at ih
    exact Nat.le_trans ih (Nat.le_trans (size_advance_le_size _) (size_advance_le_size cursor))
  | case5 cursor _ _ _ _ _ _ _ result ih =>
    rw [result] at ih
    exact Nat.le_trans ih (size_advance_le_size cursor)

def takeWord (cursor : Cursor σ) : List Char × Cursor σ := cursor.takeWhile (!isTerminator ·)

-- After `#` a backslash belongs to the atom, and so does the character after it, whatever it is.
def atomBody (first : Char) (cursor : Cursor σ) : List Char × Cursor σ :=
  if first = '#' ∧ cursor.peek = some '\\' then
    match cursor.advance.peek with
    | none => (['\\'], cursor.advance)
    | some c =>
      let (word, rest) := cursor.advance.advance.takeWord
      ('\\' :: c :: word, rest)
  else cursor.takeWord

theorem size_takeWord_le (cursor : Cursor σ) : cursor.takeWord.2.size ≤ cursor.size :=
  size_takeWhile_le _ cursor

theorem size_atomBody_le (first : Char) (cursor : Cursor σ) :
    (cursor.atomBody first).2.size ≤ cursor.size := by
  unfold atomBody
  split
  · split
    · exact size_advance_le_size cursor
    · exact Nat.le_trans (size_takeWord_le _)
        (Nat.le_trans (size_advance_le_size _) (size_advance_le_size cursor))
  · exact size_takeWord_le cursor

def lexeme (first : Char) (cursor : Cursor σ) : Item Empty × Cursor σ :=
  if first = '"' then
    let (body, closed, rest) := cursor.stringBody
    if closed then (classify (first :: body), rest)
    else (.error (.unmatched .unterminated (String.ofList (first :: body))), rest)
  else
    let (body, rest) := cursor.atomBody first
    (classify (first :: body), rest)

theorem size_lexeme_le (first : Char) (cursor : Cursor σ) :
    (cursor.lexeme first).2.size ≤ cursor.size := by
  unfold lexeme
  split
  · have bound := size_stringBody_le cursor
    split
    next body closed rest result =>
      rw [result] at bound
      split <;> exact bound
  · exact size_atomBody_le first cursor

def skipSpace (cursor : Cursor σ) : Cursor σ := (cursor.takeWhile isSpace).2

def closeIf (condition : Bool) (cursor : Cursor σ) : Cursor σ :=
  if condition then cursor.close else cursor

theorem size_closeIf_le (condition : Bool) (cursor : Cursor σ) :
    (cursor.closeIf condition).size ≤ cursor.size := by
  unfold closeIf
  split
  · simp [size_close]
  · exact Nat.le_refl _

def itemFrom (c : Char) (cursor : Cursor σ) : Item Empty × Cursor σ :=
  if isOpening c then (.token .opening, cursor)
  else if isClosing c then (.token .closing, cursor)
  else
    let (item, rest) := cursor.lexeme c
    (item, rest.closeIf item.isUnmatched)

theorem size_itemFrom_le (c : Char) (cursor : Cursor σ) :
    (cursor.itemFrom c).2.size ≤ cursor.size := by
  unfold itemFrom
  split
  · exact Nat.le_refl _
  · split
    · exact Nat.le_refl _
    · exact Nat.le_trans (size_closeIf_le _ _) (size_lexeme_le c cursor)

def take (cursor : Cursor σ) : Option (Item Empty) × Cursor σ :=
  match cursor.peek with
  | none => (none, cursor)
  | some c =>
    let (item, rest) := cursor.advance.itemFrom c
    (some item, rest)

def draw (cursor : Cursor σ) : Option (Item Empty) × Cursor σ := cursor.skipSpace.take

theorem size_take (cursor : Cursor σ) :
    cursor.take.2.size + cursor.take.1.toList.length ≤ cursor.size := by
  unfold take
  split
  · simp
  next c ahead =>
    have passed := size_advance_lt ahead
    have bound := size_itemFrom_le c cursor.advance
    simp only [Option.toList_some, List.length_singleton]
    omega

theorem size_draw (cursor : Cursor σ) :
    cursor.draw.2.size + cursor.draw.1.toList.length ≤ cursor.size :=
  Nat.le_trans (size_take _) (size_takeWhile_le _ cursor)

end Cursor

instance {σ : Type} [CharSource σ] : TokenSource (Cursor σ) Empty where
  draw := Cursor.draw
  size := Cursor.size
  size_draw := Cursor.size_draw

end SchemeReader
