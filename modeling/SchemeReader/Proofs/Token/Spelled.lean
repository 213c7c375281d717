import Mathlib.Data.List.Forall2
import SchemeReader.Proofs.Token.Meaning
import SchemeReader.Text.Parenthesized

set_option autoImplicit false

namespace SchemeReader

structure IsName (name : String) : Prop where
  nonempty : name.toList ≠ []
  word : IsWord name.toList
  unmarked : name.toList.head? ≠ some '#'
  other : ¬ name.toList.all Char.isDigit = true

instance (name : String) : Decidable (IsName name) :=
  decidable_of_iff
    (name.toList ≠ [] ∧ IsWord name.toList ∧ name.toList.head? ≠ some '#' ∧
      ¬ name.toList.all Char.isDigit = true)
    ⟨fun ⟨nonempty, word, unmarked, other⟩ => ⟨nonempty, word, unmarked, other⟩,
      fun ⟨nonempty, word, unmarked, other⟩ => ⟨nonempty, word, unmarked, other⟩⟩

-- A minus sign makes a name of a number, so negative numbers have no spelling.
def Literal.Readable : Literal → Prop
  | .number n => 0 ≤ n.value
  | _ => True

inductive Spells : List (Item Empty) → List Char → Prop
  | finish : Spells [] []
  | blank {c : Char} {items : List (Item Empty)} {text : List Char} (space : isSpace c = true)
      (later : Spells items text) : Spells items (c :: text)
  | token {spelling text : List Char} {items : List (Item Empty)} (lexeme : Lexeme spelling text)
      (accepted : (lexemeItem spelling).isUnmatched = false) (later : Spells items text) :
      Spells (lexemeItem spelling :: items) (spelling ++ text)

def Spelled (spelling : List Char) (made : List (Item Empty)) : Prop :=
  ∀ items rest, Pattern.endsWord rest = true → Spells items rest →
    Spells (made ++ items) (spelling ++ rest)

namespace Spells

variable {items : List (Item Empty)} {text : List Char}

theorem visible (spells : Spells items text) : Spells items (text.dropWhile isSpace) := by
  induction spells with
  | finish => exact .finish
  | blank space _ ih => rwa [List.dropWhile_cons_of_pos space]
  | @token spelling text items lexeme accepted later ih =>
    obtain ⟨c, behind, rfl⟩ := List.exists_cons_of_ne_nil lexeme.ne_nil
    rw [List.cons_append, List.dropWhile_cons_of_neg (by simp [lexeme.head_not_space])]
    exact .token lexeme accepted later

theorem of_nil (spells : Spells items []) : items = [] := by
  generalize none : [] = text at spells
  cases spells with
  | finish => rfl
  | blank => cases none
  | token lexeme => exact absurd (List.append_eq_nil_iff.1 none.symm).1 lexeme.ne_nil

theorem of_lexeme {spelling rest : List Char} (spells : Spells items (spelling ++ rest))
    (lexeme : Lexeme spelling rest) :
    ∃ later, items = lexemeItem spelling :: later ∧ Spells later rest := by
  generalize whole : spelling ++ rest = text at spells
  cases spells with
  | finish => exact absurd (List.append_eq_nil_iff.1 whole).1 lexeme.ne_nil
  | blank space later =>
    obtain ⟨c, behind, rfl⟩ := List.exists_cons_of_ne_nil lexeme.ne_nil
    cases whole
    simp [lexeme.head_not_space] at space
  | token lexeme' accepted later =>
    obtain ⟨rfl, rfl⟩ := lexeme.unique lexeme' whole
    exact ⟨_, rfl, later⟩

end Spells

namespace Spelled

theorem of_lexeme {spelling : List Char} {made : Token Empty}
    (lexeme : ∀ rest, Pattern.endsWord rest = true → Lexeme spelling rest)
    (meaning : lexemeItem spelling = .token made) : Spelled spelling [.token made] := by
  intro items rest ends later
  rw [← meaning]
  exact .token (lexeme rest ends) (by rw [meaning]; rfl) later

theorem of_word {spelling : List Char} {made : Token Empty} (nonempty : spelling ≠ [])
    (word : IsWord spelling) (plain : ¬ ['#', '\\'] <+: spelling)
    (meaning : classify spelling = Item.token made) : Spelled spelling [.token made] := by
  have atom (rest : List Char) (ends : Pattern.endsWord rest = true) : Atom spelling rest :=
    .word nonempty word plain ends
  refine of_lexeme (fun rest ends => .atom (atom rest ends)) ?_
  rw [(atom [] rfl).lexemeItem_eq, meaning]

theorem of_name {name : String} (isName : IsName name) :
    Spelled name.toList [.token (.identifier name)] := by
  have plain : ¬ ['#', '\\'] <+: name.toList := by
    rintro ⟨rest, whole⟩
    apply isName.unmarked
    rw [← whole]
    rfl
  have quote : name.toList.head? ≠ some '"' := by
    intro first
    have inside := isName.word '"' (List.mem_of_mem_head? first)
    exact absurd inside (by decide)
  refine of_word isName.nonempty isName.word plain ?_
  rw [classify_name quote isName.unmarked isName.other, String.ofList_toList]

end Spelled

theorem Number.ofInt_value (n : Number) : Number.ofInt n.value = .ok n := by
  rw [Number.ofInt, dif_pos ⟨n.least, n.greatest⟩]

theorem classifyNumeral_toDigits {n : Number} {magnitude : Nat} (value : n.value = magnitude) :
    (classifyNumeral (Nat.toDigits 10 magnitude) : Item Empty) =
      .token (.literal (.number n)) := by
  have small : magnitude < 10 ^ 10 := by
    have greatest := n.greatest
    omega
  have short : (Nat.toDigits 10 magnitude).length ≤ 10 :=
    (Nat.length_toDigits_le_iff (by decide) (by decide)).2 small
  have shorter := (List.dropWhile_suffix (· = '0') (l := Nat.toDigits 10 magnitude)).length_le
  have few : ¬ significantDigits < ((Nat.toDigits 10 magnitude).dropWhile (· = '0')).length := by
    rw [significantDigits]
    omega
  have converted : ¬ Fault.digitLimit < (Nat.toDigits 10 magnitude).length := by
    rw [Fault.digitLimit]
    omega
  rw [classifyNumeral, if_neg few, if_neg converted, Nat.ofDigitChars_ten_toDigits,
    Literal.ofInt, ← value, Number.ofInt_value]
  rfl

theorem enclosed_escape (text : List Char) : Enclosed (Escape.escape text) := by
  induction text with
  | nil => exact .nil
  | cons c rest ih =>
    have split : Escape.escape (c :: rest) = Escape.escapeChar c ++ Escape.escape rest := by
      simp [Escape.escape]
    rw [split, Escape.escapeChar]
    -- The five characters that are escaped, and then those that stand for themselves.
    by_cases backslash : c = '\\'
    · rw [if_pos backslash]
      exact .escaped _ ih
    by_cases quote : c = '"'
    · rw [if_neg backslash, if_pos quote]
      exact .escaped _ ih
    rw [if_neg backslash, if_neg quote]
    split
    · exact .escaped _ ih
    · split
      · exact .escaped _ ih
      · split
        · exact .escaped _ ih
        · exact .plain quote backslash ih

theorem Spells.string (value : String) {items : List (Item Empty)} {text : List Char}
    (later : Spells items text) :
    Spells (.token (.literal (.string value)) :: items)
      ((Literal.string value).spelling ++ text) := by
  have lexeme : Lexeme (Literal.string value).spelling text :=
    .string (enclosed_escape value.toList)
  have meaning : lexemeItem (Literal.string value).spelling =
      .token (.literal (.string value)) := by
    rw [Literal.spelling, List.cons_append, lexemeItem_string, classify_string,
      Escape.unescape_escape]
    simp only [String.ofList_toList]
  rw [← meaning]
  exact .token lexeme (by rw [meaning]; rfl) later

theorem hashLiteral?_characterName (c : Char) :
    hashLiteral? ('\\' :: characterName c) = some (.character c) := by
  unfold characterName
  split
  next newline => rw [newline]; rfl
  next =>
    split
    next space => rw [space]; rfl
    next => simp [hashLiteral?, character?, namedCharacter?, characterNames, List.lookup_cons]

theorem atom_characterName (c : Char) {rest : List Char} (ends : Pattern.endsWord rest = true) :
    Atom ('#' :: '\\' :: characterName c) rest := by
  unfold characterName
  split
  next => exact .character 'n' (by decide) ends
  next =>
    split
    next => exact .character 's' (by decide) ends
    next => exact .character c (by decide) ends

namespace Spelled

theorem of_number {n : Number} (natural : 0 ≤ n.value) :
    Spelled (decimal n.value) [.token (.literal (.number n))] := by
  obtain ⟨magnitude, value⟩ := Int.eq_ofNat_of_zero_le natural
  have spelling : decimal n.value = Nat.toDigits 10 magnitude := by
    rw [value]
    rfl
  have digit (c : Char) (member : c ∈ Nat.toDigits 10 magnitude) : c.isDigit = true :=
    Nat.isDigit_of_mem_toDigits (by decide) (by decide) member
  have atom (rest : List Char) (ends : Pattern.endsWord rest = true) :
      Atom (Nat.toDigits 10 magnitude) rest := .of_digits Nat.toDigits_ne_nil digit ends
  rw [spelling]
  refine of_lexeme (fun rest ends => .atom (atom rest ends)) ?_
  rw [(atom [] rfl).lexemeItem_eq, classify_digits Nat.toDigits_ne_nil (by simpa using digit)]
  exact classifyNumeral_toDigits value

theorem of_boolean (value : Bool) :
    Spelled (Literal.boolean value).spelling [.token (.literal (.boolean value))] := by
  cases value <;> exact of_word (by simp [Literal.spelling]) (by decide) (by decide) rfl

theorem of_string (value : String) :
    Spelled (Literal.string value).spelling [.token (.literal (.string value))] :=
  fun _ _ _ later => .string value later

theorem of_character (c : Char) :
    Spelled (Literal.character c).spelling [.token (.literal (.character c))] := by
  refine of_lexeme (fun rest ends => .atom (atom_characterName c ends)) ?_
  have atom : Atom ('#' :: '\\' :: characterName c) [] := atom_characterName c rfl
  rw [Literal.spelling, atom.lexemeItem_eq, classify_hash, hashLiteral?_characterName]

theorem of_literal {value : Literal} (readable : value.Readable) :
    Spelled value.spelling [.token (.literal value)] := by
  cases value with
  | number n => exact of_number readable
  | boolean value => exact of_boolean value
  | character c => exact of_character c
  | string value => exact of_string value

theorem intercalate {separator : Char} (space : isSpace separator = true)
    {parts : List (List Char)} {mades : List (List (Item Empty))}
    (each : List.Forall₂ Spelled parts mades) :
    Spelled ([separator].intercalate parts) mades.flatten := by
  induction each with
  | nil =>
    intro items rest _ later
    simpa using later
  | @cons part made parts mades first others ih =>
    intro items rest ends later
    cases others with
    | nil => simpa using first items rest ends later
    | cons second others =>
      have behind := ih items rest ends later
      have separated := first _ _ (by simp [isTerminator, space]) (.blank space behind)
      simpa [List.intercalate, List.intersperse] using separated

theorem parenthesized {parts : List (List Char)} {mades : List (List (Item Empty))}
    (each : List.Forall₂ Spelled parts mades) :
    Spelled (Text.parenthesized parts)
      (.token .opening :: (mades.flatten ++ [.token .closing])) := by
  intro items rest ends later
  have closed : Spells (lexemeItem [')'] :: items) ([')'] ++ rest) :=
    .token (.bracket (.inr rfl)) rfl later
  have inside := intercalate (by decide : isSpace ' ' = true) each _ _ rfl closed
  have opened : Spells (lexemeItem ['('] :: _) (['('] ++ _) :=
    .token (.bracket (.inl rfl)) rfl inside
  rw [lexemeItem_opening rfl, lexemeItem_closing rfl] at opened
  simpa [Text.parenthesized] using opened

end Spelled

end SchemeReader
