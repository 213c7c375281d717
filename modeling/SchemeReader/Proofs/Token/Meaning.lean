import SchemeReader.Proofs.Lexeme

set_option autoImplicit false

namespace SchemeReader

theorem classifyNumeral_isUnmatched {α : Type} (digits : List Char) :
    (classifyNumeral digits : Item α).isUnmatched = false := by
  unfold classifyNumeral
  split
  · rfl
  · split
    · rfl
    · split <;> rfl

theorem classify_string (body : List Char) :
    (classify ('"' :: (body ++ ['"'])) : Item Empty) =
      match Escape.unescape body with
      | .ok text => .token (.literal (.string (String.ofList text)))
      | .error escape => .error (.badEscape (String.ofList escape)) := by
  have digits : ¬ (('"' :: (body ++ ['"'])).all Char.isDigit = true) := by simp [Char.isDigit]
  simp only [classify, digits, classifyString, List.getLast?_concat, if_true,
    List.dropLast_concat]
  cases Escape.unescape body <;> rfl

theorem classify_hash (body : List Char) :
    (classify ('#' :: body) : Item Empty) =
      match hashLiteral? body with
      | some literal => .token (.literal literal)
      | none => .error (.unmatched .malformed (String.ofList ('#' :: body))) := by
  have digits : ¬ (('#' :: body).all Char.isDigit = true) := by simp [Char.isDigit]
  simp only [classify, digits]
  cases hashLiteral? body <;> rfl

theorem classify_digits {digits : List Char} (some : digits ≠ [])
    (all : digits.all Char.isDigit = true) :
    (classify digits : Item Empty) = classifyNumeral digits := by
  simp [classify, some, all]

theorem classify_name {spelling : List Char} (quote : spelling.head? ≠ some '"')
    (hash : spelling.head? ≠ some '#') (other : ¬ spelling.all Char.isDigit = true) :
    (classify spelling : Item Empty) = .token (.identifier (String.ofList spelling)) := by
  cases spelling with
  | nil => simp at other
  | cons c later =>
    simp only [List.head?_cons, ne_eq, Option.some.injEq] at quote hash
    simp [classify, other, quote, hash]

inductive Classified : List Char → Item Empty → Prop
  | numeral {digits : List Char} (some : digits ≠ []) (all : digits.all Char.isDigit = true) :
      Classified digits (classifyNumeral digits)
  | string (body : List Char) : Classified ('"' :: body) (classifyString body)
  | marked {body : List Char} {value : Literal} (found : hashLiteral? body = some value) :
      Classified ('#' :: body) (.token (.literal value))
  | refused {body : List Char} (missing : hashLiteral? body = none) :
      Classified ('#' :: body) (.error (.unmatched .malformed (String.ofList ('#' :: body))))
  | name (spelling : List Char) :
      Classified spelling (.token (.identifier (String.ofList spelling)))

theorem classify_classified (spelling : List Char) : Classified spelling (classify spelling) := by
  unfold classify
  split
  next numeral => exact .numeral numeral.1 numeral.2
  next =>
    split
    next => exact .string _
    next =>
      split
      next found => exact .marked found
      next missing => exact .refused missing
    next => exact .name spelling

theorem lexemeItem_opening {c : Char} (opening : isOpening c = true) :
    lexemeItem [c] = .token .opening := by
  simp [lexemeItem, opening]

theorem lexemeItem_closing {c : Char} (closing : isClosing c = true) :
    lexemeItem [c] = .token .closing := by
  simp only [isClosing, Bool.or_eq_true, decide_eq_true_eq] at closing
  rcases closing with rfl | rfl <;> rfl

theorem lexemeItem_string (body : List Char) :
    lexemeItem ('"' :: (body ++ ['"'])) = classify ('"' :: (body ++ ['"'])) := by
  cases body <;> rfl

namespace Atom

variable {spelling rest : List Char}

theorem lexemeItem_eq (atom : Atom spelling rest) : lexemeItem spelling = classify spelling := by
  obtain ⟨c, later, rfl, inside⟩ := atom.exists_head
  simp only [isTerminator, Bool.or_eq_false_iff] at inside
  cases later <;> simp [lexemeItem, inside]

theorem classify_isUnmatched_iff (atom : Atom spelling rest) :
    (classify spelling : Item Empty).isUnmatched = true ↔
      ∃ body, spelling = '#' :: body ∧ hashLiteral? body = none := by
  obtain ⟨c, later, rfl, inside⟩ := atom.exists_head
  by_cases hash : c = '#'
  · subst hash
    rw [classify_hash]
    cases result : hashLiteral? later <;> simp [result, Item.isUnmatched, LexError.isUnmatched]
  · have accepted : (classify (c :: later) : Item Empty).isUnmatched = false := by
      by_cases digits : (c :: later).all Char.isDigit = true
      · rw [classify_digits (by simp) digits]
        exact classifyNumeral_isUnmatched _
      · have quote : c ≠ '"' := by
          rintro rfl
          exact absurd inside (by decide)
        rw [classify_name (by simpa using quote) (by simpa using hash) digits]
        rfl
    simp [accepted, hash]

end Atom

theorem Lexeme.classify_eq {spelling rest : List Char} (lexeme : Lexeme spelling rest)
    {item : Item Empty} (made : lexemeItem spelling = item)
    (plain : item ≠ .token .opening ∧ item ≠ .token .closing) : classify spelling = item := by
  cases lexeme with
  | bracket shape =>
    rcases shape with opening | closing
    · exact absurd (made.symm.trans (lexemeItem_opening opening)) plain.1
    · exact absurd (made.symm.trans (lexemeItem_closing closing)) plain.2
  | string => rwa [lexemeItem_string] at made
  | atom atom => rwa [atom.lexemeItem_eq] at made

theorem string_accepted (body : List Char) :
    (classify ('"' :: (body ++ ['"'])) : Item Empty).isUnmatched = false := by
  rw [classify_string]
  split <;> rfl

end SchemeReader
