import SchemeReader.Lexer
import SchemeReader.Proofs.Lexer.Ahead
import SchemeReader.Proofs.Lexer.Fit
import SchemeReader.Proofs.Token.Meaning

set_option autoImplicit false

namespace SchemeReader

open Text (CharSource)

def Unreadable (text : List Char) : Prop :=
  Unclosed text ∨ ∃ spelling rest, text = spelling ++ rest ∧ Atom spelling rest ∧
    (classify spelling : Item Empty).isUnmatched = true

def StartsMisnamed (text : List Char) : Prop :=
  ∃ spelling rest, text = spelling ++ rest ∧ Atom spelling rest ∧ Misnamed spelling

inductive Take (kind : LexerKind) : List Char → Option (Item Empty) → List Char → Prop
  | finish : Take kind [] none []
  | token {spelling rest : List Char} (lexeme : Lexeme spelling rest)
      (accepted : (lexemeItem spelling).isUnmatched = false) :
      Take kind (spelling ++ rest) (some (lexemeItem spelling)) rest
  | refused {text shown : List Char} (cause : Mismatch) (unreadable : Unreadable text)
      (shapeless : kind = .pattern → ¬ StartsMisnamed text) (nonempty : shown ≠ [])
      (start : shown <+: text) :
      Take kind text (some (.error (.unmatched cause (String.ofList shown)))) []
  -- The only draw that fails and goes on.
  | misnamed {spelling rest : List Char} (pattern : kind = .pattern) (atom : Atom spelling rest)
      (misnamed : Misnamed spelling) :
      Take kind (spelling ++ rest) (some (.error (.unmatched .malformed (String.ofList spelling))))
        rest

theorem Misnamed.classify_eq {spelling : List Char} (misnamed : Misnamed spelling) :
    (classify spelling : Item Empty) =
      .error (.unmatched .malformed (String.ofList spelling)) := by
  obtain ⟨letters, rfl, folds, unnamed⟩ := misnamed
  have long : letters.length ≠ 1 := by
    rcases folds with matched | matched
    · simp [← matched.length_eq]
    · simp [← matched.length_eq]
  have missing : hashLiteral? ('\\' :: letters) = none := by
    match letters, long with
    | [], _ => rfl
    | c :: d :: later, _ =>
      have flagged := hashLiteral?_marked c (d :: later)
      simpa [unnamed] using flagged
  rw [classify_hash, missing]

theorem Atom.classify_refused {spelling rest : List Char} (atom : Atom spelling rest)
    (refused : (classify spelling : Item Empty).isUnmatched = true) :
    (classify spelling : Item Empty) =
      .error (.unmatched .malformed (String.ofList spelling)) := by
  obtain ⟨body, rfl, missing⟩ := atom.classify_isUnmatched_iff.1 refused
  rw [classify_hash, missing]

theorem Unreadable.exists_head {text : List Char} (unreadable : Unreadable text) :
    ∃ c later, text = c :: later := by
  rcases unreadable with ⟨body, rfl, _⟩ | ⟨spelling, rest, rfl, atom, _⟩
  · exact ⟨'"', body, rfl⟩
  · obtain ⟨c, later, rfl, _⟩ := atom.exists_head
    exact ⟨c, later ++ rest, rfl⟩

theorem Unreadable.isUnmatched {spelling rest : List Char}
    (unreadable : Unreadable (spelling ++ rest)) (lexeme : Lexeme spelling rest) :
    (lexemeItem spelling).isUnmatched = true := by
  rcases unreadable with unclosed | ⟨spelling', rest', whole, atom, refused⟩
  · exact absurd lexeme (unclosed.not_lexeme rfl)
  · obtain ⟨rfl, rfl⟩ := lexeme.unique (.atom atom) whole
    rwa [atom.lexemeItem_eq]

theorem StartsMisnamed.unreadable {text : List Char} (starts : StartsMisnamed text) :
    Unreadable text := by
  obtain ⟨spelling, rest, rfl, atom, misnamed⟩ := starts
  exact .inr ⟨spelling, rest, rfl, atom, by rw [misnamed.classify_eq]; rfl⟩

theorem visible_dropWhile (text : List Char) :
    ∀ c ∈ (text.dropWhile isSpace).head?, isSpace c = false := by
  intro c first
  have outside := List.head?_dropWhile_not isSpace text
  simp only [Option.mem_def] at first
  simpa [first] using outside

namespace Take

variable {kind : LexerKind} {rest : List Char}

theorem of_opening {c : Char} (opening : isOpening c = true) :
    Take kind (c :: rest) (some (.token .opening)) rest := by
  rw [← lexemeItem_opening opening]
  exact .token (.bracket (.inl opening)) (by rw [lexemeItem_opening opening]; rfl)

theorem of_closing {c : Char} (closing : isClosing c = true) :
    Take kind (c :: rest) (some (.token .closing)) rest := by
  rw [← lexemeItem_closing closing]
  exact .token (.bracket (.inr closing)) (by rw [lexemeItem_closing closing]; rfl)

theorem of_string {body : List Char} (enclosed : Enclosed body) :
    Take kind ('"' :: (body ++ '"' :: rest)) (some (classify ('"' :: (body ++ ['"'])))) rest := by
  have accepted := string_accepted body
  rw [← lexemeItem_string] at accepted ⊢
  have lexeme : Lexeme ('"' :: (body ++ ['"'])) rest := .string enclosed
  have taken : Take kind _ _ rest := .token lexeme accepted
  simpa using taken

theorem of_atom {spelling : List Char} (atom : Atom spelling rest)
    (accepted : (classify spelling : Item Empty).isUnmatched = false) :
    Take kind (spelling ++ rest) (some (classify spelling)) rest := by
  rw [← atom.lexemeItem_eq] at accepted ⊢
  exact .token (.atom atom) accepted

theorem of_unclosed {text shown : List Char} (cause : Mismatch) (unclosed : Unclosed text)
    (nonempty : shown ≠ []) (start : shown <+: text) :
    Take kind text (some (.error (.unmatched cause (String.ofList shown)))) [] := by
  refine .refused cause (.inl unclosed) ?_ nonempty start
  rintro - ⟨spelling, rest, whole, atom, _⟩
  exact unclosed.not_lexeme whole (.atom atom)

theorem outcome {text : List Char} {item : Option (Item Empty)} (taken : Take kind text item rest) :
    (text = [] ∧ item = none ∧ rest = []) ∨
      (∃ spelling, Lexeme spelling rest ∧ text = spelling ++ rest ∧
        item = some (lexemeItem spelling) ∧ (lexemeItem spelling).isUnmatched = false) ∨
      (Unreadable text ∧ ∃ cause shown,
        item = some (.error (.unmatched cause (String.ofList shown))) ∧ shown ≠ [] ∧
          shown <+: text) := by
  cases taken with
  | finish => exact .inl ⟨rfl, rfl, rfl⟩
  | @token spelling _ lexeme accepted => exact .inr (.inl ⟨spelling, lexeme, rfl, rfl, accepted⟩)
  | @refused _ shown cause unreadable _ nonempty start =>
    exact .inr (.inr ⟨unreadable, cause, shown, rfl, nonempty, start⟩)
  | @misnamed spelling _ _ atom misnamed =>
    exact .inr (.inr ⟨StartsMisnamed.unreadable ⟨spelling, rest, rfl, atom, misnamed⟩, .malformed,
      spelling, rfl, (Lexeme.atom atom).ne_nil, List.prefix_append _ _⟩)

theorem ended_iff {text : List Char} {item : Option (Item Empty)}
    (taken : Take kind text item rest) : item = none ↔ text = [] := by
  rcases taken.outcome with ⟨rfl, rfl, _⟩ | ⟨_, lexeme, rfl, rfl, _⟩ | ⟨unreadable, _, _, rfl, _⟩
  · simp
  · simp [lexeme.ne_nil]
  · obtain ⟨c, later, rfl⟩ := unreadable.exists_head
    simp

theorem at_end {item : Option (Item Empty)} (taken : Take kind [] item rest) :
    item = none ∧ rest = [] := by
  rcases taken.outcome with ⟨_, missing, same⟩ | ⟨_, lexeme, whole, _⟩ | ⟨unreadable, _⟩
  · exact ⟨missing, same⟩
  · exact absurd (List.append_eq_nil_iff.1 whole.symm).1 lexeme.ne_nil
  · obtain ⟨c, text, whole⟩ := unreadable.exists_head
    cases whole

end Take

namespace Cursor

variable {σ : Type} [CharSource σ]

theorem lexeme_quote (cursor : Cursor σ) :
    Take .lookahead ('"' :: cursor.ahead) (some (cursor.lexeme '"').1)
      ((cursor.lexeme '"').2.closeIf (cursor.lexeme '"').1.isUnmatched).ahead := by
  have body := ahead_stringBody cursor
  cases result : Pattern.stringBody cursor.ahead with
  | some found =>
    obtain ⟨inner, enclosed, spelled, whole⟩ := Pattern.enclosed_of_stringBody result
    simp only [result] at body
    simp only [lexeme, if_true, body.1, body.2.1, spelled, string_accepted, closeIf, whole]
    rw [if_neg Bool.false_ne_true, body.2.2]
    exact .of_string enclosed
  | none =>
    simp only [result] at body
    have unclosed := Pattern.stringBody_eq_none_iff.1 result
    simp only [lexeme, if_true, body.1, body.2, closeIf]
    exact .of_unclosed _ unclosed (by simp) (List.prefix_refl _)

theorem lexeme_atom {c : Char} (cursor : Cursor σ) (inside : isTerminator c = false) :
    Take .lookahead (c :: cursor.ahead) (some (cursor.lexeme c).1)
      ((cursor.lexeme c).2.closeIf (cursor.lexeme c).1.isUnmatched).ahead := by
  have quote : c ≠ '"' := by
    rintro rfl
    exact absurd inside (by decide)
  have body := ahead_atomBody inside cursor
  have atom := atom_firstAtom inside cursor.ahead
  have whole := firstAtom_splits (c :: cursor.ahead)
  rw [← body.1, ← body.2] at atom whole
  simp only [lexeme, quote, if_false]
  rw [← whole]
  by_cases refused : (classify (c :: (cursor.atomBody c).1) : Item Empty).isUnmatched = true
  · simp only [refused, closeIf, if_true, ahead_close]
    rw [atom.classify_refused refused]
    exact .refused _ (.inr ⟨_, _, rfl, atom, refused⟩) (by simp) (by simp)
      (List.prefix_append _ _)
  · simp only [Bool.not_eq_true] at refused
    simp only [refused, closeIf]
    exact .of_atom atom refused

theorem itemFrom_take {c : Char} (cursor : Cursor σ) (visible : isSpace c = false) :
    Take .lookahead (c :: cursor.ahead) (some (cursor.itemFrom c).1)
      (cursor.itemFrom c).2.ahead := by
  unfold itemFrom
  split
  next opening => exact .of_opening opening
  next notOpening =>
    split
    next closing => exact .of_closing closing
    next notClosing =>
      by_cases quote : c = '"'
      · subst quote
        exact lexeme_quote cursor
      · exact lexeme_atom cursor (by simp [isTerminator, *])

theorem take_take {cursor : Cursor σ} (visible : ∀ c ∈ cursor.ahead.head?, isSpace c = false) :
    Take .lookahead cursor.ahead cursor.take.1 cursor.take.2.ahead := by
  unfold take
  cases here : cursor.ahead with
  | nil =>
    simp only [peek_of_ahead_nil here, here]
    exact .finish
  | cons c text =>
    obtain ⟨found, rfl⟩ := peek_of_ahead here
    simp only [found]
    exact itemFrom_take _ (visible c (by simp [here]))

theorem draw_take (cursor : Cursor σ) :
    Take .lookahead (cursor.ahead.dropWhile isSpace) cursor.draw.1 cursor.draw.2.ahead := by
  have skipped : cursor.skipSpace.ahead = cursor.ahead.dropWhile isSpace :=
    (ahead_takeWhile isSpace cursor).2
  rw [← skipped]
  exact take_take (skipped ▸ visible_dropWhile cursor.ahead)

end Cursor

namespace PatternLexer

theorem take_of_spelling {lexer : PatternLexer} {c : Char} {text : List Char}
    (here : lexer.rest = c :: text) (opening : isOpening c = false) (closing : isClosing c = false)
    {found : Pattern.Match} (shape : Pattern.spelling (c :: text) = some found) :
    lexer.take = (some (classify found.1), lexer.pass found) := by
  simp [take, here, opening, closing, shape]

theorem take_of_missing {lexer : PatternLexer} {c : Char} {text : List Char}
    (here : lexer.rest = c :: text) (opening : isOpening c = false) (closing : isClosing c = false)
    (missing : Pattern.spelling (c :: text) = none) :
    lexer.take =
      (some (.error (.unmatched .shapeless (String.ofList (Pattern.unmatched (c :: text))))),
        lexer.close) := by
  simp [take, here, opening, closing, missing]

theorem take_hash {lexer : PatternLexer} {body rest : List Char} (atom : Atom ('#' :: body) rest)
    (here : lexer.rest = '#' :: (body ++ rest)) :
    Take .pattern ('#' :: (body ++ rest)) lexer.take.1 lexer.take.2.rest := by
  have shape := Pattern.spelling_hash atom
  by_cases fits : (hashLiteral? body).isSome ∨ Misnamed ('#' :: body)
  · rw [take_of_spelling here rfl rfl ((shape _).2 ⟨fits, rfl⟩)]
    cases accepted : (classify ('#' :: body) : Item Empty).isUnmatched with
    | false => exact .of_atom atom accepted
    | true =>
      obtain ⟨_, same, missing⟩ := atom.classify_isUnmatched_iff.1 accepted
      cases same
      have misnamed : Misnamed ('#' :: body) := by simpa [missing] using fits
      simp only [misnamed.classify_eq]
      exact .misnamed rfl atom misnamed
  · have missing : Pattern.spelling ('#' :: (body ++ rest)) = none := by
      rw [Option.eq_none_iff_forall_ne_some]
      intro found matched
      exact fits ((shape found).1 matched).1
    have refused : (classify ('#' :: body) : Item Empty).isUnmatched = true :=
      atom.classify_isUnmatched_iff.2 ⟨body, rfl, by simpa using mt .inl fits⟩
    rw [take_of_missing here rfl rfl missing]
    refine .refused _ (.inr ⟨'#' :: body, rest, rfl, atom, refused⟩) ?_
      (Pattern.unmatched_ne_nil _ rfl rfl rfl) (Pattern.unmatched_prefix _)
    rintro - ⟨spelling, rest', whole, atom', misnamed⟩
    obtain ⟨rfl, _⟩ := Lexeme.unique (.atom atom) (.atom atom') whole
    exact fits (.inr misnamed)

theorem take_quote {lexer : PatternLexer} {text : List Char} (here : lexer.rest = '"' :: text) :
    Take .pattern ('"' :: text) lexer.take.1 lexer.take.2.rest := by
  have shape := Pattern.spelling_quote text
  simp only [Pattern.string] at shape
  cases result : Pattern.stringBody text with
  | some found =>
    obtain ⟨inner, enclosed, spelled, whole⟩ := Pattern.enclosed_of_stringBody result
    rw [result, Option.map_some] at shape
    rw [take_of_spelling here rfl rfl shape, spelled, whole]
    exact .of_string enclosed
  | none =>
    rw [result, Option.map_none] at shape
    rw [take_of_missing here rfl rfl shape]
    exact .of_unclosed _ (Pattern.stringBody_eq_none_iff.1 result)
      (Pattern.unmatched_ne_nil _ rfl rfl rfl) (Pattern.unmatched_prefix _)

theorem take_word {lexer : PatternLexer} {c : Char} {body rest : List Char}
    (atom : Atom (c :: body) rest) (plain : c ≠ '#') (opening : isOpening c = false)
    (closing : isClosing c = false) (here : lexer.rest = c :: (body ++ rest)) :
    Take .pattern (c :: (body ++ rest)) lexer.take.1 lexer.take.2.rest := by
  have shape := Pattern.spelling_word atom (by simpa using plain)
  rw [take_of_spelling here opening closing shape]
  have accepted : (classify (c :: body) : Item Empty).isUnmatched = false := by
    rw [Bool.eq_false_iff, ne_eq, atom.classify_isUnmatched_iff]
    rintro ⟨_, same, _⟩
    exact plain (List.cons.inj same).1
  exact .of_atom atom accepted

theorem take_take (lexer : PatternLexer)
    (visible : ∀ c ∈ lexer.rest.head?, isSpace c = false) :
    Take .pattern lexer.rest lexer.take.1 lexer.take.2.rest := by
  cases here : lexer.rest with
  | nil =>
    simp only [take, here]
    exact .finish
  | cons c text =>
    by_cases opening : isOpening c = true
    · simp only [take, here, opening, if_true, pass]
      exact .of_opening opening
    by_cases closing : isClosing c = true
    · simp only [take, here, opening, closing, if_true, pass]
      exact .of_closing closing
    by_cases quote : c = '"'
    · subst quote
      exact take_quote here
    have inside : isTerminator c = false := by
      simp [isTerminator, visible c (by simp [here]), *]
    obtain ⟨body, rest, rfl, atom⟩ := exists_atom inside text
    by_cases hash : c = '#'
    · subst hash
      exact take_hash atom here
    · exact take_word atom hash (by simpa using opening) (by simpa using closing) here

theorem draw_take (lexer : PatternLexer) :
    Take .pattern (lexer.rest.dropWhile isSpace) lexer.draw.1 lexer.draw.2.rest :=
  take_take lexer.skipSpace (visible_dropWhile lexer.rest)

end PatternLexer

namespace Lexer

variable {σ : Type} [CharSource σ]

def kind : Lexer σ → LexerKind
  | .lookahead _ => .lookahead
  | .pattern _ => .pattern

-- The characters that are not behind the lexer yet, blanks included.
def ahead : Lexer σ → List Char
  | .lookahead cursor => cursor.ahead
  | .pattern lexer => lexer.rest

@[simp] theorem kind_start (kind : LexerKind) (source : σ) : (start kind source).kind = kind := by
  cases kind <;> rfl

@[simp] theorem kind_draw (lexer : Lexer σ) : lexer.draw.2.kind = lexer.kind := by
  cases lexer <;> rfl

@[simp] theorem ahead_start (kind : LexerKind) (source : σ) :
    (start kind source).ahead = CharSource.drain source := by
  cases kind with
  | lookahead => exact Cursor.ahead_fetch source 0
  | pattern => rfl

theorem draw_take (lexer : Lexer σ) :
    Take lexer.kind (lexer.ahead.dropWhile isSpace) lexer.draw.1 lexer.draw.2.ahead := by
  cases lexer with
  | lookahead cursor => exact cursor.draw_take
  | pattern lexer => exact lexer.draw_take

theorem take_of_draw {lexer rest : Lexer σ} {item : Option (Item Empty)}
    (drawn : TokenSource.draw lexer = (item, rest)) :
    Take lexer.kind (lexer.ahead.dropWhile isSpace) item rest.ahead := by
  have taken := lexer.draw_take
  have same : lexer.draw = (item, rest) := drawn
  rwa [same] at taken

theorem kind_of_draw {lexer rest : Lexer σ} {item : Option (Item Empty)}
    (drawn : TokenSource.draw lexer = (item, rest)) : rest.kind = lexer.kind := by
  have same : lexer.draw = (item, rest) := drawn
  rw [← kind_draw lexer, same]

end Lexer

end SchemeReader
