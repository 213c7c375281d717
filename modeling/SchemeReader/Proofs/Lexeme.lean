import Mathlib.Data.List.TakeWhile
import SchemeReader.Lexer.Pattern

set_option autoImplicit false

namespace SchemeReader

def terminators : List Char := [' ', '\n', '\t', '\r', '(', '[', ')', ']', '"']

theorem mem_terminators {c : Char} : c ∈ terminators ↔ isTerminator c = true := by
  simp [terminators, isTerminator, isSpace, isOpening, isClosing, or_assoc]

theorem inside_of_forall {p : Char → Prop} (outside : ∀ c ∈ terminators, ¬ p c) {c : Char}
    (holds : p c) : isTerminator c = false := by
  by_contra terminator
  exact outside c (mem_terminators.2 (by simpa using terminator)) holds

theorem isDigit_inside {c : Char} (digit : c.isDigit = true) : isTerminator c = false :=
  inside_of_forall (p := fun c => c.isDigit = true) (by simp [terminators]) digit

inductive Enclosed : List Char → Prop
  | nil : Enclosed []
  | plain {c : Char} {body : List Char} (unquoted : c ≠ '"') (bare : c ≠ '\\')
      (later : Enclosed body) : Enclosed (c :: body)
  | escaped (c : Char) {body : List Char} (later : Enclosed body) : Enclosed ('\\' :: c :: body)

def IsWord (word : List Char) : Prop := ∀ c ∈ word, isTerminator c = false

instance : DecidablePred IsWord :=
  List.decidableBAll fun c => isTerminator c = false

inductive Atom : List Char → List Char → Prop
  | word {spelling rest : List Char} (some : spelling ≠ []) (run : IsWord spelling)
      (other : ¬ ['#', '\\'] <+: spelling) (ends : Pattern.endsWord rest = true) :
      Atom spelling rest
  -- The character after the backslash may be a terminator.
  | character (c : Char) {word rest : List Char} (run : IsWord word)
      (ends : Pattern.endsWord rest = true) : Atom ('#' :: '\\' :: c :: word) rest
  | cut : Atom ['#', '\\'] []

inductive Lexeme : List Char → List Char → Prop
  | bracket {c : Char} {rest : List Char} (shape : isOpening c = true ∨ isClosing c = true) :
      Lexeme [c] rest
  | string {body rest : List Char} (enclosed : Enclosed body) : Lexeme ('"' :: (body ++ ['"'])) rest
  | atom {spelling rest : List Char} (atom : Atom spelling rest) : Lexeme spelling rest

def Unclosed (text : List Char) : Prop :=
  ∃ body, text = '"' :: body ∧ ∀ inner rest, Enclosed inner → body ≠ inner ++ '"' :: rest

def lexemeItem (spelling : List Char) : Item Empty :=
  match spelling with
  | [c] => if isOpening c then .token .opening else if isClosing c then .token .closing
      else classify [c]
  | _ => classify spelling

namespace Pattern

@[simp] theorem endsWord_nil : endsWord [] = true := rfl

@[simp] theorem endsWord_cons (c : Char) (rest : List Char) :
    endsWord (c :: rest) = isTerminator c := rfl

@[simp] theorem stringBody_quote (rest : List Char) :
    stringBody ('"' :: rest) = some (['"'], rest) := by
  rw [stringBody.eq_def]
  simp

@[simp] theorem stringBody_plain {c : Char} (unquoted : c ≠ '"') (bare : c ≠ '\\')
    (rest : List Char) :
    stringBody (c :: rest) = (stringBody rest).map fun (body, final) => (c :: body, final) := by
  rw [stringBody.eq_def]
  simp [unquoted, bare]

@[simp] theorem stringBody_escaped (c : Char) (rest : List Char) :
    stringBody ('\\' :: c :: rest) =
      (stringBody rest).map fun (body, final) => ('\\' :: c :: body, final) := by
  simp [stringBody]

theorem stringBody_enclosed {inner : List Char} (enclosed : Enclosed inner) (rest : List Char) :
    stringBody (inner ++ '"' :: rest) = some (inner ++ ['"'], rest) := by
  induction enclosed with
  | nil => simp
  | plain unquoted bare _ ih => simp [unquoted, bare, ih]
  | escaped c _ ih => simp [ih]

theorem enclosed_of_stringBody {text : List Char} {found : Match}
    (matched : stringBody text = some found) :
    ∃ inner, Enclosed inner ∧ found.1 = inner ++ ['"'] ∧ text = inner ++ '"' :: found.2 := by
  fun_induction stringBody text generalizing found with
  | case1 => simp at matched
  | case2 rest =>
    cases matched
    exact ⟨[], .nil, rfl, rfl⟩
  | case3 => simp at matched
  | case4 c rest _ ih =>
    obtain ⟨found, result, rfl⟩ := Option.map_eq_some_iff.1 matched
    obtain ⟨inner, enclosed, body, whole⟩ := ih result
    exact ⟨'\\' :: c :: inner, .escaped c enclosed, by simp [body], by simp [whole]⟩
  | case5 c rest unquoted bare ih =>
    obtain ⟨found, result, rfl⟩ := Option.map_eq_some_iff.1 matched
    obtain ⟨inner, enclosed, body, whole⟩ := ih result
    exact ⟨c :: inner, .plain unquoted bare enclosed, by simp [body], by simp [whole]⟩

theorem stringBody_eq_none_iff {body : List Char} :
    stringBody body = none ↔ Unclosed ('"' :: body) := by
  constructor
  · intro missing
    refine ⟨body, rfl, ?_⟩
    rintro inner rest enclosed rfl
    simp [stringBody_enclosed enclosed] at missing
  · rintro ⟨other, same, unclosed⟩
    cases same
    by_contra nonempty
    obtain ⟨found, matched⟩ := Option.ne_none_iff_exists'.1 nonempty
    obtain ⟨inner, enclosed, _, whole⟩ := enclosed_of_stringBody matched
    exact unclosed inner found.2 enclosed whole

end Pattern

theorem takeWhile_run {p : Char → Bool} {run rest : List Char} (inside : ∀ c ∈ run, p c = true)
    (stop : ∀ c ∈ rest.head?, p c = false) :
    (run ++ rest).takeWhile p = run ∧ (run ++ rest).dropWhile p = rest := by
  rw [List.takeWhile_append_of_pos inside, List.dropWhile_append_of_pos inside]
  cases rest with
  | nil => simp
  | cons c rest => simp [stop c rfl]

theorem stop_of_endsWord {rest : List Char} (ends : Pattern.endsWord rest = true) :
    ∀ c ∈ rest.head?, (!isTerminator c) = false := by
  cases rest with
  | nil => simp
  | cons c rest => simpa using ends

theorem IsWord.take_drop {word rest : List Char} (run : IsWord word)
    (ends : Pattern.endsWord rest = true) :
    (word ++ rest).takeWhile (!isTerminator ·) = word ∧
      (word ++ rest).dropWhile (!isTerminator ·) = rest :=
  takeWhile_run (fun c member => by simp [run c member]) (stop_of_endsWord ends)

theorem isWord_takeWhile (text : List Char) : IsWord (text.takeWhile (!isTerminator ·)) := by
  intro c member
  simpa using List.mem_takeWhile_imp member

theorem endsWord_dropWhile (text : List Char) :
    Pattern.endsWord (text.dropWhile (!isTerminator ·)) = true := by
  have stop := List.head?_dropWhile_not (!isTerminator ·) text
  cases behind : text.dropWhile (!isTerminator ·) with
  | nil => rfl
  | cons c rest => simpa [behind] using stop

def firstAtom : List Char → Pattern.Match
  | ['#', '\\'] => (['#', '\\'], [])
  | '#' :: '\\' :: c :: rest =>
    ('#' :: '\\' :: c :: rest.takeWhile (!isTerminator ·), rest.dropWhile (!isTerminator ·))
  | text => (text.takeWhile (!isTerminator ·), text.dropWhile (!isTerminator ·))

theorem firstAtom_of_not_marked {text : List Char} (other : ¬ ['#', '\\'] <+: text) :
    firstAtom text =
      (text.takeWhile (!isTerminator ·), text.dropWhile (!isTerminator ·)) := by
  unfold firstAtom
  split
  · simp at other
  · simp [List.cons_prefix_cons] at other
  · rfl

namespace Atom

variable {spelling rest : List Char}

theorem of_digits (some : spelling ≠ []) (digits : ∀ c ∈ spelling, c.isDigit = true)
    (ends : Pattern.endsWord rest = true) : Atom spelling rest := by
  refine .word some (fun c member => isDigit_inside (digits c member)) ?_ ends
  intro marked
  have hash := digits '#' (marked.subset (by simp))
  exact absurd hash (by decide)

theorem exists_head (atom : Atom spelling rest) :
    ∃ c later, spelling = c :: later ∧ isTerminator c = false := by
  cases atom with
  | word some run _ _ =>
    obtain ⟨c, later, rfl⟩ := List.exists_cons_of_ne_nil some
    exact ⟨c, later, rfl, run c (by simp)⟩
  | character c _ _ => exact ⟨'#', _, rfl, rfl⟩
  | cut => exact ⟨'#', _, rfl, rfl⟩

theorem firstAtom_append (atom : Atom spelling rest) :
    firstAtom (spelling ++ rest) = (spelling, rest) := by
  cases atom with
  | word some run other ends =>
    rw [firstAtom_of_not_marked, (run.take_drop ends).1, (run.take_drop ends).2]
    obtain ⟨c, later, rfl⟩ := List.exists_cons_of_ne_nil some
    cases later with
    | cons d later => simpa [List.cons_prefix_cons] using other
    | nil =>
      -- The mark cannot reach past the atom: a backslash ends no word.
      rintro ⟨behind, whole⟩
      simp only [List.cons_append, List.nil_append, List.cons.injEq] at whole
      rw [← whole.2, Pattern.endsWord_cons] at ends
      exact absurd ends (by decide)
  | character c run ends =>
    simp [firstAtom, run.take_drop ends]
  | cut => rfl

end Atom

theorem firstAtom_splits (text : List Char) : (firstAtom text).1 ++ (firstAtom text).2 = text := by
  unfold firstAtom
  split <;> simp [List.takeWhile_append_dropWhile]

theorem atom_firstAtom {c : Char} (inside : isTerminator c = false) (text : List Char) :
    Atom (firstAtom (c :: text)).1 (firstAtom (c :: text)).2 := by
  by_cases marked : ['#', '\\'] <+: c :: text
  · obtain ⟨behind, whole⟩ := marked
    rw [← whole]
    cases behind with
    | nil => exact .cut
    | cons d rest => exact .character d (isWord_takeWhile rest) (endsWord_dropWhile rest)
  · rw [firstAtom_of_not_marked marked]
    refine .word (by simp [inside]) (isWord_takeWhile _) ?_ (endsWord_dropWhile _)
    intro marked'
    exact marked (marked'.trans (List.takeWhile_prefix _))

theorem exists_atom {c : Char} (inside : isTerminator c = false) (text : List Char) :
    ∃ body rest, text = body ++ rest ∧ Atom (c :: body) rest := by
  have atom := atom_firstAtom inside text
  have whole := firstAtom_splits (c :: text)
  obtain ⟨d, body, spelled, _⟩ := atom.exists_head
  rw [spelled, List.cons_append, List.cons.injEq] at whole
  obtain ⟨rfl, whole⟩ := whole
  exact ⟨body, _, whole.symm, spelled ▸ atom⟩

namespace Lexeme

variable {spelling rest : List Char}

theorem ne_nil (lexeme : Lexeme spelling rest) : spelling ≠ [] := by
  cases lexeme with
  | bracket _ => simp
  | string _ => simp
  | atom atom =>
    obtain ⟨c, later, rfl, _⟩ := atom.exists_head
    simp

theorem bracket_isTerminator {c : Char} (shape : isOpening c = true ∨ isClosing c = true) :
    isTerminator c = true := by
  rcases shape with opening | closing <;> simp [isTerminator, *]

theorem bracket_ne_quote {c : Char} (shape : isOpening c = true ∨ isClosing c = true) :
    c ≠ '"' := by
  rintro rfl
  simp [isOpening, isClosing] at shape

theorem shape_of_head {c : Char} {later : List Char} (lexeme : Lexeme (c :: later) rest) :
    ((isOpening c = true ∨ isClosing c = true) ∧ later = []) ∨
      (c = '"' ∧ ∃ body, Enclosed body ∧ later = body ++ ['"']) ∨
      (isTerminator c = false ∧ Atom (c :: later) rest) := by
  cases lexeme with
  | bracket shape => exact .inl ⟨shape, rfl⟩
  | string enclosed => exact .inr (.inl ⟨rfl, _, enclosed, rfl⟩)
  | atom atom =>
    obtain ⟨d, rest, same, inside⟩ := atom.exists_head
    cases same
    exact .inr (.inr ⟨inside, atom⟩)

theorem head_not_space {c : Char} {later : List Char} (lexeme : Lexeme (c :: later) rest) :
    isSpace c = false := by
  rcases lexeme.shape_of_head with ⟨shape, _⟩ | ⟨rfl, _⟩ | ⟨inside, _⟩
  · rcases shape with opening | closing
    · simp only [isOpening, Bool.or_eq_true, decide_eq_true_eq] at opening
      rcases opening with rfl | rfl <;> rfl
    · simp only [isClosing, Bool.or_eq_true, decide_eq_true_eq] at closing
      rcases closing with rfl | rfl <;> rfl
  · rfl
  · simp only [isTerminator, Bool.or_eq_false_iff] at inside
    exact inside.1.1.1

theorem unique {spelling' rest' : List Char} (lexeme : Lexeme spelling rest)
    (lexeme' : Lexeme spelling' rest') (same : spelling ++ rest = spelling' ++ rest') :
    spelling = spelling' ∧ rest = rest' := by
  obtain ⟨c, later, rfl⟩ := List.exists_cons_of_ne_nil lexeme.ne_nil
  obtain ⟨d, later', rfl⟩ := List.exists_cons_of_ne_nil lexeme'.ne_nil
  have heads := same
  simp only [List.cons_append, List.cons.injEq] at heads
  obtain ⟨rfl, behind⟩ := heads
  rcases lexeme.shape_of_head with ⟨shape, rfl⟩ | ⟨rfl, body, enclosed, rfl⟩ | ⟨inside, atom⟩
  · rcases lexeme'.shape_of_head with ⟨_, rfl⟩ | ⟨quote, _⟩ | ⟨inside', _⟩
    · exact ⟨rfl, behind⟩
    · exact absurd quote (bracket_ne_quote shape)
    · simp [bracket_isTerminator shape] at inside'
  · rcases lexeme'.shape_of_head with ⟨shape, _⟩ | ⟨_, body', enclosed', rfl⟩ | ⟨inside', _⟩
    · exact absurd rfl (bracket_ne_quote shape)
    · have first := Pattern.stringBody_enclosed enclosed rest
      have second := Pattern.stringBody_enclosed enclosed' rest'
      simp only [List.append_assoc, List.singleton_append] at behind
      rw [behind, second] at first
      simp_all
    · exact absurd inside' (by simp [isTerminator])
  · rcases lexeme'.shape_of_head with ⟨shape, _⟩ | ⟨rfl, _⟩ | ⟨_, atom'⟩
    · simp [bracket_isTerminator shape] at inside
    · exact absurd inside (by simp [isTerminator])
    · have first := atom.firstAtom_append
      rw [same, atom'.firstAtom_append] at first
      simp_all

end Lexeme

theorem Unclosed.not_lexeme {text spelling rest : List Char} (unclosed : Unclosed text)
    (whole : text = spelling ++ rest) : ¬ Lexeme spelling rest := by
  intro lexeme
  obtain ⟨body, rfl, never⟩ := unclosed
  obtain ⟨c, later, rfl⟩ := List.exists_cons_of_ne_nil lexeme.ne_nil
  simp only [List.cons_append, List.cons.injEq] at whole
  obtain ⟨rfl, rfl⟩ := whole
  rcases lexeme.shape_of_head with ⟨shape, _⟩ | ⟨_, inner, enclosed, rfl⟩ | ⟨inside, _⟩
  · exact absurd rfl (Lexeme.bracket_ne_quote shape)
  · exact never inner rest enclosed (by simp)
  · exact absurd inside (by simp [isTerminator])

end SchemeReader
