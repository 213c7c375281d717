import SchemeReader.Literal.Escape
import SchemeReader.Proofs.Lexeme

set_option autoImplicit false

namespace SchemeReader.Escape

def parts : List Char → List (List Char)
  | '\\' :: letter :: rest => ['\\', letter] :: parts rest
  | c :: rest => [c] :: parts rest
  | [] => []

def known : List (List Char) := [['\\', '\\'], ['\\', 'n'], ['\\', 't'], ['\\', 'r'], ['\\', '"']]

-- An escape without a meaning, or a backslash with nothing behind it.
def Unknown (part : List Char) : Prop := part.head? = some '\\' ∧ part ∉ known

instance : DecidablePred Unknown :=
  fun part => inferInstanceAs (Decidable (part.head? = some '\\' ∧ part ∉ known))

theorem parts_plain {c : Char} (bare : c ≠ '\\') (rest : List Char) :
    parts (c :: rest) = [c] :: parts rest := by
  rw [parts.eq_def]
  split
  next same =>
    cases same
    exact absurd rfl bare
  next same =>
    cases same
    rfl
  next => contradiction

theorem flatten_parts (body : List Char) : (parts body).flatten = body := by
  fun_induction parts body with
  | case1 letter rest ih => rw [List.flatten_cons, ih]; rfl
  | case2 c rest _ ih => rw [List.flatten_cons, ih]; rfl
  | case3 => rfl

theorem shape_of_mem_parts {body part : List Char} (member : part ∈ parts body) :
    (∃ c, part = [c]) ∨ ∃ letter, part = ['\\', letter] := by
  fun_induction parts body with
  | case1 letter rest ih =>
    rcases List.mem_cons.1 member with first | later
    · exact .inr ⟨letter, first⟩
    · exact ih later
  | case2 c rest _ ih =>
    rcases List.mem_cons.1 member with first | later
    · exact .inl ⟨c, first⟩
    · exact ih later
  | case3 => cases member

theorem meaning?_eq_none_iff (letter : Char) :
    meaning? letter = none ↔ Unknown ['\\', letter] := by
  unfold meaning?
  split_ifs <;> simp [Unknown, known, *]

theorem unescape_eq_error_iff {body part : List Char} :
    unescape body = .error part ↔ (parts body).find? (Unknown ·) = some part := by
  have passed {c : Char} {later : List Char} :
      (c :: ·) <$> unescape later = .error part ↔ unescape later = .error part := by
    cases unescape later <;> simp [Functor.map, Except.map]
  fun_induction parts body with
  | case1 letter rest ih =>
    rw [unescape.eq_def]
    cases found : meaning? letter with
    | some plain =>
      have sound : ¬ Unknown ['\\', letter] := by
        rw [← meaning?_eq_none_iff, found]
        exact Option.some_ne_none plain
      simp only [found, if_true, passed, ih]
      rw [List.find?_cons_of_neg (by simpa using sound)]
    | none =>
      have unknown := (meaning?_eq_none_iff letter).1 found
      simp only [found, if_true, Except.error.injEq]
      rw [List.find?_cons_of_pos (by simpa using unknown), Option.some.injEq]
  | case2 c rest alone ih =>
    by_cases backslash : c = '\\'
    · -- Nothing is behind the backslash.
      have last : rest = [] := by
        cases rest with
        | nil => rfl
        | cons letter later => exact (alone letter later backslash rfl).elim
      subst backslash last
      simp [unescape, Unknown, known]
    · have plain : ¬ Unknown [c] := fun unknown => backslash (Option.some.inj unknown.1)
      rw [unescape.eq_def]
      simp only [backslash, if_false, passed, ih]
      rw [List.find?_cons_of_neg (by simpa using plain)]
  | case3 => simp [unescape]

theorem exists_unescape_iff {body : List Char} :
    (∃ text, unescape body = .ok text) ↔ ∀ part ∈ parts body, ¬ Unknown part := by
  have none : (∃ text, unescape body = .ok text) ↔ (parts body).find? (Unknown ·) = none := by
    cases result : unescape body with
    | ok text =>
      have missing : (parts body).find? (Unknown ·) = none := by
        rw [Option.eq_none_iff_forall_ne_some]
        intro part found
        rw [unescape_eq_error_iff.2 found] at result
        cases result
      exact iff_of_true ⟨text, rfl⟩ missing
    | error part => simp [unescape_eq_error_iff.1 result]
  simpa using none

theorem enclosed_iff {body : List Char} :
    Enclosed body ↔ ['"'] ∉ parts body ∧ ['\\'] ∉ parts body := by
  constructor
  · intro enclosed
    induction enclosed with
    | nil => simp [parts]
    | plain unquoted bare _ ih =>
      rw [parts_plain bare]
      simpa [unquoted.symm, bare.symm] using ih
    | escaped c _ ih => simpa [parts] using ih
  · rintro ⟨unquoted, complete⟩
    fun_induction parts body with
    | case1 letter rest ih =>
      simp only [List.mem_cons, not_or] at unquoted complete
      exact .escaped letter (ih unquoted.2 complete.2)
    | case2 c rest _ ih =>
      simp only [List.mem_cons, not_or] at unquoted complete
      exact .plain (Ne.symm (by simpa using unquoted.1)) (Ne.symm (by simpa using complete.1))
        (ih unquoted.2 complete.2)
    | case3 => exact .nil

theorem exists_letter_of_error {body part : List Char} (enclosed : Enclosed body)
    (named : unescape body = .error part) : ∃ letter, part = ['\\', letter] := by
  have found := unescape_eq_error_iff.1 named
  have member := List.mem_of_find?_eq_some found
  have unknown : Unknown part := by simpa using List.find?_some found
  rcases shape_of_mem_parts member with ⟨c, rfl⟩ | pair
  · obtain rfl : c = '\\' := Option.some.inj unknown.1
    exact absurd member (enclosed_iff.1 enclosed).2
  · exact pair

def layoutCharacters : List Char := ['\n', '\t', '\r']

theorem layout_not_mem_escapeChar {c : Char} (layout : c ∈ layoutCharacters) (d : Char) :
    c ∉ escapeChar d := by
  simp only [layoutCharacters, List.mem_cons, List.not_mem_nil, or_false] at layout
  unfold escapeChar
  split_ifs
  all_goals rcases layout with rfl | rfl | rfl <;> simp [*, eq_comm]

theorem layout_not_mem_escape (text : List Char) :
    ∀ c ∈ layoutCharacters, c ∉ escape text := by
  intro c layout member
  obtain ⟨d, _, within⟩ := List.mem_flatMap.1 member
  exact layout_not_mem_escapeChar layout d within

end SchemeReader.Escape
