import SchemeReader.Text.Lines

set_option autoImplicit false

namespace SchemeReader.Text

theorem splitLines_ne_nil {text : List Char} (nonempty : text ≠ []) : splitLines text ≠ [] := by
  obtain ⟨c, rest, rfl⟩ := List.exists_cons_of_ne_nil nonempty
  rw [splitLines]
  split
  · exact List.cons_ne_nil _ _
  · split <;> exact List.cons_ne_nil _ _

theorem splitLines_append {line : List Char} (unbroken : '\n' ∉ line) (rest : List Char) :
    splitLines (line ++ '\n' :: rest) = line :: splitLines rest := by
  induction line with
  | nil => rfl
  | cons c line ih =>
    obtain ⟨other, unbroken⟩ : '\n' ≠ c ∧ '\n' ∉ line := by simpa using unbroken
    rw [List.cons_append, splitLines, if_neg other.symm, ih unbroken]

theorem splitLines_flatMap {lines : List (List Char)} (unbroken : ∀ line ∈ lines, '\n' ∉ line) :
    splitLines (lines.flatMap (· ++ ['\n'])) = lines := by
  induction lines with
  | nil => rfl
  | cons line later ih =>
    have behind := ih fun other member => unbroken other (List.mem_cons_of_mem _ member)
    have here := splitLines_append (unbroken line List.mem_cons_self) (later.flatMap (· ++ ['\n']))
    rw [List.flatMap_cons, List.append_assoc, List.singleton_append, here, behind]

theorem splitLines_eq_cons {text line : List Char} {later : List (List Char)}
    (split : splitLines text = line :: later) :
    '\n' ∉ line ∧
      ((text = line ∧ later = []) ∨
        ∃ rest, text = line ++ '\n' :: rest ∧ splitLines rest = later) := by
  induction text generalizing line with
  | nil => cases split
  | cons c text ih =>
    rw [splitLines] at split
    by_cases newline : c = '\n'
    · rw [if_pos newline] at split
      cases split
      exact ⟨by simp, .inr ⟨text, by rw [newline]; rfl, rfl⟩⟩
    · rw [if_neg newline] at split
      cases behind : splitLines text with
      | nil =>
        rw [behind] at split
        cases split
        have nothing : text = [] := by
          cases text with
          | nil => rfl
          | cons d text => exact absurd behind (splitLines_ne_nil (List.cons_ne_nil d text))
        exact ⟨by simpa using Ne.symm newline, .inl ⟨by rw [nothing], rfl⟩⟩
      | cons first others =>
        rw [behind] at split
        cases split
        obtain ⟨unbroken, shape⟩ := ih behind
        refine ⟨by simp [Ne.symm newline, unbroken], ?_⟩
        rcases shape with ⟨rfl, rfl⟩ | ⟨rest, rfl, rest'⟩
        · exact .inl ⟨rfl, rfl⟩
        · exact .inr ⟨rest, rfl, rest'⟩

theorem mem_of_mem_splitLines {text line : List Char} (within : line ∈ splitLines text) {c : Char}
    (member : c ∈ line) : c ∈ text ∧ c ≠ '\n' := by
  generalize split : splitLines text = all at within
  induction all generalizing text with
  | nil => cases within
  | cons first later ih =>
    obtain ⟨unbroken, shape⟩ := splitLines_eq_cons split
    rcases List.mem_cons.1 within with rfl | behind
    · have other : c ≠ '\n' := by
        rintro rfl
        exact unbroken member
      rcases shape with ⟨rfl, _⟩ | ⟨rest, rfl, _⟩
      · exact ⟨member, other⟩
      · exact ⟨List.mem_append_left _ member, other⟩
    · rcases shape with ⟨_, rfl⟩ | ⟨rest, rfl, rest'⟩
      · cases behind
      · obtain ⟨inside, other⟩ := ih rest' behind
        exact ⟨by simp [inside], other⟩

theorem stripLineEnd_eq {line : List Char} (returns : '\r' ∉ line) (newlines : '\n' ∉ line) :
    stripLineEnd line = line := by
  have nothing : (line.reverse.dropWhile fun c => decide (c = '\r' ∨ c = '\n')) = line.reverse := by
    cases reversed : line.reverse with
    | nil => rfl
    | cons c rest =>
      have member : c ∈ line := by
        rw [← List.mem_reverse, reversed]
        exact List.mem_cons_self
      apply List.dropWhile_cons_of_neg
      simp only [decide_eq_true_eq]
      rintro (rfl | rfl)
      · exact returns member
      · exact newlines member
  rw [stripLineEnd, nothing, List.reverse_reverse]

theorem lines_eq_splitLines {text : List Char} (returns : '\r' ∉ text) :
    lines text = splitLines text := by
  have kept : ∀ line ∈ splitLines text, stripLineEnd line = id line := by
    intro line within
    apply stripLineEnd_eq
    · intro member
      exact returns (mem_of_mem_splitLines within member).1
    · intro member
      exact (mem_of_mem_splitLines within member).2 rfl
  rw [lines, List.map_congr_left kept, List.map_id]

theorem unifyLineEnds_eq {text : List Char} (returns : '\r' ∉ text) :
    unifyLineEnds text = text := by
  fun_induction unifyLineEnds text with
  | case1 => rfl
  | case2 => simp at returns
  | case3 c rest _ ih =>
    obtain ⟨other, returns⟩ : '\r' ≠ c ∧ '\r' ∉ rest := by simpa using returns
    rw [if_neg other.symm, ih returns]

end SchemeReader.Text
