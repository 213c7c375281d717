import SchemeReader.Literal
import SchemeReader.Text.Quoted

set_option autoImplicit false

namespace SchemeReader

def OneLine (text : List Char) : Prop := '\n' ∉ text

instance : DecidablePred OneLine := fun text => inferInstanceAs (Decidable ('\n' ∉ text))

theorem sign_or_digit_of_mem_decimal {n : Int} {c : Char} (member : c ∈ decimal n) :
    c = '-' ∨ c.isDigit = true := by
  cases n with
  | ofNat magnitude => exact .inr (Nat.isDigit_of_mem_toDigits (by decide) (by decide) member)
  | negSucc magnitude =>
    rcases List.mem_cons.1 member with sign | digit
    · exact .inl sign
    · exact .inr (Nat.isDigit_of_mem_toDigits (by decide) (by decide) digit)

namespace OneLine

@[simp] theorem nil : OneLine [] := List.not_mem_nil

@[simp] theorem cons_iff {c : Char} {text : List Char} :
    OneLine (c :: text) ↔ c ≠ '\n' ∧ OneLine text := by
  simp [OneLine, eq_comm]

@[simp] theorem append_iff {text later : List Char} :
    OneLine (text ++ later) ↔ OneLine text ∧ OneLine later := by
  simp [OneLine]

theorem join {text later : String} (first : OneLine text.toList) (second : OneLine later.toList) :
    OneLine (text ++ later).toList := by
  rw [String.toList_append, append_iff]
  exact ⟨first, second⟩

theorem of_subset {text part : List Char} (whole : OneLine text) (within : part ⊆ text) :
    OneLine part :=
  fun member => whole (within member)

theorem intercalate {separator : List Char} (plain : OneLine separator) {parts : List (List Char)}
    (all : ∀ part ∈ parts, OneLine part) : OneLine (separator.intercalate parts) := by
  induction parts with
  | nil => exact nil
  | cons part rest ih =>
    obtain ⟨first, others⟩ := List.forall_mem_cons.1 all
    cases rest with
    | nil => simpa using first
    | cons next rest =>
      rw [List.intercalate_cons_cons, append_iff, append_iff]
      exact ⟨⟨first, plain⟩, ih others⟩

@[simp] theorem quoted (text : List Char) : OneLine (Text.quoted text) :=
  Text.newline_not_mem_quoted text

@[simp] theorem quotedString (text : String) : OneLine (Text.quotedString text).toList := by
  rw [Text.quotedString, String.toList_ofList]
  exact quoted text.toList

@[simp] theorem digits (n : Nat) : OneLine (Nat.toDigits 10 n) := by
  intro member
  cases Nat.isDigit_of_mem_toDigits (by decide) (by decide) member

@[simp] theorem toString (n : Nat) : OneLine (ToString.toString n).toList := by
  have written : (ToString.toString n).toList = Nat.toDigits 10 n := String.toList_ofList
  rw [written]
  exact digits n

@[simp] theorem decimal (n : Int) : OneLine (SchemeReader.decimal n) := by
  intro member
  rcases sign_or_digit_of_mem_decimal member with sign | digit
  · cases sign
  · cases digit

end OneLine

end SchemeReader
