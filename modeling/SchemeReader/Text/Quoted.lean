import SchemeReader.Text.Printable

set_option autoImplicit false

namespace SchemeReader.Text

def hexDigit (n : Nat) : Char :=
  if n < 10 then Char.ofNat (0x30 + n) else Char.ofNat (0x57 + n)

def hexDigits : (width : Nat) → Nat → List Char
  | 0, _ => []
  | width + 1, n => hexDigits width (n / 16) ++ [hexDigit (n % 16)]

def numericEscape (c : Char) : List Char :=
  if c.toNat < 0x100 then '\\' :: 'x' :: hexDigits 2 c.toNat
  else if c.toNat < 0x10000 then '\\' :: 'u' :: hexDigits 4 c.toNat
  else '\\' :: 'U' :: hexDigits 8 c.toNat

def quotedChar (quote c : Char) : List Char :=
  if c = quote ∨ c = '\\' then ['\\', c]
  else if c = '\n' then ['\\', 'n']
  else if c = '\r' then ['\\', 'r']
  else if c = '\t' then ['\\', 't']
  else if isPrintable c then [c]
  else numericEscape c

def quoteFor (text : List Char) : Char :=
  if '\'' ∈ text ∧ '"' ∉ text then '"' else '\''

def quoted (text : List Char) : List Char :=
  let quote := quoteFor text
  quote :: text.flatMap (quotedChar quote) ++ [quote]

def quotedString (text : String) : String := String.ofList (quoted text.toList)

theorem newline_not_mem_hexDigits (width n : Nat) : '\n' ∉ hexDigits width n := by
  induction width generalizing n with
  | zero => simp [hexDigits]
  | succ width ih =>
    have digit : ∀ d < 16, '\n' ≠ hexDigit d := by decide
    simp [hexDigits, ih, digit (n % 16) (Nat.mod_lt n (by omega))]

theorem newline_not_mem_numericEscape (c : Char) : '\n' ∉ numericEscape c := by
  unfold numericEscape
  split
  · simp [newline_not_mem_hexDigits]
  · split <;> simp [newline_not_mem_hexDigits]

theorem newline_not_mem_quotedChar (quote c : Char) (other : quote ≠ '\n') :
    '\n' ∉ quotedChar quote c := by
  unfold quotedChar
  split
  next special =>
    intro member
    rcases special with same | same <;> subst same <;> simp_all [eq_comm]
  · split
    · simp
    · split
      · simp
      · split
        · simp
        · split
          · simp only [List.mem_singleton]
            intro same
            exact absurd same.symm (by assumption)
          · exact newline_not_mem_numericEscape c

theorem newline_not_mem_quoted (text : List Char) : '\n' ∉ quoted text := by
  have other : quoteFor text ≠ '\n' := by unfold quoteFor; split <;> decide
  intro member
  simp only [quoted, List.mem_cons, List.mem_append, List.mem_flatMap, List.cons_append,
    List.not_mem_nil, or_false] at member
  rcases member with same | ⟨c, _, inside⟩ | same
  · exact other same.symm
  · exact newline_not_mem_quotedChar _ c other inside
  · exact other same.symm

end SchemeReader.Text
