import SchemeReader.Proofs.Lexer.Overlong
import SchemeReader.Proofs.Parser.Cover
import SchemeReader.Reading

set_option autoImplicit false

namespace SchemeReader

open Text (CharSource)
open TokenSource (items)

variable {α : Type}

def Form.fault? : Form α → Option Fault
  | .fault cause => some cause
  | _ => none

theorem faultless_of_tokens {run : List (Item α)}
    (tokens : ∀ item ∈ run, ∃ token, item = .token token) :
    run.findSome? Item.fault? = none := by
  rw [List.findSome?_eq_none_iff]
  intro item member
  obtain ⟨token, rfl⟩ := tokens item member
  rfl

theorem Accounts.fault?_eq {form : Form α} {run : List (Item α)} (accounts : Accounts form run) :
    run.findSome? Item.fault? = form.fault? := by
  cases accounts with
  | tree made => exact faultless_of_tokens made.balanced_items.tokens
  | unmatched => rfl
  | failure unfinished cause =>
    rw [List.findSome?_append, faultless_of_tokens unfinished.tokens]
    rfl
  | fault unfinished cause =>
    rw [List.findSome?_append, faultless_of_tokens unfinished.tokens]
    rfl

theorem Covers.fault?_eq {forms : List (Form α)} {runs : List (List (Item α))}
    (covers : Covers forms runs) :
    runs.flatten.findSome? Item.fault? = forms.findSome? Form.fault? := by
  induction covers with
  | nil => rfl
  | cut unfinished _ =>
    rw [List.flatten_cons, List.flatten_nil, List.append_nil,
      faultless_of_tokens unfinished.tokens]
    rfl
  | form first _ ih =>
    rw [List.flatten_cons, List.findSome?_append, first.fault?_eq, ih, List.findSome?_cons]
    cases Form.fault? _ <;> rfl

namespace Reading

def form : Except ParseError (Tree α) → Form α
  | .ok made => .tree made
  | .error cause => .error cause

theorem fault_ofForms (forms : List (Form α)) :
    (ofForms forms).fault = forms.findSome? Form.fault? := by
  induction forms with
  | nil => rfl
  | cons first rest ih =>
    cases first with
    | tree made => exact ih
    | error cause => exact ih
    | fault cause => rfl

theorem forms_ofForms (forms : List (Form α)) :
    ∃ later, forms = (ofForms forms).forms.map form ++ later ∧
      later.head? = (ofForms forms).fault.map .fault := by
  induction forms with
  | nil => exact ⟨[], rfl, rfl⟩
  | cons first rest ih =>
    obtain ⟨later, whole, ends⟩ := ih
    cases first with
    | tree made => exact ⟨later, congrArg (.tree made :: ·) whole, ends⟩
    | error cause => exact ⟨later, congrArg (.error cause :: ·) whole, ends⟩
    | fault cause => exact ⟨.fault cause :: rest, rfl, rfl⟩

end Reading

section

variable {σ : Type} [CharSource σ]

theorem read_fault_eq (kind : LexerKind) (source : σ) :
    (read kind source).fault = (items (Lexer.start kind source)).findSome? Item.fault? := by
  obtain ⟨runs, covers, joined, _⟩ := Parser.exists_covers (Lexer.start kind source)
  rw [read, Reading.fault_ofForms, ← joined, covers.fault?_eq]
  rfl

theorem read_fault_iff {kind : LexerKind} {source : σ} {cause : Fault} :
    (read kind source).fault = some cause ↔
      ∃ count numeral, (Lexer.start kind source).FirstOverlong count numeral ∧
        cause = .tooManyDigits numeral.length := by
  rw [read_fault_eq, Lexer.first_fault_iff]

theorem read_faultless_of_short {kind : LexerKind} {source : List Char}
    (short : source.length ≤ Fault.digitLimit) : (read kind source).fault = none := by
  cases fault : (read kind source).fault with
  | none => rfl
  | some cause =>
    obtain ⟨count, numeral, first, _⟩ := read_fault_iff.1 fault
    have within := first.infix_ahead.length_le
    rw [Lexer.ahead_start, Text.drain_list] at within
    have long := first.1.1.long
    omega

theorem exists_covers_read (kind : LexerKind) (source : σ) :
    ∃ runs later,
      Covers ((read kind source).forms.map Reading.form ++ later) runs ∧
        runs.flatten = items (Lexer.start kind source) ∧
          later.head? = (read kind source).fault.map .fault := by
  obtain ⟨runs, covers, joined, _⟩ := Parser.exists_covers (Lexer.start kind source)
  obtain ⟨later, whole, ends⟩ := Reading.forms_ofForms (parse kind source)
  change Covers (parse kind source) runs at covers
  rw [whole] at covers
  exact ⟨runs, later, covers, joined, ends⟩

end

end SchemeReader
