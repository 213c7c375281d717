import SchemeReader.Proofs.Lexer.Seam
import SchemeReader.Proofs.Reading.Delivery

set_option autoImplicit false

namespace SchemeReader

open Text (CharSource)
open TokenSource (items)

section

variable {α : Type} {forms forms' : List (Form α)} {runs runs' : List (List (Item α))}

theorem Covers.append (covers : Covers forms runs) (uncut : .error .unexpectedEnd ∉ forms)
    (later : Covers forms' runs') : Covers (forms ++ forms') (runs ++ runs') := by
  induction covers with
  | nil => exact later
  | cut => exact absurd List.mem_cons_self uncut
  | form first _ ih =>
    have behind := ih fun member => uncut (List.mem_cons_of_mem _ member)
    exact .form first behind

theorem error_not_mem_of_tokens {run : List (Item α)}
    (tokens : ∀ item ∈ run, ∃ token, item = .token token) (cause : LexError) :
    .error cause ∉ run := by
  intro member
  obtain ⟨token, same⟩ := tokens _ member
  cases same

theorem Accounts.eq_of_error_mem {form : Form α} {run : List (Item α)} {cause : LexError}
    (accounts : Accounts form run) (member : .error cause ∈ run) :
    form = .error (.lexFailure cause) := by
  cases accounts with
  | tree made => exact absurd member (error_not_mem_of_tokens made.balanced_items.tokens cause)
  | unmatched => simp at member
  | failure unfinished cause' =>
    rcases List.mem_append.1 member with inside | last
    · exact absurd inside (error_not_mem_of_tokens unfinished.tokens cause)
    · cases List.mem_singleton.1 last
      rfl
  | fault unfinished cause' =>
    rcases List.mem_append.1 member with inside | last
    · exact absurd inside (error_not_mem_of_tokens unfinished.tokens cause)
    · cases List.mem_singleton.1 last

theorem Covers.failure_mem {cause : LexError} (covers : Covers forms runs)
    (member : .error cause ∈ runs.flatten) : .error (.lexFailure cause) ∈ forms := by
  induction covers with
  | nil => simp at member
  | @cut run unfinished _ =>
    have inside : .error cause ∈ run := by simpa using member
    exact absurd inside (error_not_mem_of_tokens unfinished.tokens cause)
  | form first _ ih =>
    rw [List.flatten_cons, List.mem_append] at member
    rcases member with inside | later
    · rw [first.eq_of_error_mem inside]
      exact List.mem_cons_self
    · exact List.mem_cons_of_mem _ (ih later)

end

namespace Form

variable {τ τ' τ'' α : Type} [TokenSource τ α] [TokenSource τ' α] [TokenSource τ'' α]
variable [TokenSource.Settled τ] [TokenSource.Settled τ'] [TokenSource.Settled τ'']

theorem all_eq_append {whole : τ} {first : τ'} {second : τ''}
    (joined : items whole = items first ++ items second)
    (uncut : .error .unexpectedEnd ∉ all first) : all whole = all first ++ all second := by
  obtain ⟨runs, covers, taken, _⟩ := Parser.exists_covers whole
  obtain ⟨runs', covers', taken', _⟩ := Parser.exists_covers first
  obtain ⟨runs'', covers'', taken'', _⟩ := Parser.exists_covers second
  -- The runs of both parts together cover the whole, and there is only one such cover.
  have same : runs.flatten = (runs' ++ runs'').flatten := by
    rw [List.flatten_append, taken, taken', taken'', joined]
  exact (covers.unique (covers'.append uncut covers'') same).1

end Form

namespace Reading

theorem ofForms_append {α : Type} {forms : List (Form α)} (later : List (Form α))
    (faultless : (ofForms forms).fault = none) :
    (ofForms (forms ++ later)).forms = (ofForms forms).forms ++ (ofForms later).forms ∧
      (ofForms (forms ++ later)).fault = (ofForms later).fault := by
  induction forms with
  | nil => exact ⟨rfl, rfl⟩
  | cons form forms ih =>
    cases form with
    | tree made =>
      obtain ⟨behind, fault⟩ := ih faultless
      simp only [List.cons_append, ofForms, behind, fault, and_self]
    | error cause =>
      obtain ⟨behind, fault⟩ := ih faultless
      simp only [List.cons_append, ofForms, behind, fault, and_self]
    | fault cause => cases faultless

-- The end has cut a form off, or what was left of the text was given up.
def cutShort : Except ReadError Expr → Bool
  | .error (.parse .unexpectedEnd) | .error (.parse (.lexFailure (.unmatched ..))) => true
  | _ => false

structure Complete (reading : Reading Empty) (limits : Limits) : Prop where
  faultless : reading.fault = none
  uncut : ∀ result ∈ reading.results limits, cutShort result = false

instance (reading : Reading Empty) (limits : Limits) : Decidable (reading.Complete limits) :=
  decidable_of_iff
    (reading.fault = none ∧ ∀ result ∈ reading.results limits, cutShort result = false)
    ⟨fun ⟨faultless, uncut⟩ => ⟨faultless, uncut⟩, fun ⟨faultless, uncut⟩ => ⟨faultless, uncut⟩⟩

theorem error_mem_results {reading : Reading Empty} {cause : ParseError}
    (member : .error cause ∈ reading.forms) (limits : Limits) :
    .error (.parse cause) ∈ reading.results limits :=
  List.mem_map.2 ⟨.error cause, member, rfl⟩

theorem error_mem_forms {forms : List (Form Empty)} {cause : ParseError}
    (faultless : (ofForms forms).fault = none) (member : .error cause ∈ forms) :
    .error cause ∈ (ofForms forms).forms := by
  obtain ⟨later, whole, ends⟩ := forms_ofForms forms
  rw [faultless, Option.map_none, List.head?_eq_none_iff] at ends
  rw [whole, ends, List.append_nil] at member
  obtain ⟨result, within, same⟩ := List.mem_map.1 member
  cases result with
  | ok made => cases same
  | error cause' =>
    cases same
    exact within

end Reading

section

variable {σ : Type} [CharSource σ]

theorem read_eq_drain (kind : LexerKind) (source : σ) :
    read kind source = read kind (CharSource.drain source) := by
  unfold read parse
  rw [Form.all_eq_of_items (Lexer.items_start_drain kind source)]

namespace Reading.Complete

variable {kind : LexerKind} {source : σ} {limits : Limits}

theorem closed (complete : (read kind source).Complete limits) :
    .error .unexpectedEnd ∉ parse kind source := by
  intro member
  have failed := error_mem_results (error_mem_forms complete.faultless member) limits
  cases complete.uncut _ failed

theorem accepted (complete : (read kind source).Complete limits) :
    ∀ item ∈ items (Lexer.start kind source), item.isUnmatched = false := by
  intro item member
  match item with
  | .token _ | .fault _ | .error (.badEscape _) | .error (.invalidLiteral _) => rfl
  | .error (.unmatched cause shown) =>
    obtain ⟨runs, covers, joined, _⟩ := Parser.exists_covers (Lexer.start kind source)
    rw [← joined] at member
    have failed := error_mem_forms complete.faultless (covers.failure_mem member)
    cases complete.uncut _ (error_mem_results failed limits)

end Reading.Complete

end

theorem forms_seam {kind : LexerKind} {limits : Limits} {first : List Char} (second : List Char)
    {c : Char} (space : isSpace c = true) (complete : (read kind first).Complete limits) :
    (read kind (first ++ c :: second)).forms =
        (read kind first).forms ++ (read kind second).forms ∧
      (read kind (first ++ c :: second)).fault = (read kind second).fault := by
  have joined := Lexer.items_seam kind second space complete.accepted
  have parsed : parse kind (first ++ c :: second) = parse kind first ++ parse kind second :=
    Form.all_eq_append joined complete.closed
  rw [read, parsed]
  exact Reading.ofForms_append _ complete.faultless

/-- Behind a text whose reading is complete and a blank, a second text is read as it is alone. -/
theorem read_append (kind : LexerKind) (limits : Limits) (first second : List Char) (c : Char)
    (space : isSpace c = true) (complete : (read kind first).Complete limits) :
    (read kind (first ++ c :: second)).results limits =
        (read kind first).results limits ++ (read kind second).results limits ∧
      (read kind (first ++ c :: second)).fault = (read kind second).fault := by
  obtain ⟨forms, fault⟩ := forms_seam second space complete
  refine ⟨?_, fault⟩
  rw [Reading.results, forms, List.map_append]
  rfl

def faultyText : List Char := "\"\\q\" ) (a 99999999999 b) (foo) ( ) #\\(".toList

theorem read_append_faultyText :
    isSpace '\t' = true ∧ (read .pattern faultyText).Complete .standard ∧
      (read .pattern (faultyText ++ '\t' :: "(if 1".toList)).results .standard =
        (read .pattern faultyText).results .standard ++
          (read .pattern "(if 1".toList).results .standard ∧
      (read .pattern (faultyText ++ '\t' :: "(if 1".toList)).fault =
        (read .pattern "(if 1".toList).fault := by
  have complete : (read .pattern faultyText).Complete .standard := by decide +kernel
  exact ⟨rfl, complete, read_append .pattern .standard faultyText "(if 1".toList '\t' rfl complete⟩

end SchemeReader
