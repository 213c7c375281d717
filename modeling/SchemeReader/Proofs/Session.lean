import SchemeReader.Proofs.Cli.Command
import SchemeReader.Proofs.Reading.Seam

set_option autoImplicit false

namespace SchemeReader

open Text (CharSource)
open TokenSource (items)

namespace Reading

abbrev Outcome : Type := Except Fault (List (Except ReadError Expr))

def outcome (reading : Reading Empty) (limits : Limits) : Outcome :=
  match reading.fault with
  | none => .ok (reading.results limits)
  | some cause => .error cause

-- The results that are not handed out, since a fault comes behind them.
def lost (reading : Reading Empty) (limits : Limits) : List (Except ReadError Expr) :=
  match reading.fault with
  | none => []
  | some _ => reading.results limits

theorem outcome_eq_error_iff {reading : Reading Empty} {limits : Limits} {cause : Fault} :
    reading.outcome limits = .error cause ↔ reading.fault = some cause := by
  cases fault : reading.fault <;> simp [outcome, fault]

end Reading

def handedOut (outcomes : List Reading.Outcome) : List (Except ReadError Expr) :=
  outcomes.flatMap fun
    | .ok results => results
    | .error _ => []

theorem results_perm (limits : Limits) (readings : List (Reading Empty)) :
    (readings.flatMap (·.results limits)).Perm
      (handedOut (readings.map (·.outcome limits)) ++ readings.flatMap (·.lost limits)) := by
  induction readings with
  | nil => exact .refl []
  | cons reading later ih =>
    cases fault : reading.fault with
    | none =>
      have given : handedOut ((reading :: later).map (·.outcome limits)) =
          reading.results limits ++ handedOut (later.map (·.outcome limits)) := by
        simp [handedOut, Reading.outcome, fault]
      have nothing : reading.lost limits = [] := by simp [Reading.lost, fault]
      rw [given, List.flatMap_cons, List.flatMap_cons, nothing, List.nil_append, List.append_assoc]
      exact ih.append_left (reading.results limits)
    | some cause =>
      -- What is lost here comes behind all that is handed out later, so the order changes.
      have withheld : handedOut ((reading :: later).map (·.outcome limits)) =
          handedOut (later.map (·.outcome limits)) := by
        simp [handedOut, Reading.outcome, fault]
      have lost : reading.lost limits = reading.results limits := by simp [Reading.lost, fault]
      rw [withheld, List.flatMap_cons, List.flatMap_cons, lost]
      exact (ih.append_left (reading.results limits)).trans (List.perm_append_comm_assoc _ _ _)

theorem read_stops_at_once_iff (limits : Limits) {σ : Type} [CharSource σ] {kind : LexerKind}
    {source : σ} {cause : Fault} :
    ((read kind source).fault = some cause ∧ (read kind source).results limits = []) ↔
      ∃ run later, items (Lexer.start kind source) = run ++ .fault cause :: later ∧
        Unfinished run := by
  constructor
  · rintro ⟨fault, nothing⟩
    obtain ⟨runs, later, covers, joined, ends⟩ := exists_covers_read kind source
    rw [List.map_eq_nil_iff.1 nothing, List.map_nil, List.nil_append] at covers
    rw [fault] at ends
    cases covers with
    | nil => cases ends
    | cut => cases ends
    | @form _ _ _ behind first others =>
      cases ends
      cases first with
      | fault unfinished =>
        refine ⟨_, behind.flatten, ?_, unfinished⟩
        rw [← joined, List.flatten_cons, List.append_assoc]
        rfl
  · rintro ⟨run, later, here, unfinished⟩
    have stops : Accounts (.fault cause) (run ++ [.fault cause]) := .fault unfinished cause
    obtain ⟨runs, covers, joined, _⟩ := Parser.exists_covers (Lexer.start kind source)
    change Covers (parse kind source) runs at covers
    have whole : runs.flatten = (run ++ [.fault cause]) ++ later := by
      rw [joined, here, List.append_assoc]
      rfl
    rw [read]
    generalize parse kind source = forms at covers ⊢
    cases covers with
    | nil => simp at whole
    | cut unclosed =>
      rw [List.flatten_cons, List.flatten_nil, List.append_nil] at whole
      rw [whole] at unclosed
      exact absurd unclosed stops.not_unfinished
    | form first _ =>
      obtain ⟨rfl, _⟩ := first.unique stops whole
      exact ⟨rfl, rfl⟩

theorem read_overlong_fault (kind : LexerKind) {numeral : List Char}
    (overlong : IsOverlong numeral) :
    (read kind numeral).fault = some (.tooManyDigits numeral.length) := by
  have lexeme : Lexeme numeral [] := .atom (overlong.atom rfl)
  have visible : numeral.dropWhile isSpace = numeral := by
    cases numeral with
    | nil => rfl
    | cons c later => exact List.dropWhile_cons_of_neg (by simp [lexeme.head_not_space])
  refine read_fault_iff.2 ⟨0, numeral, ⟨⟨overlong, [], ?_, rfl⟩, by simp⟩, rfl⟩
  rw [TokenSource.after, Lexer.ahead_start, Text.drain_list, visible, List.append_nil]

structure Call where
  {σ : Type}
  [chars : CharSource σ]
  source : σ
  environment : Environment

attribute [instance] Call.chars

namespace Call

variable {name : String} {limits : Limits} {call : Call}

def reading (name : String) (call : Call) : Reading Empty :=
  match call.environment.chooseLexer name with
  | .error cause => { forms := [], fault := some cause }
  | .ok kind => read kind call.source

theorem fault_iff {cause : Fault} :
    (call.reading name).fault = some cause ↔
      call.environment.chooseLexer name = .error cause ∨
        ∃ kind, call.environment.chooseLexer name = .ok kind ∧
          ∃ count numeral, (Lexer.start kind call.source).FirstOverlong count numeral ∧
            cause = .tooManyDigits numeral.length := by
  unfold reading
  cases call.environment.chooseLexer name with
  | error other => simp
  | ok kind => simp [read_fault_iff]

theorem lost_ne_nil_iff :
    (call.reading name).lost limits ≠ [] ↔
      ∃ kind, call.environment.chooseLexer name = .ok kind ∧
        ∃ cause, (read kind call.source).fault = some cause ∧
          ¬ ∃ run later, items (Lexer.start kind call.source) = run ++ .fault cause :: later ∧
            Unfinished run := by
  unfold reading
  cases call.environment.chooseLexer name with
  | error cause => simp [Reading.lost, Reading.results]
  | ok kind =>
    simp only [← read_stops_at_once_iff limits]
    cases fault : (read kind call.source).fault <;> simp [Reading.lost, fault]

end Call

namespace Session

variable {name : String}

def call (name : String) (session : Session) (call : Call) : Reading.Outcome × Session :=
  match call.environment.chooseLexer name with
  | .error cause => (.error cause, session)
  | .ok kind =>
    let (reading, later) := { session with kind }.feed call.source
    (reading.outcome session.limits, later)

def callAll (name : String) : Session → List Call → List Reading.Outcome × Session
  | session, [] => ([], session)
  | session, first :: rest =>
    let (outcome, later) := session.call name first
    let (outcomes, final) := callAll name later rest
    (outcome :: outcomes, final)

theorem call_outcome (session : Session) (call : Call) :
    (session.call name call).1 = (call.reading name).outcome session.limits := by
  unfold Session.call Call.reading
  cases call.environment.chooseLexer name <;> rfl

theorem call_limits (name : String) (session : Session) (call : Call) :
    (session.call name call).2.limits = session.limits := by
  unfold Session.call
  cases call.environment.chooseLexer name <;> rfl

theorem call_counts (name : String) (session : Session) (call : Call) :
    (session.call name call).2.forms =
        session.forms + ((call.reading name).results session.limits).length ∧
      (session.call name call).2.errors =
        session.errors + errorCount ((call.reading name).results session.limits) := by
  unfold Session.call Call.reading
  cases call.environment.chooseLexer name with
  | error cause => exact ⟨rfl, rfl⟩
  | ok kind => exact ⟨rfl, rfl⟩

theorem callAll_outcomes (session : Session) (calls : List Call) :
    (session.callAll name calls).1 =
      calls.map fun call => (call.reading name).outcome session.limits := by
  induction calls generalizing session with
  | nil => rfl
  | cons first rest ih =>
    rw [callAll, List.map_cons, ← call_outcome session first, ← call_limits name session first,
      ← ih]

theorem callAll_counts (name : String) (session : Session) (calls : List Call) :
    (session.callAll name calls).2.forms =
        session.forms +
          (calls.flatMap fun call => (call.reading name).results session.limits).length ∧
      (session.callAll name calls).2.errors =
        session.errors + errorCount
          (calls.flatMap fun call => (call.reading name).results session.limits) := by
  induction calls generalizing session with
  | nil => exact ⟨rfl, rfl⟩
  | cons first rest ih =>
    obtain ⟨forms, errors⟩ := session.call_counts name first
    obtain ⟨laterForms, laterErrors⟩ := ih (session.call name first).2
    rw [forms, call_limits] at laterForms
    rw [errors, call_limits] at laterErrors
    rw [List.flatMap_cons, List.length_append, errorCount, List.countP_append, ← Nat.add_assoc,
      ← Nat.add_assoc]
    exact ⟨laterForms, laterErrors⟩

theorem callAll_accounts (name : String) (session : Session) (calls : List Call) :
    (session.callAll name calls).2.forms =
        session.forms + (handedOut (session.callAll name calls).1).length +
          (calls.flatMap fun call => (call.reading name).lost session.limits).length ∧
      (session.callAll name calls).2.errors =
        session.errors + errorCount (handedOut (session.callAll name calls).1) +
          errorCount (calls.flatMap fun call => (call.reading name).lost session.limits) := by
  obtain ⟨forms, errors⟩ := session.callAll_counts name calls
  have perm := results_perm session.limits (calls.map (Call.reading name))
  rw [List.flatMap_map, List.flatMap_map, List.map_map] at perm
  have outcomes : (session.callAll name calls).1 =
      calls.map ((·.outcome session.limits) ∘ Call.reading name) := session.callAll_outcomes calls
  have total := perm.length_eq
  rw [List.length_append] at total
  have wrong : errorCount (calls.flatMap fun call => (call.reading name).results session.limits) =
      errorCount (handedOut (calls.map ((·.outcome session.limits) ∘ Call.reading name))) +
        errorCount (calls.flatMap fun call => (call.reading name).lost session.limits) := by
    rw [errorCount, perm.countP_eq, List.countP_append]
    rfl
  rw [forms, errors, outcomes, total, wrong]
  exact ⟨(Nat.add_assoc _ _ _).symm, (Nat.add_assoc _ _ _).symm⟩

theorem errorCount_flatMap_eq_zero_iff {calls : List Call}
    {results : Call → List (Except ReadError Expr)} :
    errorCount (calls.flatMap results) = 0 ↔ ∀ call ∈ calls, errorCount (results call) = 0 := by
  simp only [errorCount, List.countP_eq_zero, List.mem_flatMap]
  constructor
  · intro none call member result within
    exact none result ⟨call, member, within⟩
  · rintro none result ⟨call, member, within⟩
    exact none call member result within

theorem call_fails_and_moves_iff {session : Session} {call : Call} :
    ((∃ cause, (session.call name call).1 = .error cause) ∧
        (session.call name call).2.forms ≠ session.forms) ↔
      (call.reading name).lost session.limits ≠ [] := by
  rw [(session.call_counts name call).1]
  simp only [call_outcome, Reading.outcome_eq_error_iff]
  cases fault : (call.reading name).fault <;> simp [Reading.lost, fault]

/-- The counters match what the calls hand out exactly if no call comes to results before a numeral
that is too long. -/
theorem counters_match_iff (name : String) (session : Session) (calls : List Call) :
    ((session.callAll name calls).2.forms =
        session.forms + (handedOut (session.callAll name calls).1).length +
          (calls.flatMap fun call => (call.reading name).lost session.limits).length ∧
      (session.callAll name calls).2.errors =
        session.errors + errorCount (handedOut (session.callAll name calls).1) +
          errorCount (calls.flatMap fun call => (call.reading name).lost session.limits)) ∧
      ((session.callAll name calls).2.forms =
          session.forms + (handedOut (session.callAll name calls).1).length ↔
        ∀ call ∈ calls, (call.reading name).lost session.limits = []) ∧
      ((session.callAll name calls).2.errors =
          session.errors + errorCount (handedOut (session.callAll name calls).1) ↔
        ∀ call ∈ calls, errorCount ((call.reading name).lost session.limits) = 0) ∧
      ∀ call : Call,
        (∀ cause, (session.call name call).1 = .error cause ↔
          call.environment.chooseLexer name = .error cause ∨
            ∃ kind, call.environment.chooseLexer name = .ok kind ∧
              ∃ count numeral, (Lexer.start kind call.source).FirstOverlong count numeral ∧
                cause = .tooManyDigits numeral.length) ∧
          (((∃ cause, (session.call name call).1 = .error cause) ∧
              (session.call name call).2.forms ≠ session.forms) ↔
            (call.reading name).lost session.limits ≠ []) ∧
          ((call.reading name).lost session.limits ≠ [] ↔
            ∃ kind, call.environment.chooseLexer name = .ok kind ∧
              ∃ cause, (read kind call.source).fault = some cause ∧
                ¬ ∃ run later, items (Lexer.start kind call.source) =
                    run ++ .fault cause :: later ∧ Unfinished run) := by
  obtain ⟨forms, errors⟩ := session.callAll_accounts name calls
  refine ⟨⟨forms, errors⟩, ?_, ?_, ?_⟩
  · rw [forms, Nat.add_eq_left, List.length_eq_zero_iff, List.flatMap_eq_nil_iff]
  · rw [errors, Nat.add_eq_left, errorCount_flatMap_eq_zero_iff]
  · intro call
    refine ⟨fun cause => ?_, call_fails_and_moves_iff, Call.lost_ne_nil_iff⟩
    rw [call_outcome, Reading.outcome_eq_error_iff, Call.fault_iff]

def uninterrupted : Call :=
  { source := "1 (foo)".toList, environment := { lexer := none, logLevel := none } }

theorem counters_match_uninterrupted :
    uninterrupted ∈ [uninterrupted] ∧ (uninterrupted.reading "regex").lost .standard = [] ∧
      ((start .lookahead .standard).callAll "regex" [uninterrupted]).2.forms =
        0 + (handedOut ((start .lookahead .standard).callAll "regex" [uninterrupted]).1).length ∧
      ((start .lookahead .standard).callAll "regex" [uninterrupted]).2.errors =
        0 + errorCount
          (handedOut ((start .lookahead .standard).callAll "regex" [uninterrupted]).1) := by
  have member : uninterrupted ∈ [uninterrupted] := List.mem_singleton_self _
  have short : (uninterrupted.reading "regex").fault = none :=
    @read_faultless_of_short .pattern "1 (foo)".toList (by decide)
  have kept : (uninterrupted.reading "regex").lost .standard = [] := by rw [Reading.lost, short]
  have all : ∀ call ∈ [uninterrupted], (call.reading "regex").lost .standard = [] := by
    rintro call within
    rw [List.mem_singleton.1 within, kept]
  have none : ∀ call ∈ [uninterrupted],
      errorCount ((call.reading "regex").lost .standard) = 0 := by
    intro call within
    rw [all call within]
    rfl
  obtain ⟨_, forms, errors, _⟩ :=
    counters_match_iff "regex" (start .lookahead .standard) [uninterrupted]
  exact ⟨member, kept, forms.2 all, errors.2 none⟩

def interrupted : Call :=
  { source := '1' :: ' ' :: Cli.longZero, environment := { lexer := none, logLevel := none } }

theorem not_counters_match :
    ¬ ∀ (name : String) (kind : LexerKind) (limits : Limits) (calls : List Call),
      (((start kind limits).callAll name calls).2.forms =
          (handedOut ((start kind limits).callAll name calls).1).length ∧
        ((start kind limits).callAll name calls).2.errors =
          errorCount (handedOut ((start kind limits).callAll name calls).1)) ∧
        ∀ (session : Session) (call : Call) (cause : Fault),
          (session.call name call).1 = .error cause →
            (session.call name call).2.forms = session.forms ∧
              (session.call name call).2.errors = session.errors := by
  intro matching
  have complete : (read .lookahead ['1']).Complete .standard := by decide +kernel
  obtain ⟨forms, fault⟩ := forms_seam Cli.longZero (c := ' ') rfl complete
  rw [read_overlong_fault .lookahead Cli.isOverlong_longZero] at fault
  have failed : ((start .lookahead .standard).call "char" interrupted).1 =
      .error (.tooManyDigits Cli.longZero.length) := by
    rw [call_outcome, Reading.outcome_eq_error_iff]
    exact fault
  obtain ⟨_, unmoved⟩ := matching "char" .lookahead .standard []
  obtain ⟨still, _⟩ := unmoved (start .lookahead .standard) interrupted _ failed
  rw [(call_counts "char" (start .lookahead .standard) interrupted).1, Nat.add_eq_left,
    List.length_eq_zero_iff, Reading.results, List.map_eq_nil_iff] at still
  -- The form in front of the numeral has been counted, though the call fails.
  have nothing : (read .lookahead ['1']).forms ++ (read .lookahead Cli.longZero).forms = [] :=
    forms.symm.trans still
  have one : (read .lookahead ['1']).forms.length = 1 := by decide +kernel
  rw [(List.append_eq_nil_iff.1 nothing).1] at one
  cases one

end Session

end SchemeReader
