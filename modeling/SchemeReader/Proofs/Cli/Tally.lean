import SchemeReader.Proofs.Cli.ErrorLine

set_option autoImplicit false

namespace SchemeReader

namespace Session

@[simp] theorem errorCount_error (cause : ReadError) (later : List (Except ReadError Expr)) :
    errorCount (.error cause :: later) = errorCount later + 1 :=
  List.countP_cons_of_pos rfl

@[simp] theorem errorCount_ok (expr : Expr) (later : List (Except ReadError Expr)) :
    errorCount (.ok expr :: later) = errorCount later :=
  List.countP_cons_of_neg Bool.false_ne_true

end Session

namespace Cli

open Text (CharSource splitLines)

namespace Transcript

structure Tallied (transcript : Transcript) : Prop where
  unbroken : ∀ line ∈ transcript.out, OneLine line.toList
  forms : transcript.out.length = transcript.session.forms
  errors : transcript.out.countP (IsErrorLine ·.toList) = transcript.session.errors

theorem countP_resultLine {style : Style} {limits : Limits}
    {results : List (Except ReadError Expr)}
    (each : ∀ result ∈ results,
      IsErrorLine (resultLine style limits result).1.toList ↔ Fails style limits result) :
    ((results.map (resultLine style limits)).map (·.1)).countP (IsErrorLine ·.toList) =
      Session.errorCount results + (results.map (resultLine style limits)).countP (·.2) := by
  induction results with
  | nil => rfl
  | cons result later ih =>
    obtain ⟨first, others⟩ := List.forall_mem_cons.1 each
    simp only [List.map_cons, List.countP_cons, ih others, decide_eq_true_eq, first]
    cases result with
    | error cause => simp [Fails, resultLine, Nat.add_right_comm]
    | ok expr =>
      cases found : style.text? limits expr with
      | none => simp [Fails, resultLine, found, Nat.add_assoc]
      | some shown => simp [Fails, resultLine, found]

variable {style : Style} {transcript : Transcript}

theorem Tallied.extend {σ : Type} [CharSource σ] (tallied : transcript.Tallied) (style : Style)
    (kind : LexerKind) (source : σ) : (transcript.extend style (read kind source)).Tallied := by
  constructor
  · intro line member
    rcases List.mem_append.1 member with before | new
    · exact tallied.unbroken line before
    · rw [List.map_map] at new
      obtain ⟨result, yielded, rfl⟩ := List.mem_map.1 new
      exact oneLine_resultLine yielded style
  · simp only [Transcript.extend, List.length_append, List.length_map, tallied.forms, Session.count]
  · have each (result : Except ReadError Expr)
        (yielded : result ∈ (read kind source).results transcript.session.limits) :
        IsErrorLine (resultLine style transcript.session.limits result).1.toList ↔
          Fails style transcript.session.limits result :=
      isErrorLine_resultLine_iff yielded style
    simp only [Transcript.extend, List.countP_append, countP_resultLine each, tallied.errors,
      Session.count]
    omega

inductive Fed : Except Fault Transcript → Prop
  | overlong (count : Nat) : Fed (.error (.tooManyDigits count))
  | tallied {final : Transcript} (tallied : final.Tallied) : Fed (.ok final)

theorem Tallied.fed {σ : Type} [CharSource σ] (tallied : transcript.Tallied) (style : Style)
    (source : σ) : Fed (transcript.feed style source) := by
  rw [feed_eq]
  cases fault : (read transcript.session.kind source).fault with
  | none => exact .tallied (tallied.extend style _ source)
  | some cause =>
    obtain ⟨_, numeral, _, rfl⟩ := read_fault_iff.1 fault
    exact .overlong numeral.length

inductive FilesFed (open? : String → Lookup) (paths : List String) :
    Except Fault (Transcript × Bool) → Prop
  | overlong (count : Nat) : FilesFed open? paths (.error (.tooManyDigits count))
  | fault {path : String} {cause : Fault} (member : path ∈ paths)
      (found : open? path = .fault cause) : FilesFed open? paths (.error cause)
  | failed {final : Transcript} {path : String} {error : FileError} (tallied : final.Tallied)
      (member : path ∈ paths) (found : open? path = .failed error) :
      FilesFed open? paths (.ok (final, false))
  | all {final : Transcript} (tallied : final.Tallied)
      (found : ∀ path ∈ paths, ∃ contents, open? path = .found contents) :
      FilesFed open? paths (.ok (final, true))

theorem FilesFed.cons {open? : String → Lookup} {path : String} {rest : List String}
    {contents : String} (found : open? path = .found contents)
    {result : Except Fault (Transcript × Bool)} (later : FilesFed open? rest result) :
    FilesFed open? (path :: rest) result := by
  cases later with
  | overlong count => exact .overlong count
  | fault member opened => exact .fault (List.mem_cons_of_mem _ member) opened
  | failed tallied member opened => exact .failed tallied (List.mem_cons_of_mem _ member) opened
  | all tallied others => exact .all tallied (List.forall_mem_cons.2 ⟨⟨contents, found⟩, others⟩)

end Transcript

def Options.style (options : Options) (level : LogLevel) : Style :=
  { describe := options.describe, level }

def Options.paths (options : Options) : List String :=
  match options.command with
  | some _ => []
  | none => options.files

def Transcript.reported (style : Style) (result : Transcript × Bool) : Report :=
  if result.2 then result.1.report style else result.1.abandoned

theorem Transcript.Fed.complete {open? : String → Lookup} {result : Except Fault Transcript}
    (fed : Transcript.Fed result) : Transcript.FilesFed open? [] (result.map (·, true)) := by
  cases fed with
  | overlong count => exact .overlong count
  | tallied tallied => exact .all tallied nofun

namespace Transcript.Tallied

variable {transcript : Transcript} (tallied : transcript.Tallied)
include tallied

end Transcript.Tallied

end Cli

end SchemeReader
