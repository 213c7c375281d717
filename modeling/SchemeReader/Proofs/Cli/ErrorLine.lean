import SchemeReader.Proofs.Cli.Shown
import SchemeReader.Proofs.Reading.Messages
import SchemeReader.Proofs.Value.Description

set_option autoImplicit false

namespace SchemeReader

open Text (CharSource splitLines)

def IsErrorLine (line : List Char) : Prop := "error: ".toList <+: line

instance : DecidablePred IsErrorLine :=
  fun line => inferInstanceAs (Decidable ("error: ".toList <+: line))

namespace IsErrorLine

theorem append (message : List Char) : IsErrorLine ("error: ".toList ++ message) :=
  List.prefix_append _ _

variable {line : List Char} (wrong : IsErrorLine line)
include wrong

theorem head?_eq : line.head? = some 'e' := by
  obtain ⟨message, rfl⟩ := wrong
  rfl

theorem space_mem : ' ' ∈ line := wrong.subset (by decide)

end IsErrorLine

theorem Literal.spelling_not_isErrorLine (value : Literal) : ¬ IsErrorLine value.spelling := by
  intro wrong
  cases value with
  | number n =>
    rcases sign_or_digit_of_mem_decimal wrong.space_mem with sign | digit
    · cases sign
    · cases digit
  | boolean truth => cases truth <;> cases wrong.head?_eq
  | character c => cases wrong.head?_eq
  | string text => cases wrong.head?_eq

theorem ReadFrom.spelling_not_isErrorLine {limits : Limits} {text : List Char} {expr : Expr}
    (origin : ReadFrom limits text expr) : ¬ IsErrorLine expr.spelling := by
  intro wrong
  match expr, origin, wrong with
  | .literal value, _, wrong => exact value.spelling_not_isErrorLine wrong
  | .variable name, origin, wrong =>
    have named : IsName name := (origin.spelled _ List.mem_cons_self).isName
    cases named.word _ wrong.space_mem
  | .quote _, _, wrong | .time _, _, wrong | .ifElse _ _ _, _, wrong | .and _, _, wrong
  | .or _, _, wrong | .begin _, _, wrong | .unlessThen _ _, _, wrong | .cond _ _, _, wrong =>
    cases wrong.head?_eq

theorem Value.description_not_isErrorLine (expr : Expr) :
    ¬ IsErrorLine (ofExpr expr).description := by
  intro wrong
  obtain ⟨c, later, written, capital⟩ := capital_description_ofExpr expr
  have first := wrong.head?_eq
  rw [written] at first
  cases first
  cases capital

namespace Cli

section

variable {style : Style} {limits : Limits} {expr : Expr} {shown : String}

theorem Style.text?_cases (found : style.text? limits expr = some shown) :
    shown.toList = (Value.ofExpr expr).description ∨ shown.toList = expr.spelling := by
  unfold text? at found
  split at found
  · obtain ⟨_, same⟩ := Option.ite_none_right_eq_some.1 found
    cases same
    exact .inl String.toList_ofList
  · obtain ⟨_, same⟩ := Option.ite_none_right_eq_some.1 found
    cases same
    exact .inr String.toList_ofList

variable {text : List Char} (origin : ReadFrom limits text expr)
include origin

theorem Style.oneLine_text? (found : style.text? limits expr = some shown) :
    OneLine shown.toList := by
  rcases text?_cases found with described | spelled
  · rw [described]
    exact (Value.ofExpr expr).oneLine_description
  · rw [spelled]
    exact origin.newline_not_mem

theorem Style.text?_not_isErrorLine (found : style.text? limits expr = some shown) :
    ¬ IsErrorLine shown.toList := by
  rcases text?_cases found with described | spelled
  · rw [described]
    exact Value.description_not_isErrorLine expr
  · rw [spelled]
    exact origin.spelling_not_isErrorLine

end

def Fails (style : Style) (limits : Limits) : Except ReadError Expr → Prop
  | .error _ => True
  | .ok expr => style.text? limits expr = none

instance (style : Style) (limits : Limits) : DecidablePred (Fails style limits)
  | .error _ => isTrue trivial
  | .ok expr => inferInstanceAs (Decidable (style.text? limits expr = none))

namespace Transcript

theorem oneLine_errorLine {message : String} (plain : OneLine message.toList) :
    OneLine (errorLine message).toList :=
  .join (by decide) plain

theorem isErrorLine_errorLine (message : String) : IsErrorLine (errorLine message).toList := by
  rw [errorLine, String.toList_append]
  exact .append message.toList

section

variable {σ : Type} [CharSource σ] {kind : LexerKind} {limits : Limits} {source : σ}
variable {result : Except ReadError Expr} (yielded : result ∈ (read kind source).results limits)
include yielded

theorem oneLine_resultLine (style : Style) :
    OneLine (resultLine style limits result).1.toList := by
  cases result with
  | error cause => exact oneLine_errorLine (oneLine_of_mem_results yielded)
  | ok expr =>
    rw [resultLine]
    cases found : style.text? limits expr with
    | none => exact oneLine_errorLine (by decide)
    | some shown => exact Style.oneLine_text? (readFrom_of_mem_results yielded) found

theorem isErrorLine_resultLine_iff (style : Style) :
    IsErrorLine (resultLine style limits result).1.toList ↔ Fails style limits result := by
  cases result with
  | error cause => exact iff_of_true (isErrorLine_errorLine _) trivial
  | ok expr =>
    rw [resultLine, Fails]
    cases found : style.text? limits expr with
    | none => exact iff_of_true (isErrorLine_errorLine _) rfl
    | some shown =>
      exact iff_of_false (Style.text?_not_isErrorLine (readFrom_of_mem_results yielded) found)
        (Option.some_ne_none shown)

end

end Transcript

end Cli

end SchemeReader
