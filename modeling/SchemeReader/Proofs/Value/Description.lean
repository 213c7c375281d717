import SchemeReader.Proofs.Text.OneLine
import SchemeReader.Value.Description

set_option autoImplicit false

namespace SchemeReader

namespace OneLine

theorem commaSeparated {parts : List (List Char)} (all : ∀ part ∈ parts, OneLine part) :
    OneLine (SchemeReader.commaSeparated parts) :=
  intercalate (by decide) all

theorem field {name : String} (plain : OneLine name.toList) {part : List Char}
    (inside : OneLine part) : OneLine (SchemeReader.field name part) := by
  simp [SchemeReader.field, plain, inside]

theorem construction {name : String} (plain : OneLine name.toList) {fields : List (List Char)}
    (all : ∀ part ∈ fields, OneLine part) : OneLine (SchemeReader.construction name fields) := by
  simp [SchemeReader.construction, plain, commaSeparated all]

theorem construction_field {name part : String} (plain : OneLine name.toList)
    (named : OneLine part.toList) {inside : List Char} (within : OneLine inside) :
    OneLine (SchemeReader.construction name [SchemeReader.field part inside]) :=
  construction plain (List.forall_mem_singleton.2 (field named within))

theorem construction_fields {name first second : String} (plain : OneLine name.toList)
    (named : OneLine first.toList) (named' : OneLine second.toList) {inside inside' : List Char}
    (within : OneLine inside) (within' : OneLine inside') :
    OneLine (SchemeReader.construction name
      [SchemeReader.field first inside, SchemeReader.field second inside']) :=
  construction plain (by simp [field named within, field named' within'])

theorem tuple {parts : List (List Char)} (all : ∀ part ∈ parts, OneLine part) :
    OneLine (SchemeReader.tuple parts) := by
  unfold SchemeReader.tuple
  split
  · simpa using all
  · simp [commaSeparated all]

theorem truthText (truth : Bool) : OneLine (SchemeReader.truthText truth) := by
  cases truth <;> decide

theorem fractionText (unscaled : Int) (places : Nat) :
    OneLine (SchemeReader.fractionText unscaled places) := by
  unfold SchemeReader.fractionText
  extract_lets digits padded whole parts sign
  have padding : OneLine padded := by
    refine append_iff.2 ⟨?_, OneLine.digits _⟩
    intro member
    cases List.eq_of_mem_replicate member
  have front : OneLine whole := padding.of_subset (List.take_subset _ _)
  have back : OneLine parts.reverse := by
    refine padding.of_subset fun c member => ?_
    have kept := (List.dropWhile_sublist _).subset (List.mem_reverse.1 member)
    exact List.drop_subset _ _ (List.mem_reverse.1 kept)
  have signed : OneLine sign := by
    unfold sign
    split <;> decide
  rw [append_iff, append_iff, cons_iff]
  refine ⟨⟨signed, front⟩, by decide, ?_⟩
  split
  · decide
  · exact back

end OneLine

theorem Literal.oneLine_description (value : Literal) : OneLine value.description := by
  cases value with
  | number n => exact .construction_field (by decide) (by decide) (.decimal n.value)
  | boolean truth => exact .construction_field (by decide) (by decide) (.truthText truth)
  | character c => exact .construction_field (by decide) (by decide) (.quoted [c])
  | string text => exact .construction_field (by decide) (by decide) (.quoted text.toList)

theorem Plain.oneLine_description (value : Plain) : OneLine value.description := by
  cases value with
  | integer n => exact .decimal n
  | fraction unscaled places => exact .fractionText unscaled places
  | truth truth => exact .truthText truth
  | text characters => exact .quoted characters.toList
  | absent => decide

namespace Value

mutual

theorem oneLine_description (value : Value) : OneLine value.description := by
  match value with
  | .plain value => exact value.oneLine_description
  | .literal value => exact value.oneLine_description
  | .symbol name =>
    exact .construction (by decide) (List.forall_mem_singleton.2 (.quoted name.toList))
  | .variable name => exact .construction_field (by decide) (by decide) (.quoted name.toList)
  | .nil => decide
  | .cons head tail =>
    exact .construction_fields (by decide) (by decide) (by decide) head.oneLine_description
      tail.oneLine_description
  | .list items => simp [description, OneLine.commaSeparated (oneLine_descriptions items)]
  | .quote part | .time part | .bare part =>
    exact .construction_field (by decide) (by decide) part.oneLine_description
  | .ifElse test consequent alternative =>
    have first : OneLine (field "test" test.description) :=
      .field (by decide) test.oneLine_description
    have second : OneLine (field "then" consequent.description) :=
      .field (by decide) consequent.oneLine_description
    have third : OneLine (field "otherwise" alternative.description) :=
      .field (by decide) alternative.oneLine_description
    exact .construction (by decide) (by simp [first, second, third])
  | .and parts | .or parts | .begin parts =>
    exact .construction_field (by decide) (by decide) (.tuple (oneLine_descriptions parts))
  | .unlessThen test part | .simple test part | .binding test part =>
    exact .construction_fields (by decide) (by decide) (by decide) test.oneLine_description
      part.oneLine_description
  | .cond clauses otherwise =>
    exact .construction_fields (by decide) (by decide) (by decide)
      (.tuple (oneLine_descriptions clauses)) otherwise.oneLine_description

theorem oneLine_descriptions (values : List Value) :
    ∀ part ∈ descriptions values, OneLine part := by
  match values with
  | [] => exact nofun
  | value :: rest =>
    rw [descriptions]
    exact List.forall_mem_cons.2 ⟨value.oneLine_description, oneLine_descriptions rest⟩

end

theorem capital_description_ofExpr (expr : Expr) :
    ∃ c later, (ofExpr expr).description = c :: later ∧ c.isUpper = true := by
  match expr with
  | .literal value => cases value <;> exact ⟨_, _, rfl, rfl⟩
  | .variable _ | .quote _ | .time _ | .ifElse _ _ _ | .and _ | .or _ | .begin _
  | .unlessThen _ _ | .cond _ _ => exact ⟨_, _, rfl, rfl⟩

end Value

end SchemeReader
