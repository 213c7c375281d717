import SchemeReader.Proofs.Analysis

set_option autoImplicit false

namespace SchemeReader

inductive Assembles : Keyword → List Expr → Expr → Prop
  | time (body : Expr) : Assembles .time [body] (.time body)
  | ifElse (test consequent alternative : Expr) :
      Assembles .ifElse [test, consequent, alternative] (.ifElse test consequent alternative)
  | and (operands : List Expr) : Assembles .and operands (.and operands)
  | or (operands : List Expr) : Assembles .or operands (.or operands)
  | begin {body : List Expr} (nonempty : body ≠ []) : Assembles .begin body (.begin body)
  | unlessThen (test body : Expr) : Assembles .unlessThen [test, body] (.unlessThen test body)

def Assembled (keyword : Keyword) (operands : Except (Rejection Empty) (List Expr))
    (result : Except (Rejection Empty) Expr) : Prop :=
  match operands with
  | .error rejection => result = .error rejection
  | .ok exprs => ∃ expr, result = .ok expr ∧ Assembles keyword exprs expr

def quotedNode (operands : List Node) : Node :=
  match operands with
  | [operand] => operand
  | _ => .list operands

theorem quoteOperands_eq (operands : List Node) :
    quoteOperands operands = .ok (.quote (Datum.ofNode (quotedNode operands))) := by
  match operands with
  | [operand] => simp only [quoteOperands, quotedNode, Datum.ofTree_eq_ofNode]
  | [] | _ :: _ :: _ => simp only [quoteOperands, quotedNode, Datum.ofTree_eq_ofNode]

section

variable {room inner : Room} (entered : room.enter = some inner)
include entered

theorem analyzeWithin_miscounted {keyword : Keyword} {operands : List Node}
    (miscounted : keyword.arity.admits operands.length = false) :
    analyzeWithin room (keyword.form operands) =
      .error (.operandCount keyword operands.length) := by
  cases keyword with
  | quote | and | or => simp [Keyword.arity, Arity.admits] at miscounted
  | begin | cond =>
    cases operands with
    | nil =>
      simp only [Keyword.form, analyzeWithin, entered, Keyword.ofName?_name]
      rfl
    | cons => simp [Keyword.arity, Arity.admits] at miscounted
  | time =>
    match operands, miscounted with
    | [], _ | _ :: _ :: _, _ =>
      simp only [Keyword.form, analyzeWithin, entered, Keyword.ofName?_name]
  | unlessThen =>
    match operands, miscounted with
    | [], _ | [_], _ | _ :: _ :: _ :: _, _ =>
      simp only [Keyword.form, analyzeWithin, entered, Keyword.ofName?_name]
  | ifElse =>
    match operands, miscounted with
    | [], _ | [_], _ | [_, _], _ | _ :: _ :: _ :: _ :: _, _ =>
      simp only [Keyword.form, analyzeWithin, entered, Keyword.ofName?_name]

theorem analyzeWithin_quote (operands : List Node) :
    analyzeWithin room (Keyword.quote.form operands) = quoteOperands operands := by
  rw [Keyword.form, analyzeWithin.eq_def]
  simp only [entered, Keyword.ofName?_name]

theorem analyzeWithin_operands {keyword : Keyword} {operands : List Node}
    (counted : keyword.arity.admits operands.length = true) (unquoted : keyword ≠ .quote)
    (plain : keyword ≠ .cond) :
    Assembled keyword (analyzeAll inner operands)
      (analyzeWithin room (keyword.form operands)) := by
  rw [Keyword.form, analyzeWithin.eq_def]
  simp only [entered, Keyword.ofName?_name]
  cases keyword with
  | quote => exact absurd rfl unquoted
  | cond => exact absurd rfl plain
  | and =>
    dsimp only
    cases analyzeAll inner operands with
    | error rejection => rfl
    | ok exprs => exact ⟨_, rfl, .and exprs⟩
  | or =>
    dsimp only
    cases analyzeAll inner operands with
    | error rejection => rfl
    | ok exprs => exact ⟨_, rfl, .or exprs⟩
  | begin =>
    cases operands with
    | nil => simp [Keyword.arity, Arity.admits] at counted
    | cons first others =>
      simp only [analyzeAll]
      cases analyzeWithin inner first with
      | error rejection => rfl
      | ok expr =>
        cases analyzeAll inner others with
        | error rejection => rfl
        | ok exprs => exact ⟨_, rfl, .begin (List.cons_ne_nil _ _)⟩
  | time =>
    have one : operands.length = 1 := by simpa [Keyword.arity, Arity.admits] using counted
    obtain ⟨body, rfl⟩ := List.length_eq_one_iff.1 one
    simp only [analyzeAll]
    cases analyzeWithin inner body with
    | error rejection => rfl
    | ok expr => exact ⟨_, rfl, .time expr⟩
  | unlessThen =>
    have two : operands.length = 2 := by simpa [Keyword.arity, Arity.admits] using counted
    obtain ⟨test, body, rfl⟩ := List.length_eq_two.1 two
    simp only [analyzeAll]
    cases analyzeWithin inner test with
    | error rejection => rfl
    | ok first =>
      cases analyzeWithin inner body with
      | error rejection => rfl
      | ok second => exact ⟨_, rfl, .unlessThen first second⟩
  | ifElse =>
    have three : operands.length = 3 := by simpa [Keyword.arity, Arity.admits] using counted
    obtain ⟨test, consequent, alternative, rfl⟩ := List.length_eq_three.1 three
    simp only [analyzeAll]
    cases analyzeWithin inner test with
    | error rejection => rfl
    | ok first =>
      cases analyzeWithin inner consequent with
      | error rejection => rfl
      | ok second =>
        cases analyzeWithin inner alternative with
        | error rejection => rfl
        | ok third => exact ⟨_, rfl, .ifElse first second third⟩

theorem analyzeWithin_unhandled {name : String} (unknown : Keyword.ofName? name = none)
    (operands : List Node) :
    analyzeWithin room (.list (.symbol name :: operands)) =
      .error (.scheme (.unhandledKeyword name)) := by
  rw [analyzeWithin.eq_def]
  simp only [entered, unknown]

theorem analyzeWithin_application {head : Node} (unnamed : ∀ name, head ≠ .symbol name)
    (operands : List Node) :
    analyzeWithin room (.list (head :: operands)) =
      .error (.scheme .applicationNotImplemented) := by
  rw [analyzeWithin.eq_def]
  simp only [entered]
  cases head with
  | symbol name => exact absurd rfl (unnamed name)
  | literal value => rfl
  | list trees => rfl
  | foreign value => cases value

end

theorem ok_of_bind {ε β γ : Type} {first : Except ε β} {next : β → Except ε γ} {value : γ}
    (result : first >>= next = .ok value) :
    ∃ found, first = .ok found ∧ next found = .ok value := by
  cases first with
  | error cause => cases result
  | ok found => exact ⟨found, rfl, result⟩

inductive Accepts (inner : Room) : Keyword → List Node → Expr → Prop
  | quote (operands : List Node) :
      Accepts inner .quote operands (.quote (Datum.ofNode (quotedNode operands)))
  | cond {operands : List Node} {clauses : List Clause} {otherwise : Expr}
      (last : analyzeElse inner operands = .ok otherwise)
      (earlier : analyzeClauses inner operands = .ok clauses) :
      Accepts inner .cond operands (.cond clauses otherwise)
  | operands {keyword : Keyword} {operands : List Node} {exprs : List Expr} {expr : Expr}
      (all : analyzeAll inner operands = .ok exprs) (assembles : Assembles keyword exprs expr) :
      Accepts inner keyword operands expr

theorem accepts_counted {room inner : Room} {keyword : Keyword} {operands : List Node} {expr : Expr}
    (entered : room.enter = some inner) (counted : keyword.arity.admits operands.length = true)
    (accepted : analyzeWithin room (keyword.form operands) = .ok expr) :
    Accepts inner keyword operands expr := by
  by_cases quoted : keyword = .quote
  · subst quoted
    rw [analyzeWithin_quote entered, quoteOperands_eq] at accepted
    cases accepted
    exact .quote operands
  by_cases conditional : keyword = .cond
  · subst conditional
    have nonempty : operands ≠ [] := by
      rintro rfl
      cases counted
    rw [analyzeWithin_cond entered nonempty] at accepted
    obtain ⟨otherwise, last, accepted⟩ := ok_of_bind accepted
    obtain ⟨clauses, earlier, accepted⟩ := ok_of_bind accepted
    cases accepted
    exact .cond last earlier
  have assembled := analyzeWithin_operands entered counted quoted conditional
  rw [accepted] at assembled
  cases all : analyzeAll inner operands with
  | error rejection =>
    rw [all] at assembled
    cases assembled
  | ok exprs =>
    rw [all] at assembled
    obtain ⟨made, result, assembles⟩ := assembled
    cases result
    exact .operands all assembles

theorem accepts_of_analyzeWithin {room : Room} {name : String} {operands : List Node} {expr : Expr}
    (accepted : analyzeWithin room (.list (.symbol name :: operands)) = .ok expr) :
    ∃ inner keyword, room.enter = some inner ∧ keyword.name = name ∧
      Accepts inner keyword operands expr := by
  cases entered : room.enter with
  | none =>
    rw [analyzeWithin.eq_def, entered] at accepted
    cases accepted
  | some inner =>
    cases found : Keyword.ofName? name with
    | none =>
      rw [analyzeWithin_unhandled entered found] at accepted
      cases accepted
    | some keyword =>
      obtain rfl := Keyword.name_of_ofName? found
      change analyzeWithin room (keyword.form operands) = .ok expr at accepted
      cases counted : keyword.arity.admits operands.length with
      | false =>
        rw [analyzeWithin_miscounted entered counted] at accepted
        cases accepted
      | true => exact ⟨inner, keyword, rfl, rfl, accepts_counted entered counted accepted⟩

end SchemeReader
