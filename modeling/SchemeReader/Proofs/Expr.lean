import SchemeReader.Analysis.Keyword
import SchemeReader.Expr
import SchemeReader.Proofs.Datum

set_option autoImplicit false

namespace SchemeReader

def Keyword.form (keyword : Keyword) (operands : List Node) : Node :=
  .list (.symbol keyword.name :: operands)

mutual

def Expr.node : Expr → Node
  | .literal value => .literal value
  | .variable name => .symbol name
  | .quote datum => Keyword.quote.form [datum.node]
  | .time body => Keyword.time.form [body.node]
  | .ifElse test consequent alternative =>
    Keyword.ifElse.form [test.node, consequent.node, alternative.node]
  | .and operands => Keyword.and.form (Expr.nodes operands)
  | .or operands => Keyword.or.form (Expr.nodes operands)
  | .begin body => Keyword.begin.form (Expr.nodes body)
  | .unlessThen test body => Keyword.unlessThen.form [test.node, body.node]
  | .cond clauses otherwise =>
    Keyword.cond.form (Clause.nodes clauses ++ [.list [.symbol "else", otherwise.node]])

def Expr.nodes : List Expr → List Node
  | [] => []
  | expr :: rest => expr.node :: Expr.nodes rest

def Clause.node : Clause → Node
  | .simple test consequent => .list [test.node, consequent.node]
  | .binding test receiver => .list [test.node, .symbol "=>", receiver.node]
  | .bare test => .list [test.node]

def Clause.nodes : List Clause → List Node
  | [] => []
  | clause :: rest => clause.node :: Clause.nodes rest

end

mutual

def Expr.WellFormed : Expr → Prop
  | .literal value => value.Readable
  | .variable name => IsName name
  | .quote datum => datum.WellFormed
  | .time body => body.WellFormed
  | .ifElse test consequent alternative =>
    test.WellFormed ∧ consequent.WellFormed ∧ alternative.WellFormed
  | .and operands | .or operands => Expr.AllWellFormed operands
  | .begin body => body ≠ [] ∧ Expr.AllWellFormed body
  | .unlessThen test body => test.WellFormed ∧ body.WellFormed
  | .cond clauses otherwise => Clause.AllWellFormed clauses ∧ otherwise.WellFormed

def Expr.AllWellFormed : List Expr → Prop
  | [] => True
  | expr :: rest => expr.WellFormed ∧ Expr.AllWellFormed rest

def Clause.WellFormed : Clause → Prop
  | .simple test part | .binding test part => test.WellFormed ∧ part.WellFormed
  | .bare test => test.WellFormed

def Clause.AllWellFormed : List Clause → Prop
  | [] => True
  | clause :: rest => clause.WellFormed ∧ Clause.AllWellFormed rest

end

mutual

-- What an analyzed expression has even if none of its names can be read back.
def Expr.Proper : Expr → Prop
  | .literal _ | .variable _ => True
  | .quote datum => datum.Proper
  | .time body => body.Proper
  | .ifElse test consequent alternative => test.Proper ∧ consequent.Proper ∧ alternative.Proper
  | .and operands | .or operands => Expr.AllProper operands
  | .begin body => body ≠ [] ∧ Expr.AllProper body
  | .unlessThen test body => test.Proper ∧ body.Proper
  | .cond clauses otherwise => Clause.AllProper clauses ∧ otherwise.Proper

def Expr.AllProper : List Expr → Prop
  | [] => True
  | expr :: rest => expr.Proper ∧ Expr.AllProper rest

def Clause.Proper : Clause → Prop
  | .simple test part | .binding test part => test.Proper ∧ part.Proper
  | .bare test => test.Proper

def Clause.AllProper : List Clause → Prop
  | [] => True
  | clause :: rest => clause.Proper ∧ Clause.AllProper rest

end

mutual

theorem Expr.proper_of_formed (expr : Expr) (formed : expr.WellFormed) : expr.Proper := by
  match expr with
  | .literal _ | .variable _ => trivial
  | .quote datum => exact Datum.WellFormed.proper formed
  | .time body => exact body.proper_of_formed formed
  | .ifElse test consequent alternative =>
    obtain ⟨formedTest, formedConsequent, formedAlternative⟩ := formed
    exact ⟨test.proper_of_formed formedTest, consequent.proper_of_formed formedConsequent,
      alternative.proper_of_formed formedAlternative⟩
  | .and operands | .or operands => exact Expr.allProper_of_formed operands formed
  | .begin body => exact ⟨formed.1, Expr.allProper_of_formed body formed.2⟩
  | .unlessThen test body =>
    exact ⟨test.proper_of_formed formed.1, body.proper_of_formed formed.2⟩
  | .cond clauses otherwise =>
    exact ⟨Clause.allProper_of_formed clauses formed.1, otherwise.proper_of_formed formed.2⟩

theorem Expr.allProper_of_formed (exprs : List Expr) (formed : Expr.AllWellFormed exprs) :
    Expr.AllProper exprs := by
  match exprs with
  | [] => trivial
  | expr :: rest => exact ⟨expr.proper_of_formed formed.1, Expr.allProper_of_formed rest formed.2⟩

theorem Clause.proper_of_formed (clause : Clause) (formed : clause.WellFormed) :
    clause.Proper := by
  match clause with
  | .simple test part | .binding test part =>
    exact ⟨test.proper_of_formed formed.1, part.proper_of_formed formed.2⟩
  | .bare test => exact test.proper_of_formed formed

theorem Clause.allProper_of_formed (clauses : List Clause) (formed : Clause.AllWellFormed clauses) :
    Clause.AllProper clauses := by
  match clauses with
  | [] => trivial
  | clause :: rest =>
    exact ⟨clause.proper_of_formed formed.1, Clause.allProper_of_formed rest formed.2⟩

end

theorem Tree.allReadable_append {nodes others : List Node} :
    Tree.AllReadable (nodes ++ others) ↔ Tree.AllReadable nodes ∧ Tree.AllReadable others := by
  induction nodes with
  | nil => simp [Tree.AllReadable]
  | cons node rest ih => simp [Tree.AllReadable, ih, and_assoc]

theorem Tree.spellings_append (nodes others : List Node) :
    Tree.spellings (nodes ++ others) = Tree.spellings nodes ++ Tree.spellings others := by
  induction nodes with
  | nil => rfl
  | cons node rest ih => simp [Tree.spellings, ih]

theorem Keyword.isName_name (keyword : Keyword) : IsName keyword.name := by
  cases keyword <;> decide

theorem Keyword.readable_form {keyword : Keyword} {operands : List Node}
    (readable : Tree.AllReadable operands) : (keyword.form operands).Readable :=
  ⟨keyword.isName_name, readable⟩

mutual

theorem Expr.readable_node (expr : Expr) (formed : expr.WellFormed) : expr.node.Readable := by
  match expr with
  | .literal value => exact formed
  | .variable name => exact formed
  | .quote datum => exact Keyword.readable_form ⟨(datum.readable_node formed).1, trivial⟩
  | .time body => exact Keyword.readable_form ⟨body.readable_node formed, trivial⟩
  | .ifElse test consequent alternative =>
    obtain ⟨formedTest, formedConsequent, formedAlternative⟩ := formed
    exact Keyword.readable_form ⟨test.readable_node formedTest,
      consequent.readable_node formedConsequent, alternative.readable_node formedAlternative,
      trivial⟩
  | .and operands => exact Keyword.readable_form (Expr.readable_nodes operands formed)
  | .or operands => exact Keyword.readable_form (Expr.readable_nodes operands formed)
  | .begin body => exact Keyword.readable_form (Expr.readable_nodes body formed.2)
  | .unlessThen test body =>
    exact Keyword.readable_form ⟨test.readable_node formed.1, body.readable_node formed.2, trivial⟩
  | .cond clauses otherwise =>
    have isElse : IsName "else" := by decide
    have last : (Tree.list [.symbol "else", otherwise.node]).Readable :=
      ⟨isElse, otherwise.readable_node formed.2, trivial⟩
    exact Keyword.readable_form
      (Tree.allReadable_append.2 ⟨Clause.readable_nodes clauses formed.1, last, trivial⟩)

theorem Expr.readable_nodes (exprs : List Expr) (formed : Expr.AllWellFormed exprs) :
    Tree.AllReadable (Expr.nodes exprs) := by
  match exprs with
  | [] => trivial
  | expr :: rest => exact ⟨expr.readable_node formed.1, Expr.readable_nodes rest formed.2⟩

theorem Clause.readable_node (clause : Clause) (formed : clause.WellFormed) :
    clause.node.Readable := by
  match clause with
  | .simple test consequent =>
    exact ⟨test.readable_node formed.1, consequent.readable_node formed.2, trivial⟩
  | .binding test receiver =>
    have isArrow : IsName "=>" := by decide
    exact ⟨test.readable_node formed.1, isArrow, receiver.readable_node formed.2, trivial⟩
  | .bare test => exact ⟨test.readable_node formed, trivial⟩

theorem Clause.readable_nodes (clauses : List Clause) (formed : Clause.AllWellFormed clauses) :
    Tree.AllReadable (Clause.nodes clauses) := by
  match clauses with
  | [] => trivial
  | clause :: rest => exact ⟨clause.readable_node formed.1, Clause.readable_nodes rest formed.2⟩

end

theorem Keyword.spelling_form (keyword : Keyword) (operands : List Node) :
    (keyword.form operands).spelling =
      Text.parenthesized (keyword.name.toList :: Tree.spellings operands) :=
  rfl

mutual

theorem Expr.spelling_node (expr : Expr) (proper : expr.Proper) :
    expr.node.spelling = expr.spelling := by
  match expr with
  | .literal value => rfl
  | .variable name => rfl
  | .quote datum =>
    have quoted := (datum.spelling_node proper).1
    simp only [Expr.node, Expr.spelling, Keyword.spelling_form, Tree.spellings, quoted]
    rfl
  | .time body =>
    have inner := body.spelling_node proper
    simp only [Expr.node, Expr.spelling, Keyword.spelling_form, Tree.spellings, inner]
    rfl
  | .ifElse test consequent alternative =>
    obtain ⟨properTest, properConsequent, properAlternative⟩ := proper
    have first := test.spelling_node properTest
    have second := consequent.spelling_node properConsequent
    have third := alternative.spelling_node properAlternative
    simp only [Expr.node, Expr.spelling, Keyword.spelling_form, Tree.spellings, first, second,
      third]
    rfl
  | .and operands =>
    have inner := Expr.spellings_nodes_of_proper operands proper
    simp only [Expr.node, Expr.spelling, Keyword.spelling_form, inner]
    rfl
  | .or operands =>
    have inner := Expr.spellings_nodes_of_proper operands proper
    simp only [Expr.node, Expr.spelling, Keyword.spelling_form, inner]
    rfl
  | .begin body =>
    have inner := Expr.spellings_nodes_of_proper body proper.2
    simp only [Expr.node, Expr.spelling, Keyword.spelling_form, inner]
    rfl
  | .unlessThen test body =>
    have first := test.spelling_node proper.1
    have second := body.spelling_node proper.2
    simp only [Expr.node, Expr.spelling, Keyword.spelling_form, Tree.spellings, first, second]
    rfl
  | .cond clauses otherwise =>
    have inner := Clause.spellings_nodes clauses proper.1
    have last := otherwise.spelling_node proper.2
    simp only [Expr.node, Expr.spelling, Keyword.spelling_form, Tree.spellings_append, inner,
      Tree.spellings, Tree.spelling, last]
    rfl

theorem Expr.spellings_nodes_of_proper (exprs : List Expr) (proper : Expr.AllProper exprs) :
    Tree.spellings (Expr.nodes exprs) = Expr.spellings exprs := by
  match exprs with
  | [] => rfl
  | expr :: rest =>
    have first := expr.spelling_node proper.1
    have others := Expr.spellings_nodes_of_proper rest proper.2
    simp only [Expr.nodes, Tree.spellings, Expr.spellings, first, others]

theorem Clause.spelling_node (clause : Clause) (proper : clause.Proper) :
    clause.node.spelling = clause.spelling := by
  match clause with
  | .simple test consequent =>
    have first := test.spelling_node proper.1
    have second := consequent.spelling_node proper.2
    simp only [Clause.node, Clause.spelling, Tree.spelling, Tree.spellings, first, second]
  | .binding test receiver =>
    have first := test.spelling_node proper.1
    have second := receiver.spelling_node proper.2
    simp only [Clause.node, Clause.spelling, Tree.spelling, Tree.spellings, first, second]
  | .bare test =>
    have first := test.spelling_node proper
    simp only [Clause.node, Clause.spelling, Tree.spelling, Tree.spellings, first]

theorem Clause.spellings_nodes (clauses : List Clause) (proper : Clause.AllProper clauses) :
    Tree.spellings (Clause.nodes clauses) = Clause.spellings clauses := by
  match clauses with
  | [] => rfl
  | clause :: rest =>
    have first := clause.spelling_node proper.1
    have others := Clause.spellings_nodes rest proper.2
    simp only [Clause.nodes, Tree.spellings, Clause.spellings, first, others]

end

theorem Expr.spellings_nodes (exprs : List Expr) (formed : Expr.AllWellFormed exprs) :
    Tree.spellings (Expr.nodes exprs) = Expr.spellings exprs :=
  Expr.spellings_nodes_of_proper exprs (Expr.allProper_of_formed exprs formed)

end SchemeReader
