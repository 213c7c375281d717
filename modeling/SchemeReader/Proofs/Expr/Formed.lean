import SchemeReader.Proofs.Expr

set_option autoImplicit false

namespace SchemeReader

theorem Datum.wellFormed_of_readable (datum : Datum) (proper : datum.Proper) :
    (datum.node.Readable → datum.WellFormed) ∧
      (datum.terminator = .nil → Tree.AllReadable datum.chain → datum.WellFormed) := by
  induction datum with
  | literal value => exact ⟨id, nofun⟩
  | symbol name => exact ⟨id, nofun⟩
  | nil => exact ⟨fun _ => trivial, fun _ _ => trivial⟩
  | cons head tail formedHead formedTail =>
    obtain ⟨properHead, properTail, ended⟩ := proper
    have formed (readable : Tree.AllReadable (head.node :: tail.chain)) :
        (Datum.cons head tail).WellFormed :=
      ⟨(formedHead properHead).1 readable.1, (formedTail properTail).2 ended readable.2, ended⟩
    exact ⟨formed, fun _ => formed⟩

mutual

theorem Expr.wellFormed_of_readable (expr : Expr) (proper : expr.Proper)
    (readable : expr.node.Readable) : expr.WellFormed := by
  match expr with
  | .literal _ | .variable _ => exact readable
  | .quote datum => exact (datum.wellFormed_of_readable proper).1 readable.2.1
  | .time body => exact body.wellFormed_of_readable proper readable.2.1
  | .ifElse test consequent alternative =>
    obtain ⟨properTest, properConsequent, properAlternative⟩ := proper
    obtain ⟨_, readableTest, readableConsequent, readableAlternative, _⟩ := readable
    exact ⟨test.wellFormed_of_readable properTest readableTest,
      consequent.wellFormed_of_readable properConsequent readableConsequent,
      alternative.wellFormed_of_readable properAlternative readableAlternative⟩
  | .and operands => exact Expr.allWellFormed_of_readable operands proper readable.2
  | .or operands => exact Expr.allWellFormed_of_readable operands proper readable.2
  | .begin body => exact ⟨proper.1, Expr.allWellFormed_of_readable body proper.2 readable.2⟩
  | .unlessThen test body =>
    obtain ⟨_, readableTest, readableBody, _⟩ := readable
    exact ⟨test.wellFormed_of_readable proper.1 readableTest,
      body.wellFormed_of_readable proper.2 readableBody⟩
  | .cond clauses otherwise =>
    obtain ⟨readableClauses, readableLast, _⟩ := Tree.allReadable_append.1 readable.2
    exact ⟨Clause.allWellFormed_of_readable clauses proper.1 readableClauses,
      otherwise.wellFormed_of_readable proper.2 readableLast.2.1⟩

theorem Expr.allWellFormed_of_readable (exprs : List Expr) (proper : Expr.AllProper exprs)
    (readable : Tree.AllReadable (Expr.nodes exprs)) : Expr.AllWellFormed exprs := by
  match exprs with
  | [] => trivial
  | expr :: rest =>
    exact ⟨expr.wellFormed_of_readable proper.1 readable.1,
      Expr.allWellFormed_of_readable rest proper.2 readable.2⟩

theorem Clause.wellFormed_of_readable (clause : Clause) (proper : clause.Proper)
    (readable : clause.node.Readable) : clause.WellFormed := by
  match clause with
  | .simple test consequent =>
    exact ⟨test.wellFormed_of_readable proper.1 readable.1,
      consequent.wellFormed_of_readable proper.2 readable.2.1⟩
  | .binding test receiver =>
    exact ⟨test.wellFormed_of_readable proper.1 readable.1,
      receiver.wellFormed_of_readable proper.2 readable.2.2.1⟩
  | .bare test => exact test.wellFormed_of_readable proper readable.1

theorem Clause.allWellFormed_of_readable (clauses : List Clause) (proper : Clause.AllProper clauses)
    (readable : Tree.AllReadable (Clause.nodes clauses)) : Clause.AllWellFormed clauses := by
  match clauses with
  | [] => trivial
  | clause :: rest =>
    exact ⟨clause.wellFormed_of_readable proper.1 readable.1,
      Clause.allWellFormed_of_readable rest proper.2 readable.2⟩

end

end SchemeReader
