import SchemeReader.Proofs.Datum.Builder
import SchemeReader.Proofs.Reading

set_option autoImplicit false

namespace SchemeReader.Datum

mutual

def node : Datum → Node
  | literal value => .literal value
  | symbol name => .symbol name
  | nil => .list []
  | cons head tail => .list (head.node :: tail.chain)

def chain : Datum → List Node
  | cons head tail => head.node :: tail.chain
  | _ => []

end

def WellFormed : Datum → Prop
  | literal value => value.Readable
  | symbol name => IsName name
  | nil => True
  | cons head tail => head.WellFormed ∧ tail.WellFormed ∧ tail.terminator = nil

def Proper : Datum → Prop
  | cons head tail => head.Proper ∧ tail.Proper ∧ tail.terminator = nil
  | _ => True

theorem WellFormed.proper {datum : Datum} (formed : datum.WellFormed) : datum.Proper := by
  induction datum with
  | literal _ | symbol _ | nil => trivial
  | cons head tail headProper tailProper =>
    obtain ⟨formedHead, formedTail, ended⟩ := formed
    exact ⟨headProper formedHead, tailProper formedTail, ended⟩

theorem readable_node (datum : Datum) (formed : datum.WellFormed) :
    datum.node.Readable ∧ Tree.AllReadable datum.chain := by
  induction datum with
  | literal value => exact ⟨formed, trivial⟩
  | symbol name => exact ⟨formed, trivial⟩
  | nil => exact ⟨trivial, trivial⟩
  | cons head tail headReadable tailReadable =>
    obtain ⟨formedHead, formedTail, _⟩ := formed
    have nodes : Tree.AllReadable (head.node :: tail.chain) :=
      ⟨(headReadable formedHead).1, (tailReadable formedTail).2⟩
    exact ⟨nodes, nodes⟩

theorem spelling_node (datum : Datum) (proper : datum.Proper) :
    datum.node.spelling = datum.spelling ∧
      (datum.terminator = nil → Tree.spellings datum.chain = datum.tailSpellings) := by
  induction datum with
  | literal value =>
    refine ⟨rfl, ?_⟩
    intro ended
    cases ended
  | symbol name =>
    refine ⟨rfl, ?_⟩
    intro ended
    cases ended
  | nil => simp [node, chain, spelling, tailSpellings, Tree.spelling, Tree.spellings]
  | cons head tail headSpelling tailSpelling =>
    obtain ⟨properHead, properTail, ended⟩ := proper
    have first := (headSpelling properHead).1
    have others := (tailSpelling properTail).2 ended
    simp only [node, chain, Tree.spelling, Tree.spellings, spelling, tailSpellings, first, others,
      true_and, implies_true]

mutual

def ofNode : Node → Datum
  | .symbol name => .symbol name
  | .literal value => .literal value
  | .list nodes => ofNodes nodes
  | .foreign value => nomatch value

def ofNodes : List Node → Datum
  | [] => .nil
  | node :: rest => .cons (ofNode node) (ofNodes rest)

end

theorem terminator_ofNodes (nodes : List Node) : (ofNodes nodes).terminator = nil := by
  induction nodes with
  | nil => rfl
  | cons node rest ih => exact ih

mutual

theorem proper_ofNode (node : Node) : (ofNode node).Proper ∧ (ofNode node).node = node := by
  match node with
  | .symbol name => exact ⟨trivial, rfl⟩
  | .literal value => exact ⟨trivial, rfl⟩
  | .list [] => exact ⟨trivial, rfl⟩
  | .list (first :: rest) =>
    obtain ⟨properFirst, sameFirst⟩ := proper_ofNode first
    obtain ⟨properRest, sameRest⟩ := proper_ofNodes rest
    refine ⟨⟨properFirst, properRest, terminator_ofNodes rest⟩, ?_⟩
    rw [ofNode, ofNodes, Datum.node, sameFirst, sameRest]
  | .foreign value => exact nomatch value

theorem proper_ofNodes (nodes : List Node) :
    (ofNodes nodes).Proper ∧ (ofNodes nodes).chain = nodes := by
  match nodes with
  | [] => exact ⟨trivial, rfl⟩
  | first :: rest =>
    obtain ⟨properFirst, sameFirst⟩ := proper_ofNode first
    obtain ⟨properRest, sameRest⟩ := proper_ofNodes rest
    refine ⟨⟨properFirst, properRest, terminator_ofNodes rest⟩, ?_⟩
    rw [ofNodes, chain, sameFirst, sameRest]

end

mutual

theorem image_node (node : Node) : image node = .ok (ofNode node) := by
  match node with
  | .symbol _ | .literal _ => rfl
  | .list nodes =>
    obtain ⟨data, made, same⟩ := images_nodes nodes
    rw [image, made, ofNode, ← same]
    rfl
  | .foreign value => exact nomatch value

theorem images_nodes (nodes : List Node) :
    ∃ data, images nodes = .ok data ∧ ofList data = ofNodes nodes := by
  match nodes with
  | [] => exact ⟨[], rfl, rfl⟩
  | node :: rest =>
    obtain ⟨data, made, same⟩ := images_nodes rest
    refine ⟨ofNode node :: data, ?_, ?_⟩
    · rw [images, image_node node, made]
      rfl
    · rw [ofNodes, ← same]
      rfl

end

theorem ofTree_eq_ofNode (node : Node) : ofTree node = .ok (ofNode node) :=
  (ofTree_eq_image node).trans (image_node node)

theorem ofNode_node (datum : Datum) (proper : datum.Proper) :
    ofNode datum.node = datum ∧ (datum.terminator = nil → ofNodes datum.chain = datum) := by
  induction datum with
  | literal value =>
    refine ⟨rfl, ?_⟩
    intro ended
    cases ended
  | symbol name =>
    refine ⟨rfl, ?_⟩
    intro ended
    cases ended
  | nil => exact ⟨rfl, fun _ => rfl⟩
  | cons head tail headSame tailSame =>
    obtain ⟨properHead, properTail, ended⟩ := proper
    have whole : ofNodes (head.node :: tail.chain) = cons head tail := by
      rw [ofNodes, (headSame properHead).1, (tailSame properTail).2 ended]
    exact ⟨whole, fun _ => whole⟩

theorem ofTree_node (datum : Datum) (proper : datum.Proper) :
    ofTree datum.node = .ok datum := by
  rw [ofTree_eq_ofNode, (ofNode_node datum proper).1]

end SchemeReader.Datum
