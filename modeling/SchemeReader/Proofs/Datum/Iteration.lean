import Mathlib.Data.List.Forall2
import SchemeReader.Printing
import SchemeReader.Proofs.Datum

set_option autoImplicit false

namespace SchemeReader.Datum

theorem sizeOf_lt_of_mem_elements {datum element : Datum} (member : element ∈ datum.elements) :
    sizeOf element < sizeOf datum := by
  induction datum with
  | literal _ | symbol _ | nil => cases member
  | cons head tail _ ih =>
    rw [cons.sizeOf_spec]
    rcases List.mem_cons.1 member with rfl | behind
    · omega
    · have smaller := ih behind
      omega

def rebuilt (datum : Datum) : Node :=
  match datum with
  | literal value => .literal value
  | symbol name => .symbol name
  | nil => .list []
  | cons head tail =>
    .list ((cons head tail).elements.attach.map fun ⟨element, _⟩ => element.rebuilt)
termination_by sizeOf datum
decreasing_by
  rename_i member
  exact sizeOf_lt_of_mem_elements member

theorem rebuilt_ofList (elements : List Datum) :
    (ofList elements).rebuilt = .list (elements.map rebuilt) := by
  cases elements with
  | nil =>
    rw [ofList, List.foldr_nil, rebuilt]
    rfl
  | cons head rest =>
    have whole : (cons head (ofList rest)).elements = head :: rest := elements_ofList (head :: rest)
    change (cons head (ofList rest)).rebuilt = _
    rw [rebuilt, List.attach_map_val, whole]

theorem ofNodes_eq_ofList (nodes : List Node) : ofNodes nodes = ofList (nodes.map ofNode) := by
  induction nodes with
  | nil => rfl
  | cons node rest ih =>
    rw [ofNodes, ih]
    rfl

theorem elements_ofNodes (nodes : List Node) : (ofNodes nodes).elements = nodes.map ofNode := by
  rw [ofNodes_eq_ofList, elements_ofList]

mutual

theorem rebuilt_ofNode (node : Node) : (ofNode node).rebuilt = node := by
  match node with
  | .symbol name => rw [ofNode, rebuilt]
  | .literal value => rw [ofNode, rebuilt]
  | .list nodes =>
    rw [ofNode, ofNodes_eq_ofList, rebuilt_ofList, List.map_map, rebuilt_ofNodes nodes]
  | .foreign value => exact nomatch value

theorem rebuilt_ofNodes (nodes : List Node) : nodes.map (rebuilt ∘ ofNode) = nodes := by
  match nodes with
  | [] => rfl
  | node :: rest =>
    rw [List.map_cons, rebuilt_ofNodes rest, Function.comp_apply, rebuilt_ofNode node]

end

mutual

theorem depth_ofNode (node : Node) : (ofNode node).depth = node.depth := by
  match node with
  | .symbol _ | .literal _ => rfl
  | .list nodes => exact depth_ofNodes nodes
  | .foreign value => exact nomatch value

theorem depth_ofNodes (nodes : List Node) : (ofNodes nodes).depth = Tree.depths nodes + 1 := by
  match nodes with
  | [] => rfl
  | node :: rest =>
    rw [ofNodes, depth, Tree.depths, depth_ofNode node, depth_ofNodes rest]
    omega

end

theorem source_ofNode (node : Node) : (ofNode node).source = node.source := by
  obtain ⟨proper, same⟩ := proper_ofNode node
  rw [source, ← (spelling_node (ofNode node) proper).1, same, Tree.source]

theorem source?_ofNode (node : Node) (limits : Limits) :
    (ofNode node).source? limits = node.source? limits := by
  rw [source?, Tree.source?, depth_ofNode, source_ofNode]

/-- A quoted node is printed as the node is, and going through the elements of its lists gives the
node back. -/
theorem quoting_keeps_node (node : Node) :
    ∃ datum, ofTree node = .ok datum ∧
      (datum.source = node.source ∧ ∀ limits, datum.source? limits = node.source? limits) ∧
      (∀ items, node = .list items →
        List.Forall₂ (fun item element => ofTree item = .ok element) items datum.elements) ∧
      datum.rebuilt = node ∧
      ∀ other : Node, ofTree other = .ok datum → other = node := by
  refine ⟨ofNode node, ofTree_eq_ofNode node, ⟨source_ofNode node, source?_ofNode node⟩, ?_,
    rebuilt_ofNode node, ?_⟩
  · rintro items rfl
    rw [ofNode, elements_ofNodes, List.forall₂_map_right_iff, List.forall₂_same]
    intro item _
    exact ofTree_eq_ofNode item
  · intro other same
    rw [ofTree_eq_ofNode, Except.ok.injEq] at same
    calc
      other = (ofNode other).rebuilt := (rebuilt_ofNode other).symm
      _ = (ofNode node).rebuilt := by rw [same]
      _ = node := rebuilt_ofNode node

end SchemeReader.Datum
