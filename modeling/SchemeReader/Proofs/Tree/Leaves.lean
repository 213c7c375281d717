import SchemeReader.Proofs.Analysis.Normal
import SchemeReader.Proofs.Token.Printed

set_option autoImplicit false

namespace SchemeReader

mutual

def Tree.leaves : Node → List (Token Empty)
  | .symbol name => [.identifier name]
  | .literal value => [.literal value]
  | .list nodes => Tree.allLeaves nodes
  | .foreign value => nomatch value

def Tree.allLeaves : List Node → List (Token Empty)
  | [] => []
  | node :: rest => node.leaves ++ Tree.allLeaves rest

end

mutual

theorem Tree.mem_items_of_mem_leaves (node : Node) {token : Token Empty}
    (member : token ∈ node.leaves) : .token token ∈ node.items := by
  match node with
  | .symbol name => exact List.mem_singleton.2 (congrArg Item.token (List.mem_singleton.1 member))
  | .literal value => exact List.mem_singleton.2 (congrArg Item.token (List.mem_singleton.1 member))
  | .list nodes =>
    have inside := Tree.mem_itemLists_of_mem_allLeaves nodes member
    exact List.mem_cons_of_mem _ (List.mem_append_left _ inside)
  | .foreign value => exact nomatch value

theorem Tree.mem_itemLists_of_mem_allLeaves (nodes : List Node) {token : Token Empty}
    (member : token ∈ Tree.allLeaves nodes) : .token token ∈ (Tree.itemLists nodes).flatten := by
  match nodes with
  | [] => cases member
  | node :: rest =>
    rcases List.mem_append.1 member with inside | later
    · exact List.mem_append_left _ (node.mem_items_of_mem_leaves inside)
    · exact List.mem_append_right _ (Tree.mem_itemLists_of_mem_allLeaves rest later)

end

theorem Keyword.leaves_form (keyword : Keyword) (operands : List Node) :
    (keyword.form operands).leaves = .identifier keyword.name :: Tree.allLeaves operands :=
  rfl

theorem leaves_quotedNode (operands : List Node) :
    (quotedNode operands).leaves = Tree.allLeaves operands := by
  match operands with
  | [operand] => rw [quotedNode, Tree.allLeaves, Tree.allLeaves, List.append_nil]
  | [] | _ :: _ :: _ => rfl

mutual

theorem Tree.leaves_normal (node : Node) : node.normal.leaves = node.leaves := by
  match node with
  | .list (.symbol name :: operands) =>
    cases found : Keyword.ofName? name with
    | none => rw [Tree.normal, found]
    | some keyword =>
      obtain rfl := Keyword.name_of_ofName? found
      change (keyword.form operands).normal.leaves = (keyword.form operands).leaves
      rw [Tree.normal_form, Keyword.leaves_form, Keyword.leaves_form]
      cases keyword with
      | quote => rw [Tree.allLeaves, leaves_quotedNode, Tree.allLeaves, List.append_nil]
      | cond => rw [Tree.leaves_normalClauses operands]
      | time | ifElse | and | or | begin | unlessThen => rw [Tree.leaves_allNormal operands]
  | .list [] | .list (.literal _ :: _) | .list (.list _ :: _) | .literal _ | .symbol _ => rfl
  | .foreign value | .list (.foreign value :: _) => exact nomatch value

theorem Tree.leaves_allNormal (nodes : List Node) :
    Tree.allLeaves (Tree.allNormal nodes) = Tree.allLeaves nodes := by
  match nodes with
  | [] => rfl
  | node :: rest =>
    rw [Tree.allNormal, Tree.allLeaves, node.leaves_normal, Tree.leaves_allNormal rest,
      Tree.allLeaves]

theorem Tree.leaves_normalClauses (clauses : List Node) :
    Tree.allLeaves (Tree.normalClauses clauses) = Tree.allLeaves clauses := by
  match clauses with
  | [] => rfl
  | clause :: rest =>
    rw [Tree.normalClauses, Tree.allLeaves, clause.leaves_normalClause,
      Tree.leaves_normalClauses rest, Tree.allLeaves]

theorem Tree.leaves_normalClause (clause : Node) : clause.normalClause.leaves = clause.leaves := by
  match clause with
  | .list parts => exact Tree.leaves_allNormal parts
  | .literal _ | .symbol _ => rfl
  | .foreign value => exact nomatch value

end

mutual

theorem Tree.readable_of_leaves {text : List Char} (node : Node)
    (spelled : ∀ token ∈ node.leaves, SpelledIn text token) : node.Readable := by
  match node with
  | .symbol name => exact (spelled _ List.mem_cons_self).isName
  | .literal value => exact (spelled _ List.mem_cons_self).readable
  | .list nodes => exact Tree.allReadable_of_leaves nodes spelled
  | .foreign value => exact nomatch value

theorem Tree.allReadable_of_leaves {text : List Char} (nodes : List Node)
    (spelled : ∀ token ∈ Tree.allLeaves nodes, SpelledIn text token) :
    Tree.AllReadable nodes := by
  match nodes with
  | [] => trivial
  | node :: rest =>
    constructor
    · exact node.readable_of_leaves
        fun token member => spelled token (List.mem_append_left _ member)
    · exact Tree.allReadable_of_leaves rest
        fun token member => spelled token (List.mem_append_right _ member)

end

theorem mem_of_mem_intercalate {c separator : Char} {parts : List (List Char)}
    (member : c ∈ [separator].intercalate parts) : c = separator ∨ ∃ part ∈ parts, c ∈ part := by
  induction parts with
  | nil => cases member
  | cons part rest ih =>
    cases rest with
    | nil => exact .inr ⟨part, List.mem_cons_self, by simpa using member⟩
    | cons next rest =>
      have split : c ∈ part ∨ c = separator ∨ c ∈ [separator].intercalate (next :: rest) := by
        simpa [List.intercalate, List.intersperse] using member
      rcases split with here | same | behind
      · exact .inr ⟨part, List.mem_cons_self, here⟩
      · exact .inl same
      · rcases ih behind with same | ⟨other, within, inside⟩
        · exact .inl same
        · exact .inr ⟨other, List.mem_cons_of_mem _ within, inside⟩

def punctuation : List Char := ['(', ' ', ')']

theorem mem_of_mem_parenthesized {c : Char} {parts : List (List Char)}
    (member : c ∈ Text.parenthesized parts) : c ∈ punctuation ∨ ∃ part ∈ parts, c ∈ part := by
  have split : c = '(' ∨ c ∈ [' '].intercalate parts ∨ c = ')' := by
    simpa [Text.parenthesized] using member
  rcases split with opening | inside | closing
  · exact .inl (by simp [punctuation, opening])
  · rcases mem_of_mem_intercalate inside with space | part
    · exact .inl (by simp [punctuation, space])
    · exact .inr part
  · exact .inl (by simp [punctuation, closing])

mutual

theorem Tree.leaf_of_mem_spelling (node : Node) {c : Char} (member : c ∈ node.spelling) :
    c ∈ punctuation ∨ ∃ token ∈ node.leaves, c ∈ token.spelling := by
  match node with
  | .symbol name => exact .inr ⟨_, List.mem_cons_self, member⟩
  | .literal value => exact .inr ⟨_, List.mem_cons_self, member⟩
  | .list nodes =>
    rcases mem_of_mem_parenthesized member with outside | ⟨part, within, inside⟩
    · exact .inl outside
    · exact Tree.leaf_of_mem_spellings nodes within inside
  | .foreign value => exact nomatch value

theorem Tree.leaf_of_mem_spellings (nodes : List Node) {c : Char} {part : List Char}
    (within : part ∈ Tree.spellings nodes) (member : c ∈ part) :
    c ∈ punctuation ∨ ∃ token ∈ Tree.allLeaves nodes, c ∈ token.spelling := by
  match nodes with
  | [] => cases within
  | node :: rest =>
    rcases List.mem_cons.1 within with rfl | later
    · rcases node.leaf_of_mem_spelling member with outside | ⟨token, leaf, inside⟩
      · exact .inl outside
      · exact .inr ⟨token, List.mem_append_left _ leaf, inside⟩
    · rcases Tree.leaf_of_mem_spellings rest later member with outside | ⟨token, leaf, inside⟩
      · exact .inl outside
      · exact .inr ⟨token, List.mem_append_right _ leaf, inside⟩

end

end SchemeReader
