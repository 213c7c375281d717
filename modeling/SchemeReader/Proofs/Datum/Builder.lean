import SchemeReader.Datum.Quoting

set_option autoImplicit false

namespace SchemeReader.Datum

variable {α : Type}

mutual

def image : Tree α → Except α Datum
  | .symbol name => .ok (symbol name)
  | .literal value => .ok (literal value)
  | .list items => do return ofList (← images items)
  | .foreign value => .error value

def images : List (Tree α) → Except α (List Datum)
  | [] => .ok []
  | item :: rest => do return (← image item) :: (← images rest)

end

theorem ofReverse_reverse (items : List Datum) : ofReverse items.reverse = ofList items := by
  rw [ofReverse, ofList, List.foldl_reverse]

mutual

theorem build_tree (tree : Tree α) (pending : List (Tree α)) (built : List Datum)
    (outer : List (Frame α)) :
    build (tree :: pending) built outer =
      image tree >>= fun datum => build pending (datum :: built) outer := by
  match tree with
  | .symbol name =>
    rw [build]
    rfl
  | .literal value =>
    rw [build]
    rfl
  | .foreign value =>
    rw [build]
    rfl
  | .list items =>
    rw [build, build_trees items [] (⟨pending, built⟩ :: outer), image]
    cases images items with
    | error value => rfl
    | ok data =>
      calc
        build [] (data.reverse ++ []) (⟨pending, built⟩ :: outer)
          = build pending (ofReverse (data.reverse ++ []) :: built) outer := by rw [build]
        _ = build pending (ofList data :: built) outer := by
          rw [List.append_nil, ofReverse_reverse]

theorem build_trees (items : List (Tree α)) (built : List Datum) (outer : List (Frame α)) :
    build items built outer =
      images items >>= fun data => build [] (data.reverse ++ built) outer := by
  match items with
  | [] => rfl
  | item :: rest =>
    rw [build_tree item rest built outer, images]
    cases image item with
    | error value => rfl
    | ok datum =>
      calc
        build rest (datum :: built) outer
          = images rest >>= fun data => build [] (data.reverse ++ datum :: built) outer :=
            build_trees rest (datum :: built) outer
        _ = images rest >>= fun data => build [] ((datum :: data).reverse ++ built) outer := by
          simp only [List.reverse_cons, List.append_assoc, List.singleton_append]
        _ = _ := by cases images rest <;> rfl

end

theorem ofTree_eq_image (tree : Tree α) : ofTree tree = image tree := by
  match tree with
  | .symbol _ | .literal _ | .foreign _ => rfl
  | .list items =>
    rw [ofTree, build_trees items [] [], image]
    cases images items with
    | error value => rfl
    | ok data =>
      calc
        build [] (data.reverse ++ []) []
          = .ok (ofReverse (data.reverse ++ [])) := by rw [build]
        _ = .ok (ofList data) := by rw [List.append_nil, ofReverse_reverse]

end SchemeReader.Datum
