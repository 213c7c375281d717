import SchemeReader.Proofs.Datum.Builder
import SchemeReader.Value.Checked

set_option autoImplicit false

namespace SchemeReader.Value

mutual

def leaves : Value → List Value
  | .list items => allLeaves items
  | leaf => [leaf]

def allLeaves : List Value → List Value
  | [] => []
  | item :: rest => item.leaves ++ allLeaves rest

end

def isQuotable : Value → Bool
  | .symbol _ | .literal _ => true
  | _ => false

mutual

def chained : Value → Value
  | .list items => chain (allChained items)
  | leaf => leaf

def allChained : List Value → List Value
  | [] => []
  | item :: rest => item.chained :: allChained rest

end

theorem ofDatum_ofList (data : List Datum) :
    ofDatum (Datum.ofList data) = chain (data.map ofDatum) := by
  induction data with
  | nil => rfl
  | cons datum rest ih =>
    simp only [Datum.ofList, chain, List.foldr_cons, List.map_cons, ofDatum] at ih ⊢
    rw [ih]

def misfit? (leaves : List Value) : Option Value := leaves.find? (!·.isQuotable)

theorem misfit?_append (leaves others : List Value) :
    misfit? (leaves ++ others) = (misfit? leaves).or (misfit? others) :=
  List.find?_append

mutual

theorem image_toTree (value : Value) :
    (misfit? value.leaves = none →
      ∃ datum, Datum.image value.toTree = .ok datum ∧ ofDatum datum = value.chained) ∧
    ∀ leaf, misfit? value.leaves = some leaf → Datum.image value.toTree = .error leaf := by
  match value with
  | .symbol name =>
    refine ⟨fun _ => ⟨.symbol name, rfl, rfl⟩, ?_⟩
    intro leaf found
    cases found
  | .literal value =>
    refine ⟨fun _ => ⟨.literal value, rfl, rfl⟩, ?_⟩
    intro leaf found
    cases found
  | .list items =>
    obtain ⟨accepted, refused⟩ := images_toTrees items
    constructor
    · intro quotable
      obtain ⟨data, made, same⟩ := accepted quotable
      refine ⟨Datum.ofList data, ?_, ?_⟩
      · rw [toTree, Datum.image, made]
        rfl
      · rw [ofDatum_ofList, same, chained]
    · intro leaf found
      rw [toTree, Datum.image, refused leaf found]
      rfl
  | .plain _ | .variable _ | .nil | .cons _ _ | .quote _ | .time _ | .ifElse _ _ _ | .and _ | .or _
  | .begin _ | .unlessThen _ _ | .cond _ _ | .simple _ _ | .binding _ _ | .bare _ =>
    refine ⟨nofun, ?_⟩
    intro leaf found
    cases found
    rfl

theorem images_toTrees (items : List Value) :
    (misfit? (allLeaves items) = none →
      ∃ data, Datum.images (toTrees items) = .ok data ∧ data.map ofDatum = allChained items) ∧
    ∀ leaf, misfit? (allLeaves items) = some leaf → Datum.images (toTrees items) = .error leaf := by
  match items with
  | [] =>
    refine ⟨fun _ => ⟨[], rfl, rfl⟩, ?_⟩
    intro leaf found
    cases found
  | item :: rest =>
    obtain ⟨accepted, refused⟩ := image_toTree item
    obtain ⟨acceptedRest, refusedRest⟩ := images_toTrees rest
    rw [allLeaves, misfit?_append, toTrees, Datum.images]
    cases first : misfit? item.leaves with
    | some leaf =>
      refine ⟨nofun, ?_⟩
      intro found same
      cases same
      rw [refused leaf first]
      rfl
    | none =>
      obtain ⟨datum, made, same⟩ := accepted first
      rw [made, Option.none_or]
      constructor
      · intro others
        obtain ⟨data, madeRest, sameRest⟩ := acceptedRest others
        refine ⟨datum :: data, ?_, ?_⟩
        · rw [madeRest]
          rfl
        · rw [List.map_cons, same, sameRest, allChained]
      · intro leaf found
        rw [refusedRest leaf found]
        rfl

end

end SchemeReader.Value
