import SchemeReader.Proofs.Lexer.Division
import SchemeReader.Proofs.Reading

set_option autoImplicit false

namespace SchemeReader

open Text (CharSource)

inductive Item.WrittenAs : Item Empty → List Char → Prop
  | opening {c : Char} (shape : isOpening c = true) : WrittenAs (.token .opening) [c]
  | closing {c : Char} (shape : isClosing c = true) : WrittenAs (.token .closing) [c]
  | symbol (name : String) : WrittenAs (.token (.identifier name)) name.toList
  | literal (value : Literal) : WrittenAs (.token (.literal value)) value.spelling

-- Brackets and strings may touch what is next to them.
def Item.delimits : Item Empty → Bool
  | .token .opening | .token .closing | .token (.literal (.string _)) => true
  | _ => false

theorem exists_string_of_delimits {value : Literal}
    (delimits : Item.delimits (.token (.literal value)) = true) : ∃ text, value = .string text := by
  cases value with
  | string text => exact ⟨text, rfl⟩
  | number n => cases delimits
  | boolean truth => cases delimits
  | character c => cases delimits

inductive Layout : List (Item Empty) → List Char → Prop
  | finish {blanks : List Char} (blank : IsBlank blanks) : Layout [] blanks
  | item {item : Item Empty} {items : List (Item Empty)} (blanks : List Char)
      {spelling rest : List Char} (blank : IsBlank blanks) (written : item.WrittenAs spelling)
      (apart : item.delimits = true ∨ (∀ next ∈ items.head?, next.delimits = true) ∨
        ∃ c ∈ rest.head?, isSpace c = true)
      (later : Layout items rest) : Layout (item :: items) (blanks ++ (spelling ++ rest))

def Item.Readable : Item Empty → Prop
  | .token (.identifier name) => IsName name
  | .token (.literal value) => value.Readable
  | _ => True

mutual

theorem Tree.readable_items (node : Node) (readable : node.Readable) :
    ∀ item ∈ node.items, item.Readable := by
  match node with
  | .symbol name =>
    intro item member
    rw [List.mem_singleton.1 member]
    exact readable
  | .literal value =>
    intro item member
    rw [List.mem_singleton.1 member]
    exact readable
  | .list nodes =>
    have inside := Tree.readable_itemLists nodes readable
    intro item member
    simp only [Tree.items, List.mem_cons, List.mem_append, List.not_mem_nil, or_false] at member
    rcases member with rfl | within | rfl
    · trivial
    · exact inside item within
    · trivial
  | .foreign value => exact nomatch value

theorem Tree.readable_itemLists (nodes : List Node) (readable : Tree.AllReadable nodes) :
    ∀ item ∈ (Tree.itemLists nodes).flatten, item.Readable := by
  match nodes with
  | [] => simp [Tree.itemLists]
  | node :: rest =>
    intro item member
    rw [Tree.itemLists, List.flatten_cons] at member
    rcases List.mem_append.1 member with first | later
    · exact node.readable_items readable.1 item first
    · exact Tree.readable_itemLists rest readable.2 item later

end

theorem IsBlank.endsWord {blanks text : List Char} (blank : IsBlank blanks)
    (ends : Pattern.endsWord text = true) : Pattern.endsWord (blanks ++ text) = true := by
  cases blanks with
  | nil => exact ends
  | cons c rest => simp [isTerminator, blank c List.mem_cons_self]

theorem Spells.blanks {blanks : List Char} (blank : IsBlank blanks) {items : List (Item Empty)}
    {text : List Char} (later : Spells items text) : Spells items (blanks ++ text) := by
  induction blanks with
  | nil => exact later
  | cons c rest ih =>
    have behind := ih fun d member => blank d (List.mem_cons_of_mem _ member)
    exact .blank (blank c List.mem_cons_self) behind

namespace Item.WrittenAs

variable {item : Item Empty} {spelling : List Char}

theorem endsWord (written : item.WrittenAs spelling) (delimits : item.delimits = true)
    (rest : List Char) : Pattern.endsWord (spelling ++ rest) = true := by
  cases written with
  | opening shape => exact Lexeme.bracket_isTerminator (.inl shape)
  | closing shape => exact Lexeme.bracket_isTerminator (.inr shape)
  | symbol name => cases delimits
  | literal value =>
    obtain ⟨text, rfl⟩ := exists_string_of_delimits delimits
    rfl

theorem spells (written : item.WrittenAs spelling) (readable : item.Readable)
    {items : List (Item Empty)} {rest : List Char}
    (apart : item.delimits = true ∨ Pattern.endsWord rest = true) (later : Spells items rest) :
    Spells (item :: items) (spelling ++ rest) := by
  cases written with
  | opening shape =>
    rw [← lexemeItem_opening shape]
    exact .token (.bracket (.inl shape)) (by rw [lexemeItem_opening shape]; rfl) later
  | closing shape =>
    rw [← lexemeItem_closing shape]
    exact .token (.bracket (.inr shape)) (by rw [lexemeItem_closing shape]; rfl) later
  | symbol name =>
    cases apart with
    | inl touching => cases touching
    | inr ends => exact Spelled.of_name readable items rest ends later
  | literal value =>
    cases apart with
    | inl touching =>
      obtain ⟨text, rfl⟩ := exists_string_of_delimits touching
      exact .string text later
    | inr ends =>
      have spelled : Spelled value.spelling [.token (.literal value)] := .of_literal readable
      exact spelled items rest ends later

end Item.WrittenAs

namespace Layout

variable {items : List (Item Empty)} {text : List Char}

theorem endsWord (layout : Layout items text)
    (delimited : ∀ next ∈ items.head?, next.delimits = true) : Pattern.endsWord text = true := by
  cases layout with
  | finish blank =>
    rw [← List.append_nil text]
    exact blank.endsWord rfl
  | item blanks blank written apart later =>
    exact blank.endsWord (written.endsWord (delimited _ rfl) _)

theorem spells (layout : Layout items text) (readable : ∀ item ∈ items, item.Readable) :
    Spells items text := by
  induction layout with
  | finish blank =>
    have behind := Spells.blanks blank .finish
    rwa [List.append_nil] at behind
  | item blanks blank written apart later ih =>
    have behind := ih fun other member => readable other (List.mem_cons_of_mem _ member)
    have here := readable _ List.mem_cons_self
    apply Spells.blanks blank
    apply written.spells here ?_ behind
    rcases apart with touching | next | ⟨c, first, space⟩
    · exact .inl touching
    · exact .inr (later.endsWord next)
    · right
      obtain ⟨text, rfl⟩ := List.head?_eq_some_iff.1 first
      simp [isTerminator, space]

end Layout

/-- Trees whose leaves have spellings are read from any layout of their tokens, by both lexers. -/
theorem parse_layout {σ : Type} [CharSource σ] (kind : LexerKind) (source : σ) (nodes : List Node)
    (readable : Tree.AllReadable nodes)
    (layout : Layout (Tree.itemLists nodes).flatten (CharSource.drain source)) :
    parse kind source = nodes.map .tree := by
  have spells := layout.spells (Tree.readable_itemLists nodes readable)
  rw [← Lexer.ahead_start kind source] at spells
  exact Form.all_trees nodes (Lexer.items_of_spells spells)

def seven : Literal := .number ⟨7, by decide, by decide⟩

def touchingNodes : List Node :=
  [.list [.symbol "a", .literal (.string "b)"), .literal (.character '(')], .literal seven]

def touchingText : List Char := "\t[a\"b)\"#\\()\n 7".toList

theorem layout_touchingText : Layout (Tree.itemLists touchingNodes).flatten touchingText := by
  have items : (Tree.itemLists touchingNodes).flatten = [.token .opening,
      .token (.identifier "a"), .token (.literal (.string "b)")),
      .token (.literal (.character '(')), .token .closing, .token (.literal seven)] := rfl
  have pieces : touchingText = ['\t'] ++ (['['] ++ ([] ++ ("a".toList ++
      ([] ++ ((Literal.string "b)").spelling ++ ([] ++ ((Literal.character '(').spelling ++
      ([] ++ ([')'] ++ (['\n', ' '] ++ (seven.spelling ++ []))))))))))) := by decide
  have bare : IsBlank [] := nofun
  rw [items, pieces]
  apply Layout.item _ (by simp [IsBlank, isSpace]) (.opening rfl) (.inl rfl)
  apply Layout.item _ bare (.symbol "a") (.inr (.inl (by simp [Item.delimits])))
  apply Layout.item _ bare (.literal (.string "b)")) (.inl rfl)
  apply Layout.item _ bare (.literal (.character '(')) (.inr (.inl (by simp [Item.delimits])))
  apply Layout.item _ bare (.closing rfl) (.inl rfl)
  apply Layout.item _ (by simp [IsBlank, isSpace]) (.literal seven) (.inr (.inl (by simp)))
  exact .finish bare

theorem parse_touchingText : parse .lookahead touchingText = touchingNodes.map .tree := by
  apply parse_layout .lookahead touchingText touchingNodes
  · have name : IsName "a" := by decide
    simp [touchingNodes, seven, Tree.AllReadable, Tree.Readable, Literal.Readable, name]
  · rw [Text.drain_list]
    exact layout_touchingText

end SchemeReader
