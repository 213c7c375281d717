import SchemeReader.Proofs.Lexer.Draw
import SchemeReader.Proofs.Parser
import SchemeReader.Proofs.Token.Spelled
import SchemeReader.Reading
import SchemeReader.Tree.Spelling

set_option autoImplicit false

namespace SchemeReader

open Text (CharSource)
open TokenSource (items)

mutual

def Tree.Readable : Node → Prop
  | .symbol name => IsName name
  | .literal value => value.Readable
  | .list nodes => Tree.AllReadable nodes
  | .foreign value => nomatch value

def Tree.AllReadable : List Node → Prop
  | [] => True
  | node :: rest => node.Readable ∧ Tree.AllReadable rest

end

mutual

theorem Tree.spelled (node : Node) (readable : node.Readable) :
    Spelled node.spelling node.items := by
  match node with
  | .symbol name => exact .of_name readable
  | .literal value => exact .of_literal readable
  | .list nodes => exact .parenthesized (Tree.all_spelled nodes readable)
  | .foreign value => exact nomatch value

theorem Tree.all_spelled (nodes : List Node) (readable : Tree.AllReadable nodes) :
    List.Forall₂ Spelled (Tree.spellings nodes) (Tree.itemLists nodes) := by
  match nodes with
  | [] => exact .nil
  | node :: rest =>
    exact .cons (Tree.spelled node readable.1) (Tree.all_spelled rest readable.2)

end

theorem Spells.not_unreadable {made : List (Item Empty)} {text : List Char}
    (spells : Spells made text) (visible : ∀ c ∈ text.head?, isSpace c = false) :
    ¬ Unreadable text := by
  intro unreadable
  cases spells with
  | finish =>
    obtain ⟨c, rest, whole⟩ := unreadable.exists_head
    cases whole
  | blank space => simp [visible _ rfl] at space
  | token lexeme accepted => simp [unreadable.isUnmatched lexeme] at accepted

section

variable {σ : Type} [CharSource σ]

theorem Lexer.items_of_spells {lexer : Lexer σ} {made : List (Item Empty)}
    (spells : Spells made lexer.ahead) : items lexer = made := by
  fun_induction items lexer generalizing made with
  | case1 lexer rest drawn =>
    have nothing := (take_of_draw drawn).ended_iff.1 rfl
    have visible := spells.visible
    rw [nothing] at visible
    exact visible.of_nil.symm
  | case2 lexer item rest drawn ih =>
    have visible := spells.visible
    rcases (take_of_draw drawn).outcome with ⟨_, missing, _⟩ |
        ⟨spelling, lexeme, whole, same, _⟩ | ⟨unreadable, _⟩
    next => simp at missing
    next =>
      cases same
      rw [whole] at visible
      obtain ⟨later, rfl, behind⟩ := visible.of_lexeme lexeme
      rw [ih behind]
    next => exact absurd unreadable (visible.not_unreadable (visible_dropWhile lexer.ahead))

theorem parse_spellings (kind : LexerKind) {source : σ} {nodes : List Node}
    (readable : Tree.AllReadable nodes)
    (text : CharSource.drain source = ['\n'].intercalate (Tree.spellings nodes)) :
    parse kind source = nodes.map .tree := by
  have spelled := Spelled.intercalate (by decide : isSpace '\n' = true)
    (Tree.all_spelled nodes readable) [] [] rfl .finish
  simp only [List.append_nil] at spelled
  rw [← text, ← Lexer.ahead_start kind source] at spelled
  exact Form.all_trees nodes (Lexer.items_of_spells spelled)

end

theorem Reading.ofForms_trees {α : Type} (trees : List (Tree α)) :
    Reading.ofForms (trees.map .tree) = { forms := trees.map .ok, fault := none } := by
  induction trees with
  | nil => rfl
  | cons tree rest ih => simp [Reading.ofForms, ih]

end SchemeReader
