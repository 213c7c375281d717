import SchemeReader.Proofs.Lexer.Draw
import SchemeReader.Proofs.Token.Stream

set_option autoImplicit false

namespace SchemeReader

open Text (CharSource)
open TokenSource (items items_of_end items_of_item)

namespace Item

variable {α : Type}

def Agrees (first second : Item α) : Prop :=
  first = second ∨ first.isUnmatched = true ∧ second.isUnmatched = true

def throughUnmatched : List (Item α) → List (Item α)
  | [] => []
  | item :: later => if item.isUnmatched then [item] else item :: throughUnmatched later

end Item

namespace Take

variable {kind other : LexerKind} {text rest rest' : List Char}
variable {item item' : Option (Item Empty)}

theorem agree {found found' : Item Empty} (taken : Take kind text (some found) rest)
    (taken' : Take other text (some found') rest') :
    (found = found' ∧ rest = rest' ∧ found.isUnmatched = false) ∨
      (found.isUnmatched = true ∧ found'.isUnmatched = true) := by
  rcases taken.outcome with ⟨_, missing, _⟩ | ⟨spelling, lexeme, rfl, same, accepted⟩ |
      ⟨unreadable, cause, shown, same, _⟩
  · simp at missing
  · cases same
    rcases taken'.outcome with ⟨_, missing, _⟩ | ⟨spelling', lexeme', whole, same, _⟩ |
        ⟨unreadable, _⟩
    · simp at missing
    · cases same
      obtain ⟨rfl, rfl⟩ := lexeme.unique lexeme' whole
      exact .inl ⟨rfl, rfl, accepted⟩
    · rw [unreadable.isUnmatched lexeme] at accepted
      cases accepted
  · cases same
    rcases taken'.outcome with ⟨_, missing, _⟩ | ⟨spelling, lexeme, rfl, same, accepted⟩ |
        ⟨_, cause', shown', same, _⟩
    · simp at missing
    · rw [unreadable.isUnmatched lexeme] at accepted
      cases accepted
    · cases same
      exact .inr ⟨rfl, rfl⟩

theorem rest_of_unmatched {found : Item Empty} (taken : Take .lookahead text (some found) rest)
    (unmatched : found.isUnmatched = true) : rest = [] := by
  cases taken with
  | token lexeme accepted => simp [accepted] at unmatched
  | refused => rfl
  | misnamed pattern => cases pattern

end Take

namespace Lexer

variable {σ ρ : Type} [CharSource σ] [CharSource ρ]

theorem items_of_ahead_nil {lexer : Lexer σ} (ended : lexer.ahead = []) : items lexer = [] := by
  cases drawn : TokenSource.draw lexer with
  | mk item rest =>
    have taken := take_of_draw drawn
    rw [ended] at taken
    obtain ⟨rfl, _⟩ := taken.at_end
    exact items_of_end drawn

theorem items_agree {first : Lexer σ} {second : Lexer ρ} (streaming : first.kind = .lookahead)
    (level : first.ahead = second.ahead) :
    List.Forall₂ Item.Agrees (items first) (Item.throughUnmatched (items second)) := by
  fun_induction items first generalizing second with
  | case1 first rest drawn =>
    have taken := take_of_draw drawn
    cases drawn' : TokenSource.draw second with
    | mk item rest' =>
      have taken' := take_of_draw drawn'
      rw [← level] at taken'
      have missing := taken'.ended_iff.2 (taken.ended_iff.1 rfl)
      subst missing
      rw [items_of_end drawn']
      exact .nil
  | case2 first found rest drawn ih =>
    have taken := take_of_draw drawn
    have streaming' : rest.kind = .lookahead := (kind_of_draw drawn).trans streaming
    cases drawn' : TokenSource.draw second with
    | mk item rest' =>
      have taken' := take_of_draw drawn'
      rw [← level] at taken'
      cases item with
      | none =>
        have missing := taken.ended_iff.2 (taken'.ended_iff.1 rfl)
        simp at missing
      | some found' =>
        rw [items_of_item drawn', Item.throughUnmatched]
        rcases taken.agree taken' with ⟨rfl, level', accepted⟩ | ⟨unmatched, unmatched'⟩
        · simp only [accepted]
          exact .cons (.inl rfl) (ih streaming' level')
        · -- The streaming lexer has given up its source, so nothing comes behind.
          rw [streaming] at taken
          rw [if_pos unmatched', items_of_ahead_nil (taken.rest_of_unmatched unmatched)]
          exact .cons (.inr ⟨unmatched, unmatched'⟩) .nil

/-- The streaming lexer hands out what the pattern lexer does up to its first unmatched text. -/
theorem lookahead_agrees_pattern (source : σ) :
    List.Forall₂ Item.Agrees (items (start .lookahead source))
      (Item.throughUnmatched (items (start .pattern source))) :=
  items_agree (kind_start _ source) (by simp only [ahead_start])

end Lexer

end SchemeReader
