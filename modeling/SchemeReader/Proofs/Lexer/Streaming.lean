import SchemeReader.Proofs.Lexer.Overlong
import SchemeReader.Proofs.Lexer.Reach
import SchemeReader.Proofs.Lexer.Sight

set_option autoImplicit false

namespace SchemeReader

open Text (CharSource Watched)
open Text.CharSource (Settled)
open TokenSource (after answer items items_of_end items_of_item)

namespace Cursor

variable {σ ρ : Type} [CharSource σ] [CharSource ρ]

theorem draw_of_peek_none {cursor : Cursor σ} (ended : cursor.peek = none) :
    cursor.draw = (none, cursor) := by
  have still : cursor.skipSpace = cursor := by
    rw [skipSpace, takeWhile.eq_def]
    split <;> simp_all
  rw [draw, still, take, ended]

theorem after_of_peek_none {cursor : Cursor σ} (ended : cursor.peek = none) (count : Nat) :
    after cursor count = cursor := by
  have drawn : TokenSource.draw cursor = (none, cursor) := draw_of_peek_none ended
  induction count with
  | zero => rfl
  | succ count ih => rwa [after, drawn]

theorem answer_of_peek_none {cursor : Cursor σ} (ended : cursor.peek = none) (count : Nat) :
    answer cursor count = none := by
  have drawn : TokenSource.draw cursor = (none, cursor) := draw_of_peek_none ended
  rw [answer, after_of_peek_none ended, drawn]

theorem isSome_source_reach {cursor : Cursor σ} (going : cursor.source.isSome = true) :
    cursor.reach.source.isSome = true :=
  reach_keeps (P := fun cursor => cursor.source.isSome = true)
    (fun _ => isSome_source_advance) going

theorem taken_draw (cursor : Cursor σ) : cursor.draw.2.taken = cursor.reach.taken := by
  rw [draw_snd, closeIf]
  split <;> rfl

theorem taken_le_after (cursor : Cursor σ) (count : Nat) :
    cursor.taken ≤ (after cursor count).taken := by
  induction count generalizing cursor with
  | zero => exact Nat.le_refl _
  | succ count ih =>
    have reached : cursor.taken ≤ cursor.reach.taken := by
      apply reach_keeps (P := fun later => cursor.taken ≤ later.taken)
      · intro later above
        exact Nat.le_trans above later.taken_le_advance
      · exact Nat.le_refl _
    rw [← taken_draw] at reached
    exact Nat.le_trans reached (ih cursor.draw.2)

-- Two draws with the same answer close both cursors, or leave both at the places they got to.
theorem draw_both {first : Cursor σ} {second : Cursor ρ} (same : first.draw.1 = second.draw.1) :
    (first.draw.2 = first.reach.close ∧ second.draw.2 = second.reach.close) ∨
      (first.draw.2 = first.reach ∧ second.draw.2 = second.reach) := by
  rw [draw_snd, draw_snd, same]
  cases second.draw.1.any Item.isUnmatched with
  | true => exact .inl ⟨rfl, rfl⟩
  | false => exact .inr ⟨rfl, rfl⟩

namespace Counts

variable [Settled σ] [Settled ρ] {total offset : Nat}

theorem taken_reach {cursor : Cursor σ} (counts : cursor.Counts total)
    (going : cursor.source.isSome = true) (level : offset + cursor.ahead.length = total) :
    ∃ passed, cursor.ahead = passed ++ cursor.reach.ahead ∧
      Pass passed cursor.draw.1 cursor.reach.ahead ∧
      offset + passed.length + cursor.reach.ahead.length = total ∧
      cursor.reach.taken = min (offset + passed.length + 1) total := by
  obtain ⟨passed, whole, pass⟩ := counts.pass
  have reached : offset + passed.length + cursor.reach.ahead.length = total := by
    rw [whole, List.length_append] at level
    omega
  exact ⟨passed, whole, pass, reached,
    counts.reach.taken_eq (isSome_source_reach going) reached⟩

theorem ends_after {cursor : Cursor σ} (counts : cursor.Counts total)
    (going : cursor.source.isSome = true) (level : offset + cursor.ahead.length = total)
    {count : Nat} (within : count ≤ (items cursor).length) :
    ∃ passed, Ends cursor.ahead count passed ∧
      (after cursor count).taken = min (offset + passed + 1) total ∧
      ((∀ item ∈ (items cursor).take count, item.isUnmatched = false) →
        passed + (after cursor count).ahead.length = cursor.ahead.length) := by
  induction count generalizing cursor offset with
  | zero => exact ⟨0, .start _, counts.taken_eq going level, fun _ => Nat.zero_add _⟩
  | succ count ih =>
    obtain ⟨passed, whole, pass, reached, taken⟩ := counts.taken_reach going level
    cases drawn : TokenSource.draw cursor with
    | mk item rest =>
      have left := cursor.draw_snd
      have both : cursor.draw = (item, rest) := drawn
      have later : after cursor (count + 1) = after rest count := by rw [after, drawn]
      rw [both] at pass left
      cases item with
      | none => simp [items_of_end drawn] at within
      | some item =>
        rw [items_of_item drawn, List.length_cons] at within
        rw [items_of_item drawn, later, whole]
        rw [Option.any_some] at left
        cases refused : item.isUnmatched with
        | true =>
          -- The cursor is closed, so no item comes behind this one.
          rw [refused] at left
          have closed : rest = cursor.reach.close := left
          have nothing : items rest = [] := by
            rw [closed]
            exact items_of_end (draw_of_peek_none rfl)
          obtain rfl : count = 0 := by simpa [nothing] using within
          refine ⟨passed.length + 0, .item pass (.inr rfl) (.start _), ?_, ?_⟩
          · rw [closed]
            exact taken
          · intro accepted
            cases refused.symm.trans (accepted item (by simp))
        | false =>
          rw [refused] at left
          obtain rfl : rest = cursor.reach := left
          obtain ⟨further, ends, position, lengths⟩ :=
            ih counts.reach (isSome_source_reach going) reached (by omega)
          refine ⟨passed.length + further, .item pass (.inl refused) ends, ?_, ?_⟩
          · rw [position, Nat.add_assoc offset]
          · intro accepted
            have left := lengths fun item member => accepted item (List.mem_cons_of_mem _ member)
            rw [List.length_append, ← left, Nat.add_assoc]

theorem taken_after {first : Cursor σ} {second : Cursor ρ} (counts : first.Counts total)
    (counts' : second.Counts total) (going : first.source.isSome = true)
    (going' : second.source.isSome = true) (same : first.ahead = second.ahead)
    (level : offset + first.ahead.length = total) (count : Nat) :
    (after first count).taken = (after second count).taken := by
  have level' : offset + second.ahead.length = total := by rw [← same, level]
  induction count generalizing first second offset with
  | zero => exact (counts.taken_eq going level).trans (counts'.taken_eq going' level').symm
  | succ count ih =>
    obtain ⟨passed, whole, pass, reached, taken⟩ := counts.taken_reach going level
    obtain ⟨passed', whole', pass', reached', taken'⟩ := counts'.taken_reach going' level'
    obtain ⟨rfl, item, behind⟩ := pass.unique pass' (by rw [← whole, ← whole', same])
    change (after first.draw.2 count).taken = (after second.draw.2 count).taken
    rcases draw_both item with ⟨closed, closed'⟩ | ⟨left, left'⟩
    · rw [closed, closed', after_of_peek_none rfl, after_of_peek_none rfl]
      exact taken.trans taken'.symm
    · rw [left, left']
      exact ih counts.reach counts'.reach (isSome_source_reach going)
        (isSome_source_reach going') behind reached reached'

end Counts

theorem exists_of_take_eq {passed rest text : List Char} {budget : Nat}
    (same : (passed ++ rest).take (passed.length + budget) = text.take (passed.length + budget)) :
    ∃ rest', text = passed ++ rest' ∧ rest.take budget = rest'.take budget := by
  refine ⟨text.drop passed.length, ?_, ?_⟩
  · have start := congrArg (List.take passed.length) same
    simp only [List.take_take, Nat.min_eq_left (Nat.le_add_right _ _), List.take_left'] at start
    have whole := List.take_append_drop passed.length text
    rw [← start] at whole
    exact whole.symm
  · have behind := congrArg (List.drop passed.length) same
    simpa [List.drop_take] using behind

theorem Counts.draw_of_shared [Settled σ] {cursor : Cursor σ} {total further : Nat}
    {passed rest : List Char} {c : Char} {item : Option (Item Empty)} (counts : cursor.Counts total)
    (pass : Pass passed item (c :: rest))
    (same : (passed ++ c :: rest).take (passed.length + (further + 1)) =
      cursor.ahead.take (passed.length + (further + 1))) :
    cursor.draw.1 = item ∧
      (c :: rest).take (further + 1) = cursor.reach.ahead.take (further + 1) := by
  obtain ⟨text, whole, level⟩ := exists_of_take_eq same
  obtain ⟨rest', rfl⟩ : ∃ rest', text = c :: rest' := by
    cases text with
    | nil => simp at level
    | cons d rest' =>
      simp only [List.take_succ_cons, List.cons.injEq] at level
      exact ⟨rest', by rw [level.1]⟩
  obtain ⟨passed', split, pass'⟩ := counts.pass
  obtain ⟨_, item, behind⟩ := pass.of_head.unique pass' (by rw [← whole, split])
  exact ⟨item.symm, by rw [level, behind]⟩

theorem answer_of_shared [Settled σ] [Settled ρ] {first : Cursor σ} {second : Cursor ρ}
    {total total' offset shared : Nat} (counts : first.Counts total)
    (counts' : second.Counts total') (going : first.source.isSome = true)
    (level : offset + first.ahead.length = total)
    (same : first.ahead.take shared = second.ahead.take shared) {draws : Nat}
    (bound : (after first draws).taken ≤ offset + shared)
    (more : ∀ count < draws, (after first count).source.isSome = true →
      (after first count).reach.ahead ≠ []) :
    ∀ count < draws, answer second count = answer first count := by
  induction draws generalizing first second offset shared with
  | zero => nofun
  | succ draws ih =>
    obtain ⟨passed, whole, pass, reached, taken⟩ := counts.taken_reach going level
    have unended : first.reach.ahead ≠ [] := more 0 (by omega) going
    obtain ⟨c, rest, behind⟩ := List.exists_cons_of_ne_nil unended
    -- What the first cursor has taken is shared: all that it passes and one character more.
    obtain ⟨further, rfl⟩ : ∃ further, shared = passed.length + (further + 1) := by
      have later : first.reach.taken ≤ (after first (draws + 1)).taken := by
        rw [← taken_draw]
        exact taken_le_after first.draw.2 draws
      rw [behind, List.length_cons] at reached
      exact ⟨shared - passed.length - 1, by omega⟩
    rw [whole, behind] at same
    rw [behind] at pass
    obtain ⟨item, level'⟩ := counts'.draw_of_shared pass same
    rw [← behind] at level'
    intro count within
    cases count with
    | zero => exact item
    | succ count =>
      change answer second.draw.2 count = answer first.draw.2 count
      rcases draw_both item.symm with ⟨closed, closed'⟩ | ⟨left, left'⟩
      · rw [closed, closed', answer_of_peek_none rfl, answer_of_peek_none rfl]
      · have moved (later : Nat) : after first (later + 1) = after first.reach later := by
          rw [← left]
          rfl
        have bound' : (after first.reach draws).taken ≤ offset + passed.length + (further + 1) := by
          rw [← moved]
          omega
        have more' : ∀ count < draws, (after first.reach count).source.isSome = true →
            (after first.reach count).reach.ahead ≠ [] := by
          intro count within
          rw [← moved]
          exact more (count + 1) (by omega)
        rw [left, left']
        exact ih counts.reach counts'.reach (isSome_source_reach going) reached level' bound' more'
          count (by omega)

def Refused (cursor : Cursor (Watched σ)) : Prop :=
  cursor.peek = none → ∀ watched ∈ cursor.source, watched.asked = true

theorem refused_fetch (watched : Watched σ) (taken : Nat) : Refused (fetch watched taken) := by
  cases drawn : CharSource.next watched.source with
  | mk c rest =>
    have next := watched.next_eq drawn
    unfold fetch
    rw [next]
    cases c with
    | none =>
      intro _ later found
      cases found
      exact Bool.or_true _
    | some c => nofun

theorem refused_advance (cursor : Cursor (Watched σ)) : cursor.advance.Refused := by
  unfold advance
  split
  next given_up =>
    intro _ watched found
    rw [given_up] at found
    cases found
  next watched found => exact refused_fetch watched cursor.taken

theorem Refused.reach {cursor : Cursor (Watched σ)} (refused : cursor.Refused) :
    cursor.reach.Refused :=
  reach_keeps (P := Refused) (fun cursor _ => refused_advance cursor) refused

theorem Refused.draw {cursor : Cursor (Watched σ)} (refused : cursor.Refused) :
    cursor.draw.2.Refused := by
  rw [draw_snd]
  cases cursor.draw.1.any Item.isUnmatched with
  | true => nofun
  | false => exact refused.reach

theorem Refused.after {cursor : Cursor (Watched σ)} (refused : cursor.Refused) (count : Nat) :
    (after cursor count).Refused := by
  induction count generalizing cursor with
  | zero => exact refused
  | succ count ih => exact ih refused.draw

def AsksPastEnd (source : σ) (draws : Nat) : Prop :=
  ∃ count < draws, ∃ watched ∈ (after (start (Watched.start source)) count).reach.source,
    watched.asked = true

@[simp] theorem ahead_start (source : σ) : (start source).ahead = CharSource.drain source :=
  ahead_fetch source 0

theorem counts_start [Settled σ] (source : σ) :
    (start source).Counts (CharSource.drain source).length := by
  have fetched := counts_fetch source 0
  rwa [Nat.zero_add] at fetched

theorem isSome_source_start (source : σ) : (start source).source.isSome = true := by
  unfold start fetch
  split <;> rfl

theorem ahead_reach_ne_nil {source : σ} {draws : Nat} (unasked : ¬ AsksPastEnd source draws) :
    ∀ count < draws, (after (start (Watched.start source)) count).source.isSome = true →
      (after (start (Watched.start source)) count).reach.ahead ≠ [] := by
  intro count within going nothing
  have refused := (refused_fetch (Watched.start source) 0).after count
  obtain ⟨watched, found⟩ := Option.isSome_iff_exists.1 (isSome_source_reach going)
  have asked := refused.reach (peek_of_ahead_nil nothing) watched found
  exact unasked ⟨count, within, watched, found, asked⟩

end Cursor

namespace PatternLexer

theorem position_pass {lexer : PatternLexer} {found : Pattern.Match}
    (whole : found.1 ++ found.2 = lexer.rest) :
    (lexer.pass found).position + (lexer.pass found).rest.length =
      lexer.position + lexer.rest.length := by
  rw [← whole, pass, List.length_append, Nat.add_assoc]

theorem position_take (lexer : PatternLexer) :
    lexer.take.2.position + lexer.take.2.rest.length = lexer.position + lexer.rest.length := by
  unfold take
  split
  next => rfl
  next c rest here =>
    split
    · exact position_pass here.symm
    · split
      · exact position_pass here.symm
      · split
        next found shape =>
          have splits := (Pattern.spelling_splits shape).1
          exact position_pass (splits.trans here.symm)
        next => exact position_pass (List.append_nil _)

theorem position_draw (lexer : PatternLexer) :
    lexer.draw.2.position + lexer.draw.2.rest.length = lexer.position + lexer.rest.length := by
  have skipped : lexer.skipSpace.position + lexer.skipSpace.rest.length =
      lexer.position + lexer.rest.length :=
    position_pass List.takeWhile_append_dropWhile
  exact (position_take lexer.skipSpace).trans skipped

end PatternLexer

namespace Lexer

variable {σ ρ : Type} [CharSource σ] [CharSource ρ]

theorem after_lookahead (cursor : Cursor σ) (count : Nat) :
    after (Lexer.lookahead cursor) count = .lookahead (after cursor count) := by
  induction count generalizing cursor with
  | zero => rfl
  | succ count ih => exact ih cursor.draw.2

theorem answer_lookahead (cursor : Cursor σ) (count : Nat) :
    answer (Lexer.lookahead cursor) count = answer cursor count := by
  rw [answer, after_lookahead]
  rfl

theorem items_lookahead (cursor : Cursor σ) : items (Lexer.lookahead cursor) = items cursor := by
  fun_induction items cursor with
  | case1 cursor rest ended =>
    have drawn : cursor.draw = (none, rest) := ended
    have both : TokenSource.draw (Lexer.lookahead cursor) = (none, .lookahead rest) := by
      simp [TokenSource.draw, draw, drawn]
    exact items_of_end both
  | case2 cursor item rest drawn ih =>
    have first : cursor.draw = (some item, rest) := drawn
    have both : TokenSource.draw (Lexer.lookahead cursor) = (some item, .lookahead rest) := by
      simp [TokenSource.draw, draw, first]
    rw [items_of_item both, ih]

theorem position_after_pattern (source : σ) (count : Nat) :
    (after (start .pattern source) count).position +
      (after (start .pattern source) count).ahead.length = (CharSource.drain source).length := by
  have counted (lexer : PatternLexer) : (after (Lexer.pattern lexer : Lexer σ) count).position +
      (after (Lexer.pattern lexer : Lexer σ) count).ahead.length =
        lexer.position + lexer.rest.length := by
    induction count generalizing lexer with
    | zero => rfl
    | succ count ih => exact (ih lexer.draw.2).trans lexer.position_draw
  exact (counted (.start (CharSource.drain source))).trans (Nat.zero_add _)

theorem ahead_after {first : Lexer σ} {second : Lexer ρ} (level : first.ahead = second.ahead)
    {count : Nat} (within : count ≤ (items first).length)
    (accepted : ∀ item ∈ (items first).take count, item.isUnmatched = false) :
    (after first count).ahead = (after second count).ahead := by
  induction count generalizing first second with
  | zero => exact level
  | succ count ih =>
    cases drawn : TokenSource.draw first with
    | mk item rest =>
      cases drawn' : TokenSource.draw second with
      | mk item' rest' =>
        have taken := take_of_draw drawn
        have taken' := take_of_draw drawn'
        rw [← level] at taken'
        rw [after, after, drawn, drawn']
        cases item with
        | none => simp [items_of_end drawn] at within
        | some found =>
          rw [items_of_item drawn, List.take_succ_cons] at accepted
          rw [items_of_item drawn, List.length_cons] at within
          have here := accepted found List.mem_cons_self
          cases item' with
          | none => cases taken.ended_iff.2 (taken'.ended_iff.1 rfl)
          | some found' =>
            rcases taken.agree taken' with ⟨_, level', _⟩ | ⟨refused, _⟩
            · exact ih level' (Nat.le_of_succ_le_succ within) fun item member =>
                accepted item (List.mem_cons_of_mem _ member)
            · cases here.symm.trans refused

theorem answer_start_drain (kind : LexerKind) (source : σ) (count : Nat) :
    answer (start kind source) count = answer (start kind (CharSource.drain source)) count := by
  rw [TokenSource.answer_eq_getElem?, TokenSource.answer_eq_getElem?, items_start_drain]

theorem after_unmatched {cursor : Cursor σ} {count later : Nat} {item : Item Empty}
    (given : answer cursor count = some item) (refused : item.isUnmatched = true)
    (behind : count < later) : after cursor later = after cursor (count + 1) := by
  obtain ⟨further, rfl⟩ : ∃ further, later = count + 1 + further := ⟨later - count - 1, by omega⟩
  have left := (after cursor count).draw_snd
  have drawn : (after cursor count).draw.1 = some item := given
  rw [drawn, Option.any_some, refused] at left
  have closed : after cursor (count + 1) = (after cursor count).reach.close := by
    rw [TokenSource.after_add]
    exact left
  rw [TokenSource.after_add, closed]
  exact Cursor.after_of_peek_none rfl further

theorem start_lookahead (source : σ) :
    start .lookahead source = .lookahead (Cursor.start source) :=
  rfl

theorem position_after_lookahead (source : σ) (count : Nat) :
    (after (start .lookahead source) count).position =
      (after (Cursor.start source) count).taken := by
  rw [start_lookahead, after_lookahead]
  rfl

theorem answer_watched (source : σ) (count : Nat) :
    answer (Cursor.start (Watched.start source)) count =
      answer (start .lookahead source) count := by
  calc
    answer (Cursor.start (Watched.start source)) count
      = answer (start .lookahead (Watched.start source)) count := (answer_lookahead _ count).symm
    _ = answer (start .lookahead (CharSource.drain (Watched.start source))) count :=
      answer_start_drain .lookahead _ count
    _ = answer (start .lookahead (CharSource.drain source)) count := by
      rw [Watched.drain_eq]
      rfl
    _ = answer (start .lookahead source) count := (answer_start_drain .lookahead source count).symm

section

variable [Settled σ] (source : σ)

theorem exists_ends_after {count : Nat}
    (within : count ≤ (items (start .lookahead source)).length) :
    ∃ offset, Ends (CharSource.drain source) count offset ∧
      (after (start .lookahead source) count).position =
        min (offset + 1) (CharSource.drain source).length ∧
      ((∀ item ∈ (items (start .lookahead source)).take count, item.isUnmatched = false) →
        (after (start .pattern source) count).position = offset) := by
  have counts := Cursor.counts_start source
  have going := Cursor.isSome_source_start source
  have text := Cursor.ahead_start source
  have level : 0 + (Cursor.start source).ahead.length = (CharSource.drain source).length := by
    rw [text, Nat.zero_add]
  have visible : (start .lookahead source).ahead = (start .pattern source).ahead := by
    rw [ahead_start, ahead_start]
  have place := ahead_after visible within
  rw [start_lookahead, items_lookahead] at within place ⊢
  obtain ⟨offset, ends, taken, lengths⟩ := counts.ends_after going level within
  rw [text] at ends lengths
  rw [Nat.zero_add] at taken
  refine ⟨offset, ends, (position_after_lookahead source count).trans taken, ?_⟩
  intro accepted
  have counted := position_after_pattern source count
  have left := lengths accepted
  rw [← place accepted, after_lookahead] at counted
  exact Nat.add_right_cancel (counted.trans left.symm)

theorem answer_eq_of_shared {ρ : Type} [CharSource ρ] (other : ρ) {shared draws : Nat}
    (same : (CharSource.drain source).take shared = (CharSource.drain other).take shared)
    (bound : (after (start .lookahead source) draws).position ≤ shared)
    (unasked : ¬ Cursor.AsksPastEnd source draws) :
    ∀ count < draws,
      answer (start .lookahead other) count = answer (start .lookahead source) count := by
  have counts := Cursor.counts_start source
  have going := Cursor.isSome_source_start source
  have watched := Cursor.counts_start (Watched.start source)
  have going' := Cursor.isSome_source_start (Watched.start source)
  have listed := Cursor.counts_start (CharSource.drain other)
  have text := Cursor.ahead_start source
  have text' : (Cursor.start (Watched.start source)).ahead = CharSource.drain source :=
    (Cursor.ahead_start _).trans (Watched.drain_eq _)
  have text'' : (Cursor.start (CharSource.drain other)).ahead = CharSource.drain other :=
    (Cursor.ahead_start _).trans (Text.drain_list _)
  rw [Watched.drain_eq] at watched
  have level : 0 + (Cursor.start (Watched.start source)).ahead.length =
      (CharSource.drain source).length := by
    rw [text', Nat.zero_add]
  have taken := watched.taken_after counts going' going (text'.trans text.symm) level draws
  rw [position_after_lookahead, ← taken] at bound
  intro count within
  have given := Cursor.answer_of_shared watched listed going' level (by rw [text', text'', same])
    (bound.trans (Nat.le_add_left shared 0)) (Cursor.ahead_reach_ne_nil unasked) count within
  rw [answer_watched, ← answer_lookahead, ← start_lookahead, ← answer_start_drain] at given
  exact given

/-- The streaming lexer has taken one character behind the last item, if there is one, so its
answers are the same for all sources that begin with what it has taken. -/
theorem reads_one_ahead :
    let text := CharSource.drain source
    let lexer := start .lookahead source
    (∀ count ≤ (items lexer).length, ∃ offset,
      (∀ other, Ends text count other ↔ other = offset) ∧
      (after lexer count).position = min (offset + 1) text.length ∧
      ((∀ item ∈ (items lexer).take count, item.isUnmatched = false) →
        (after (start .pattern source) count).position = offset)) ∧
    (∀ count later item, answer lexer count = some item → item.isUnmatched = true →
      count < later → (after lexer later).position = (after lexer (count + 1)).position) ∧
    ∀ (ρ : Type) [CharSource ρ] (other : ρ) (shared draws : Nat),
      text.take shared = (CharSource.drain other).take shared →
      (after lexer draws).position ≤ shared →
      ¬ Cursor.AsksPastEnd source draws →
      ∀ count < draws, answer (start .lookahead other) count = answer lexer count := by
  intro text lexer
  refine ⟨?_, ?_, ?_⟩
  · intro count within
    obtain ⟨offset, ends, position, level⟩ := exists_ends_after source within
    refine ⟨offset, fun other => ⟨?_, ?_⟩, position, level⟩
    · intro ends'
      exact ends'.unique ends
    · rintro rfl
      exact ends
  · intro count later item given refused behind
    have answered := (answer_lookahead _ count).symm.trans given
    rw [position_after_lookahead, position_after_lookahead,
      after_unmatched answered refused behind]
  · intro ρ _ other shared draws same bound unasked
    exact answer_eq_of_shared source other same bound unasked

end

-- The two lines are the same through the blank behind the first name.
def openLine : List Char := "(a b".toList

def closedLine : List Char := "(a )".toList

theorem reads_one_ahead_openLine :
    (after (start .lookahead openLine) 2).position = 3 ∧
      ∀ count < 2,
        answer (start .lookahead closedLine) count = answer (start .lookahead openLine) count := by
  obtain ⟨_, _, agree⟩ := reads_one_ahead openLine
  have position : (after (start .lookahead openLine) 2).position = 3 := by decide +kernel
  refine ⟨position, agree (List Char) closedLine 3 2 ?_ (Nat.le_of_eq position) ?_⟩
  · rw [Text.drain_list, Text.drain_list]
    decide
  · have unasked : ∀ count < 2,
        (after (Cursor.start (Watched.start openLine)) count).reach.source.all (!·.asked) = true :=
      by decide +kernel
    rintro ⟨count, within, watched, found, asked⟩
    have here := unasked count within
    simp [Option.mem_def.1 found, asked] at here

end Lexer

end SchemeReader
