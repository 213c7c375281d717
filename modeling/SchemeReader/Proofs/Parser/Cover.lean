import SchemeReader.Proofs.Parser.Balance

set_option autoImplicit false

namespace SchemeReader

open TokenSource (items items_of_end items_of_item draw_of_items_nil)

variable {τ α : Type}

-- Only a tree is all there; an error cuts off what it finds open.
inductive Accounts : Form α → List (Item α) → Prop
  | tree (made : Tree α) : Accounts (.tree made) made.items
  | unmatched : Accounts (.error .unmatchedClosing) [.token .closing]
  | failure {run : List (Item α)} (unfinished : Unfinished run) (cause : LexError) :
      Accounts (.error (.lexFailure cause)) (run ++ [.error cause])
  | fault {run : List (Item α)} (unfinished : Unfinished run) (cause : Fault) :
      Accounts (.fault cause) (run ++ [.fault cause])

inductive Covers : List (Form α) → List (List (Item α)) → Prop
  | nil : Covers [] []
  | cut {run : List (Item α)} (unfinished : Unfinished run) (nonempty : run ≠ []) :
      Covers [.error .unexpectedEnd] [run]
  | form {form : Form α} {run : List (Item α)} {forms : List (Form α)}
      {runs : List (List (Item α))} (first : Accounts form run) (later : Covers forms runs) :
      Covers (form :: forms) (run :: runs)

def OpenLists.items : OpenLists α → List (Item α)
  | [] => []
  | made :: outer => OpenLists.items outer ++
      .token .opening :: (Tree.itemLists made.reverse).flatten

namespace OpenLists

theorem unfinished_items (lists : OpenLists α) : Unfinished (OpenLists.items lists) := by
  induction lists with
  | nil => exact .nil
  | cons made outer ih => exact ih.deepen (Tree.balanced_itemLists made.reverse)

theorem items_ne_nil {made : List (Tree α)} {outer : OpenLists α} :
    OpenLists.items (made :: outer) ≠ [] := by
  simp [OpenLists.items]

end OpenLists

theorem Tree.itemLists_append (trees others : List (Tree α)) :
    Tree.itemLists (trees ++ others) = Tree.itemLists trees ++ Tree.itemLists others := by
  induction trees with
  | nil => rfl
  | cons tree rest ih => simp [Tree.itemLists, ih]

namespace Form

-- Where the items of a run are once they are taken: in the open lists, or in the form they ended.
def Accounted (run : List (Item α)) : OpenLists α ⊕ Form α → Prop
  | .inl opened => OpenLists.items opened = run
  | .inr form => Accounts form run

theorem accounted_place (made : Tree α) (lists : OpenLists α) :
    Accounted (OpenLists.items lists ++ made.items) (place made lists) := by
  cases lists with
  | nil => exact .tree made
  | cons trees outer =>
    simp [place, Accounted, OpenLists.items, Tree.itemLists_append, Tree.itemLists]

theorem accounted_push (lists : OpenLists α) (item : Item α) :
    Accounted (OpenLists.items lists ++ [item]) (push lists item) := by
  have unfinished := OpenLists.unfinished_items lists
  match item with
  | .fault cause => exact .fault unfinished cause
  | .error cause => exact .failure unfinished cause
  | .token .opening => simp [push, Accounted, OpenLists.items, Tree.itemLists]
  | .token .closing =>
    cases lists with
    | nil => exact .unmatched
    | cons trees outer =>
      have placed := accounted_place (.list trees.reverse) outer
      simpa [push, OpenLists.items, Tree.items] using placed
  | .token (.identifier name) => exact accounted_place (.symbol name) lists
  | .token (.literal value) => exact accounted_place (.literal value) lists
  | .token (.foreign value) => exact accounted_place (.foreign value) lists

section

variable [TokenSource τ α]

inductive Draws (lists : OpenLists α) (tokens : τ) : Option (Form α) × τ → Prop
  | form (taken : List (Item α)) {form : Form α} {rest : τ}
      (ahead : items tokens = taken ++ items rest)
      (cost : rest = TokenSource.after tokens taken.length)
      (accounts : Accounts form (OpenLists.items lists ++ taken)) :
      Draws lists tokens (some form, rest)
  | finish {opened : OpenLists α} {last rest : τ} (ended : TokenSource.draw last = (none, rest))
      (whole : OpenLists.items opened = OpenLists.items lists ++ items tokens) :
      Draws lists tokens (atEnd opened, rest)

theorem resume_draws (lists : OpenLists α) (tokens : τ) :
    Draws lists tokens (resume lists tokens) := by
  fun_induction resume lists tokens with
  | case1 lists tokens rest ended => exact .finish ended (by simp [items_of_end ended])
  | case2 lists tokens item rest drawn opened pushed ih =>
    have accounted := accounted_push lists item
    rw [pushed] at accounted
    have before : OpenLists.items opened = OpenLists.items lists ++ [item] := accounted
    have ahead := items_of_item drawn
    generalize resume opened rest = result at ih ⊢
    cases ih with
    | form taken behind cost accounts =>
      refine .form (item :: taken) (by rw [ahead, behind]; rfl) ?_ ?_
      · rw [cost, List.length_cons, TokenSource.after, drawn]
      · simpa [before] using accounts
    | finish ended whole => exact .finish ended (by rw [whole, before, ahead]; simp)
  | case3 lists tokens item rest drawn form pushed =>
    have accounted := accounted_push lists item
    rw [pushed] at accounted
    refine .form [item] (items_of_item drawn) ?_ accounted
    rw [List.length_singleton, TokenSource.after, TokenSource.after, drawn]

theorem items_of_draw_none {tokens rest : τ} (drawn : draw tokens = (none, rest)) :
    items tokens = [] := by
  have draws := resume_draws [] tokens
  rw [← draw, drawn] at draws
  generalize result : (none, rest) = pair at draws
  cases draws with
  | form => cases result
  | @finish opened _ _ _ whole =>
    cases opened with
    | nil => exact whole.symm
    | cons => cases result

theorem accounts_of_draw [TokenSource.Settled τ] {tokens rest : τ} {form : Form α}
    (drawn : draw tokens = (some form, rest)) :
    (∃ run, Accounts form run ∧ items tokens = run ++ items rest ∧
        rest = TokenSource.after tokens run.length) ∨
      form = .error .unexpectedEnd ∧ Unfinished (items tokens) ∧ items tokens ≠ [] ∧
        items rest = [] := by
  have draws := resume_draws [] tokens
  rw [← draw, drawn] at draws
  generalize result : (some form, rest) = pair at draws
  cases draws with
  | @form run _ _ ahead cost accounts =>
    cases result
    exact .inl ⟨run, accounts, ahead, cost⟩
  | @finish opened _ _ ended whole =>
    cases opened with
    | nil => cases result
    | cons trees outer =>
      cases result
      have run : OpenLists.items (trees :: outer) = items tokens := whole
      have unfinished := OpenLists.unfinished_items (trees :: outer)
      have nonempty : OpenLists.items (trees :: outer) ≠ [] := OpenLists.items_ne_nil
      rw [run] at unfinished nonempty
      exact .inr ⟨rfl, unfinished, nonempty, TokenSource.Settled.items_after_end ended⟩

theorem push_token (lists : OpenLists α) (token : Token α)
    (pending : 0 < (lists.length : Int) + (Item.token token).step) :
    ∃ opened, push lists (.token token) = .inl opened ∧
      (opened.length : Int) = lists.length + (Item.token token).step := by
  match token, lists with
  | .opening, lists => exact ⟨[] :: lists, rfl, by simp [Item.step]⟩
  | .closing, [] => simp [Item.step] at pending
  | .closing, [_] => simp [Item.step] at pending
  | .closing, trees :: others :: outer =>
    refine ⟨(.list trees.reverse :: others) :: outer, rfl, ?_⟩
    simp only [List.length_cons, Item.step]
    omega
  | .identifier _, [] | .literal _, [] | .foreign _, [] => simp [Item.step] at pending
  | .identifier name, trees :: outer =>
    exact ⟨(.symbol name :: trees) :: outer, rfl, by simp [Item.step]⟩
  | .literal value, trees :: outer =>
    exact ⟨(.literal value :: trees) :: outer, rfl, by simp [Item.step]⟩
  | .foreign value, trees :: outer =>
    exact ⟨(.foreign value :: trees) :: outer, rfl, by simp [Item.step]⟩

theorem resume_tokens {run later : List (Item α)} (lists : OpenLists α) {tokens : τ}
    (ahead : items tokens = run ++ later) (made : ∀ item ∈ run, ∃ token, item = .token token)
    (pending : ∀ start, start <+: run → start ≠ [] → 0 < (lists.length : Int) + level start) :
    ∃ opened rest, items rest = later ∧ (opened.length : Int) = lists.length + level run ∧
      resume lists tokens = resume opened rest := by
  induction run generalizing lists tokens with
  | nil => exact ⟨lists, tokens, ahead, by simp, rfl⟩
  | cons item run ih =>
    obtain ⟨token, rfl⟩ := made item (by simp)
    have here := pending [.token token] (by simp) (by simp)
    rw [level_cons, level_nil, Int.add_zero] at here
    obtain ⟨opened, pushed, deep⟩ := push_token lists token here
    obtain ⟨behind, ahead, resumed⟩ := resume_of_item lists ahead
    rw [pushed] at resumed
    have pending' (start : List (Item α)) (within : start <+: run) (nonempty : start ≠ []) :
        0 < (opened.length : Int) + level start := by
      have above := pending (.token token :: start) (by simpa using within) (by simp)
      rw [level_cons] at above
      omega
    obtain ⟨final, rest, ahead, deepest, later⟩ :=
      ih opened ahead (fun item member => made item (by simp [member])) pending'
    refine ⟨final, rest, ahead, ?_, resumed.trans later⟩
    rw [deepest, deep, level_cons]
    omega

theorem resume_unfinished {run later : List (Item α)} {tokens : τ} (unfinished : Unfinished run)
    (ahead : items tokens = run ++ later) :
    ∃ opened rest, items rest = later ∧ (opened.length : Int) = level run ∧
      draw tokens = resume opened rest := by
  unfold draw
  have pending (start : List (Item α)) (within : start <+: run) (nonempty : start ≠ []) :
      0 < (([] : OpenLists α).length : Int) + level start := by
    simpa using unfinished.pending start within nonempty
  simpa using resume_tokens [] ahead unfinished.tokens pending

theorem draw_of_stop {run later : List (Item α)} {item : Item α} {form : Form α} {tokens : τ}
    (unfinished : Unfinished run) (stops : ∀ lists, push lists item = .inr form)
    (ahead : items tokens = run ++ item :: later) :
    ∃ rest, items rest = later ∧ draw tokens = (some form, rest) := by
  obtain ⟨opened, behind, ahead, _, drawn⟩ := resume_unfinished unfinished ahead
  obtain ⟨rest, ahead, resumed⟩ := resume_of_item opened ahead
  rw [stops] at resumed
  exact ⟨rest, ahead, drawn.trans resumed⟩

theorem draw_of_accounts {form : Form α} {run later : List (Item α)} {tokens : τ}
    (accounts : Accounts form run) (ahead : items tokens = run ++ later) :
    ∃ rest, items rest = later ∧ draw tokens = (some form, rest) := by
  cases accounts with
  | tree made => exact resume_tree made [] ahead
  | unmatched => exact resume_of_item [] ahead
  | failure unfinished cause =>
    rw [List.append_assoc] at ahead
    exact draw_of_stop unfinished (fun _ => rfl) ahead
  | fault unfinished cause =>
    rw [List.append_assoc] at ahead
    exact draw_of_stop unfinished (fun _ => rfl) ahead

theorem draw_of_cut {run : List (Item α)} {tokens : τ} (unfinished : Unfinished run)
    (nonempty : run ≠ []) (ahead : items tokens = run) :
    ∃ rest, draw tokens = (some (.error .unexpectedEnd), rest) := by
  rw [← List.append_nil run] at ahead
  obtain ⟨opened, last, ended, deep, drawn⟩ := resume_unfinished unfinished ahead
  have pending := unfinished.pending run List.prefix_rfl nonempty
  obtain ⟨rest, ended⟩ := draw_of_items_nil ended
  refine ⟨rest, ?_⟩
  rw [drawn, resume_of_end opened ended]
  cases opened with
  | nil => simp [← deep] at pending
  | cons trees outer => rfl

end

end Form

theorem Accounts.ne_nil {form : Form α} {run : List (Item α)} (accounts : Accounts form run) :
    run ≠ [] := by
  cases accounts with
  | tree made => cases made <;> exact List.cons_ne_nil _ _
  | unmatched => exact List.cons_ne_nil _ _
  | failure => exact List.append_ne_nil_of_right_ne_nil _ (List.cons_ne_nil _ _)
  | fault => exact List.append_ne_nil_of_right_ne_nil _ (List.cons_ne_nil _ _)

theorem Accounts.unique {form form' : Form α} {run run' later later' : List (Item α)}
    (accounts : Accounts form run) (accounts' : Accounts form' run')
    (same : run ++ later = run' ++ later') : form = form' ∧ run = run' ∧ later = later' := by
  -- A draw fixes the form and where it ends, so both runs end at the same place.
  obtain ⟨rest, behind, drawn⟩ := Form.draw_of_accounts accounts (items_list _)
  obtain ⟨rest', behind', drawn'⟩ := Form.draw_of_accounts accounts' (items_list _)
  rw [same, drawn'] at drawn
  cases drawn
  have level : later = later' := behind.symm.trans behind'
  rw [level] at same
  exact ⟨rfl, List.append_cancel_right same, level⟩

theorem Accounts.not_unfinished {form : Form α} {run later : List (Item α)}
    (accounts : Accounts form run) : ¬ Unfinished (run ++ later) := by
  intro unfinished
  have nonempty : run ++ later ≠ [] := by simp [accounts.ne_nil]
  obtain ⟨rest, _, drawn⟩ := Form.draw_of_accounts accounts (items_list _)
  obtain ⟨rest', drawn'⟩ := Form.draw_of_cut unfinished nonempty (items_list _)
  rw [drawn] at drawn'
  cases drawn'
  cases accounts

namespace Covers

theorem ne_nil {forms : List (Form α)} {runs : List (List (Item α))} (covers : Covers forms runs) :
    ∀ run ∈ runs, run ≠ [] := by
  induction covers with
  | nil => simp
  | cut _ nonempty => simpa using nonempty
  | form first _ ih => simpa using ⟨first.ne_nil, ih⟩

theorem eq_nil {forms : List (Form α)} {runs : List (List (Item α))} (covers : Covers forms runs)
    (nothing : runs.flatten = []) : forms = [] ∧ runs = [] := by
  cases covers with
  | nil => exact ⟨rfl, rfl⟩
  | cut _ nonempty => simp [nonempty] at nothing
  | form first _ => simp [first.ne_nil] at nothing

theorem unique {forms forms' : List (Form α)} {runs runs' : List (List (Item α))}
    (covers : Covers forms runs) (covers' : Covers forms' runs')
    (same : runs.flatten = runs'.flatten) : forms = forms' ∧ runs = runs' := by
  induction covers generalizing forms' runs' with
  | nil =>
    obtain ⟨rfl, rfl⟩ := covers'.eq_nil same.symm
    exact ⟨rfl, rfl⟩
  | @cut run unfinished nonempty =>
    simp only [List.flatten_cons, List.flatten_nil, List.append_nil] at same
    cases covers' with
    | nil => exact absurd same nonempty
    | cut => simpa using same
    | form first _ =>
      rw [same, List.flatten_cons] at unfinished
      exact absurd unfinished first.not_unfinished
  | @form form run forms runs first later ih =>
    cases covers' with
    | nil =>
      obtain ⟨_, missing⟩ := (Covers.form first later).eq_nil same
      cases missing
    | cut unfinished =>
      simp only [List.flatten_cons, List.flatten_nil, List.append_nil] at same
      rw [← same] at unfinished
      exact absurd unfinished first.not_unfinished
    | form first' later' =>
      simp only [List.flatten_cons] at same
      obtain ⟨rfl, rfl, behind⟩ := first.unique first' same
      obtain ⟨rfl, rfl⟩ := ih later' behind
      exact ⟨rfl, rfl⟩

end Covers

namespace Parser

variable [TokenSource τ α]

def after (parser : Parser τ) : Nat → Parser τ
  | 0 => parser
  | count + 1 => after parser.next.2 count

theorem next_start (tokens : τ) :
    (start tokens).next =
      match Form.draw tokens with
      | (none, rest) => (none, { tokens := rest, exhausted := true })
      | (some form, rest) => (some form, start rest) :=
  rfl

theorem next_of_exhausted {parser : Parser τ} (exhausted : parser.exhausted = true) :
    parser.next = (none, parser) := by
  simp [next, exhausted]

theorem eq_start {parser : Parser τ} (asking : parser.exhausted = false) :
    parser = start parser.tokens := by
  rw [start, ← asking]

theorem after_exhausted {parser : Parser τ} (exhausted : parser.exhausted = true) (count : Nat) :
    (parser.after count).next.1 = none := by
  have stays := next_of_exhausted exhausted
  induction count with
  | zero => rw [after, stays]
  | succ count ih => rwa [after, stays]

theorem next_after (tokens : τ) (count : Nat) :
    ((start tokens).after count).next.1 = (Form.all tokens)[count]? := by
  fun_induction Form.all tokens generalizing count with
  | case1 tokens rest ended =>
    have last := next_start tokens
    rw [ended] at last
    cases count with
    | zero => rw [after, last]; rfl
    | succ count =>
      rw [after, last, List.getElem?_nil]
      exact after_exhausted rfl count
  | case2 tokens form rest drawn ih =>
    have first := next_start tokens
    rw [drawn] at first
    cases count with
    | zero => rw [after, first]; rfl
    | succ count => rw [after, first, List.getElem?_cons_succ, ih]

theorem exists_covers [TokenSource.Settled τ] (tokens : τ) :
    ∃ runs, Covers (Form.all tokens) runs ∧ runs.flatten = items tokens ∧
      ∀ count < runs.length, ((start tokens).after count).tokens =
        TokenSource.after tokens (runs.take count).flatten.length := by
  fun_induction Form.all tokens with
  | case1 tokens rest ended => exact ⟨[], .nil, (Form.items_of_draw_none ended).symm, by simp⟩
  | case2 tokens form rest drawn ih =>
    obtain ⟨runs, covers, joined, taken⟩ := ih
    rcases Form.accounts_of_draw drawn with
      ⟨run, accounts, ahead, cost⟩ | ⟨rfl, unfinished, nonempty, behind⟩
    · refine ⟨run :: runs, .form accounts covers, by simp [joined, ahead], ?_⟩
      intro count within
      cases count with
      | zero => rfl
      | succ count =>
        have first := next_start tokens
        rw [drawn] at first
        have later := taken count (by simpa using within)
        rw [after, first, later, List.take_succ_cons, List.flatten_cons, List.length_append,
          TokenSource.after_add, ← cost]
    · -- The end has cut the form off, so no form comes behind it.
      rw [behind] at joined
      rw [(covers.eq_nil joined).1]
      refine ⟨[items tokens], .cut unfinished nonempty, by simp, ?_⟩
      intro count within
      obtain rfl : count = 0 := by simpa using within
      rfl

/-- The forms that are drawn take up the items in runs, in the one way in which forms can, and each
at the cost of its own run. -/
theorem exists_unique_covers (source : List (Item Empty)) :
    ∃ runs : List (List (Item Empty)),
      Covers (Form.all source) runs ∧ runs.flatten = source ∧ (∀ run ∈ runs, run ≠ []) ∧
        (∀ forms runs', Covers forms runs' → runs'.flatten = source →
          forms = Form.all source ∧ runs' = runs) ∧
        (∀ count, ((start source).after count).next.1 = (Form.all source)[count]?) ∧
        ∀ count < runs.length,
          ((start source).after count).tokens = source.drop (runs.take count).flatten.length := by
  obtain ⟨runs, covers, joined, taken⟩ := exists_covers source
  rw [items_list] at joined
  refine ⟨runs, covers, joined, covers.ne_nil, ?_, next_after source, ?_⟩
  · intro forms runs' covers' joined'
    exact covers'.unique covers (joined'.trans joined.symm)
  · intro count within
    rw [taken count within, TokenSource.after_list]

end Parser

theorem Form.all_eq_of_items {τ' : Type} [TokenSource τ α] [TokenSource τ' α]
    [TokenSource.Settled τ] [TokenSource.Settled τ'] {first : τ} {second : τ'}
    (level : items first = items second) :
    Form.all first = Form.all second := by
  obtain ⟨runs, covers, joined, _⟩ := Parser.exists_covers first
  obtain ⟨runs', covers', joined', _⟩ := Parser.exists_covers second
  have same : runs.flatten = runs'.flatten := by rw [joined, joined', level]
  exact (covers.unique covers' same).1

end SchemeReader
