import SchemeReader.Proofs.Lexer.Overlong
import SchemeReader.Proofs.Parser.Cover

set_option autoImplicit false

namespace SchemeReader

open Text (CharSource)
open TokenSource (Settled items items_of_end items_of_item)

variable {τ α : Type}

inductive Request
  | item
  | form
deriving DecidableEq

inductive Answer (α : Type)
  | item (drawn : Option (Item α))
  | form (drawn : Option (Form α))

namespace Answer

def request : Answer α → Request
  | item _ => .item
  | form _ => .form

def isEnd : Answer α → Bool
  | item none | form none => true
  | _ => false

end Answer

structure Service (α : Type) where
  answer : Answer α
  heard : List (Option (Item α))

namespace Service

def taken (service : Service α) : List (Item α) := service.heard.filterMap id

def Ends (service : Service α) : Prop := service.answer.isEnd = true ∨ none ∈ service.heard

inductive Accounted : Service α → Prop
  | item (drawn : Option (Item α)) : Accounted ⟨.item drawn, [drawn]⟩
  | form {form : Form α} {run : List (Item α)} (accounts : Accounts form run) :
      Accounted ⟨.form (some form), run.map some⟩
  | cut {run : List (Item α)} (unfinished : Unfinished run) (nonempty : run ≠ []) :
      Accounted ⟨.form (some (.error .unexpectedEnd)), run.map some ++ [none]⟩
  | finish : Accounted ⟨.form none, [none]⟩
  -- A parser that has met the end does not ask again.
  | silent : Accounted ⟨.form none, []⟩

end Service

variable [TokenSource τ α]

structure Recorded (τ : Type) {α : Type} [TokenSource τ α] where
  tokens : τ
  answers : List (Option (Item α))

instance : TokenSource (Recorded τ) α where
  draw recorded :=
    let (item, rest) := TokenSource.draw recorded.tokens
    (item, { tokens := rest, answers := recorded.answers ++ [item] })
  size recorded := TokenSource.size recorded.tokens
  size_draw recorded := TokenSource.size_draw recorded.tokens

theorem draw_recorded {tokens rest : τ} {item : Option (Item α)}
    (drawn : TokenSource.draw tokens = (item, rest)) (before : List (Option (Item α))) :
    TokenSource.draw (⟨tokens, before⟩ : Recorded τ) = (item, ⟨rest, before ++ [item]⟩) := by
  simp [TokenSource.draw, drawn]

namespace Parser

def recorded (parser : Parser τ) : Parser (Recorded τ) :=
  { tokens := { tokens := parser.tokens, answers := [] }, exhausted := parser.exhausted }

def unrecorded (parser : Parser (Recorded τ)) : Parser τ :=
  { tokens := parser.tokens.tokens, exhausted := parser.exhausted }

def serve (parser : Parser τ) : Request → Service α × Parser τ
  | .item =>
    let (item, rest) := parser.recorded.nextItem
    (⟨.item item, rest.tokens.answers⟩, rest.unrecorded)
  | .form =>
    let (form, rest) := parser.recorded.next
    (⟨.form form, rest.tokens.answers⟩, rest.unrecorded)

def serveAll (parser : Parser τ) : List Request → List (Service α) × Parser τ
  | [] => ([], parser)
  | request :: later =>
    let (service, rest) := parser.serve request
    let (services, final) := rest.serveAll later
    (service :: services, final)

end Parser

namespace Form

inductive Hears (lists : OpenLists α) (tokens : τ) :
    Option (Form α) × τ → List (Option (Item α)) → Prop
  | form (run : List (Item α)) {form : Form α} {rest : τ} (ahead : items tokens = run ++ items rest)
      (accounts : Accounts form (OpenLists.items lists ++ run)) :
      Hears lists tokens (some form, rest) (run.map some)
  | finish (run : List (Item α)) {opened : OpenLists α} {last rest : τ}
      (ended : TokenSource.draw last = (none, rest)) (ahead : items tokens = run)
      (whole : OpenLists.items opened = OpenLists.items lists ++ run) :
      Hears lists tokens (atEnd opened, rest) (run.map some ++ [none])

theorem resume_recorded (lists : OpenLists α) (tokens : τ) (before : List (Option (Item α))) :
    ∃ heard, resume lists (⟨tokens, before⟩ : Recorded τ) =
        ((resume lists tokens).1, ⟨(resume lists tokens).2, before ++ heard⟩) ∧
      Hears lists tokens (resume lists tokens) heard := by
  fun_induction resume lists tokens generalizing before with
  | case1 lists tokens rest ended =>
    refine ⟨[none], resume_of_end lists (draw_recorded ended before), ?_⟩
    exact .finish [] ended (items_of_end ended) (by simp)
  | case2 lists tokens item rest drawn opened pushed ih =>
    have accounted := accounted_push lists item
    rw [pushed] at accounted
    have inside : OpenLists.items opened = OpenLists.items lists ++ [item] := accounted
    have ahead := items_of_item drawn
    obtain ⟨heard, resumed, hears⟩ := ih (before ++ [some item])
    refine ⟨some item :: heard, ?_, ?_⟩
    · rw [resume_of_draw lists (draw_recorded drawn before), pushed, proceed, resumed]
      simp
    · generalize resume opened rest = result at hears ⊢
      cases hears with
      | form run behind accounts =>
        refine .form (item :: run) (by rw [ahead, behind]; rfl) ?_
        simpa [inside] using accounts
      | finish run ended behind whole =>
        exact .finish (item :: run) ended (by rw [ahead, behind]) (by rw [whole, inside]; simp)
  | case3 lists tokens item rest drawn form pushed =>
    have accounted := accounted_push lists item
    rw [pushed] at accounted
    refine ⟨[some item], ?_, .form [item] (items_of_item drawn) accounted⟩
    rw [resume_of_draw lists (draw_recorded drawn before), pushed, proceed]

end Form

namespace Parser

variable {parser : Parser τ}

theorem serve_item (parser : Parser τ) :
    parser.serve .item = (⟨.item parser.nextItem.1, [parser.nextItem.1]⟩, parser.nextItem.2) :=
  rfl

theorem serve_form (parser : Parser τ) :
    ∃ heard, parser.serve .form = (⟨.form parser.next.1, heard⟩, parser.next.2) ∧
      (parser.exhausted = true ∧ heard = [] ∨ parser.exhausted = false ∧
        Form.Hears [] parser.tokens (Form.draw parser.tokens) heard) := by
  obtain ⟨tokens, exhausted⟩ := parser
  cases exhausted with
  | true => exact ⟨[], rfl, .inl ⟨rfl, rfl⟩⟩
  | false =>
    obtain ⟨heard, resumed, hears⟩ := Form.resume_recorded [] tokens []
    refine ⟨heard, ?_, .inr ⟨rfl, hears⟩⟩
    have asked : recorded ⟨tokens, false⟩ = start ⟨tokens, []⟩ := rfl
    have plain : (⟨tokens, false⟩ : Parser τ) = start tokens := rfl
    rw [serve, asked, plain, next_start, next_start, Form.draw, Form.draw, resumed]
    cases Form.resume [] tokens with
    | mk form rest => cases form <;> rfl

theorem next_of_items {τ' : Type} [TokenSource τ' α] [Settled τ] [Settled τ'] {first : τ}
    {second : τ'} (level : items first = items second) :
    (start first).next.1 = (start second).next.1 := by
  calc
    (start first).next.1 = (Form.all first)[0]? := next_after first 0
    _ = (Form.all second)[0]? := by rw [Form.all_eq_of_items level]
    _ = (start second).next.1 := (next_after second 0).symm

theorem next_of_nothing {tokens : τ} (nothing : items tokens = []) :
    (start tokens).next.1 = none := by
  obtain ⟨rest, ended⟩ := TokenSource.draw_of_items_nil nothing
  rw [next_start, Form.draw, Form.resume_of_end [] ended]
  rfl

def Sincere (parser : Parser τ) : Prop := parser.exhausted = true → items parser.tokens = []

structure Serves (parser : Parser τ) (request : Request) (service : Service α) (rest : Parser τ) :
    Prop where
  fit : service.answer.request = request
  accounted : service.Accounted
  kept : service.taken ++ items rest.tokens = items parser.tokens
  ended : service.Ends → items rest.tokens = []
  sincere : rest.Sincere

variable [Settled τ]

theorem serve_item_serves (sincere : parser.Sincere) :
    Serves parser .item (parser.serve .item).1 (parser.serve .item).2 := by
  rw [serve_item]
  cases drawn : TokenSource.draw parser.tokens with
  | mk item rest =>
    have asked : parser.nextItem = (item, { parser with tokens := rest }) := by
      simp [nextItem, drawn]
    rw [asked]
    cases item with
    | none =>
      have nothing := Settled.items_after_end drawn
      have before := items_of_end drawn
      exact {
        fit := rfl
        accounted := .item none
        kept := by simp [Service.taken, nothing, before]
        ended := fun _ => nothing
        sincere := fun _ => nothing }
    | some item =>
      have before := items_of_item drawn
      exact {
        fit := rfl
        accounted := .item (some item)
        kept := by simp [Service.taken, before]
        ended := by simp [Service.Ends, Answer.isEnd]
        sincere := by
          intro exhausted
          cases before.symm.trans (sincere exhausted) }

theorem serve_form_serves (sincere : parser.Sincere) :
    Serves parser .form (parser.serve .form).1 (parser.serve .form).2 := by
  obtain ⟨heard, served, outcome⟩ := parser.serve_form
  rw [served]
  rcases outcome with ⟨exhausted, rfl⟩ | ⟨asking, hears⟩
  · rw [next_of_exhausted exhausted]
    exact {
      fit := rfl
      accounted := .silent
      kept := rfl
      ended := fun _ => sincere exhausted
      sincere }
  · have answered := next_start parser.tokens
    rw [← eq_start asking] at answered
    generalize Form.draw parser.tokens = result at hears answered
    cases hears with
    | form run ahead accounts =>
      rw [answered]
      exact {
        fit := rfl
        accounted := .form accounts
        kept := by simp [Service.taken, ahead, start]
        ended := by simp [Service.Ends, Answer.isEnd]
        sincere := fun exhausted => absurd exhausted Bool.false_ne_true }
    | @finish run opened last rest ended ahead whole =>
      have nothing : items rest = [] := Settled.items_after_end ended
      cases opened with
      | nil =>
        have empty : run = [] := whole.symm
        have last : parser.next = (none, { tokens := rest, exhausted := true }) := answered
        subst empty
        rw [last]
        exact {
          fit := rfl
          accounted := .finish
          kept := by simp [Service.taken, nothing, ahead]
          ended := fun _ => nothing
          sincere := fun _ => nothing }
      | cons trees outer =>
        have unfinished := OpenLists.unfinished_items (trees :: outer)
        have nonempty : OpenLists.items (trees :: outer) ≠ [] := OpenLists.items_ne_nil
        have last : parser.next = (some (.error .unexpectedEnd), start rest) := answered
        rw [whole] at unfinished nonempty
        rw [last]
        exact {
          fit := rfl
          accounted := .cut unfinished nonempty
          kept := by simp [Service.taken, nothing, ahead, start]
          ended := fun _ => nothing
          sincere := fun _ => nothing }

theorem serve_serves (sincere : parser.Sincere) (request : Request) :
    Serves parser request (parser.serve request).1 (parser.serve request).2 := by
  cases request with
  | item => exact serve_item_serves sincere
  | form => exact serve_form_serves sincere

theorem next_fresh (sincere : parser.Sincere) :
    parser.next.1 = (start (items parser.tokens)).next.1 := by
  cases exhausted : parser.exhausted with
  | true =>
    rw [next_of_exhausted exhausted, sincere exhausted]
    exact (next_of_nothing (items_list [])).symm
  | false =>
    rw [eq_start exhausted]
    exact next_of_items (items_list _).symm

theorem serve_isEnd (sincere : parser.Sincere) (nothing : items parser.tokens = [])
    (request : Request) : (parser.serve request).1.answer.isEnd = true := by
  cases request with
  | item =>
    obtain ⟨rest, ended⟩ := TokenSource.draw_of_items_nil nothing
    simp [serve_item, nextItem, ended, Answer.isEnd]
  | form =>
    obtain ⟨heard, served, _⟩ := parser.serve_form
    rw [served, next_fresh sincere, nothing, next_of_nothing (items_list [])]
    rfl

structure ServesAll (parser : Parser τ) (requests : List Request) (services : List (Service α))
    (final : Parser τ) : Prop where
  fit : services.map (·.answer.request) = requests
  accounted : ∀ service ∈ services, service.Accounted
  kept : services.flatMap Service.taken ++ items final.tokens = items parser.tokens
  ended : (∃ service ∈ services, service.Ends) → items final.tokens = []
  sincere : final.Sincere

theorem serveAll_servesAll (sincere : parser.Sincere) (requests : List Request) :
    ServesAll parser requests (parser.serveAll requests).1 (parser.serveAll requests).2 := by
  induction requests generalizing parser with
  | nil =>
    exact {
      fit := rfl
      accounted := by simp [serveAll]
      kept := rfl
      ended := by simp [serveAll]
      sincere }
  | cons request later ih =>
    have first := serve_serves sincere request
    have behind := ih first.sincere
    exact {
      fit := by simp only [serveAll, List.map_cons, first.fit, behind.fit]
      accounted := List.forall_mem_cons.2 ⟨first.accounted, behind.accounted⟩
      kept := by
        simp only [serveAll, List.flatMap_cons, List.append_assoc]
        rw [behind.kept, first.kept]
      ended := by
        rintro ⟨service, member, ends⟩
        rcases List.mem_cons.1 member with rfl | within
        · -- Nothing is left behind the end, and later requests bring nothing back.
          have nothing := behind.kept
          rw [first.ended ends] at nothing
          exact (List.append_eq_nil_iff.1 nothing).2
        · exact behind.ended ⟨service, within, ends⟩
      sincere := behind.sincere }

theorem serveAll_isEnd (sincere : parser.Sincere) (nothing : items parser.tokens = [])
    (requests : List Request) :
    ∀ service ∈ (parser.serveAll requests).1, service.answer.isEnd = true := by
  induction requests generalizing parser with
  | nil => simp [serveAll]
  | cons request later ih =>
    have first := serve_serves sincere request
    have behind := first.kept
    rw [nothing] at behind
    rw [serveAll, List.forall_mem_cons]
    exact ⟨serve_isEnd sincere nothing request,
      ih first.sincere (List.append_eq_nil_iff.1 behind).2⟩

/-- A lexer may be drawn from through its parser and directly, in any order: each item goes to one
request, the parser goes on as a new one would, and the end stays. -/
theorem shared_lexer {σ : Type} [CharSource σ] (kind : LexerKind) (source : σ)
    (requests : List Request) :
    let lexer := Lexer.start kind source
    let (services, parser) := (start lexer).serveAll requests
    services.map (·.answer.request) = requests ∧
      services.flatMap Service.taken ++ items parser.tokens = items lexer ∧
      (∀ service ∈ services, service.Accounted) ∧
      (parser.serve .form).1.answer = .form parser.next.1 ∧
      parser.next.1 = (start (items parser.tokens)).next.1 ∧
      ((∃ service ∈ services, service.Ends) → items parser.tokens = [] ∧
        ∀ later, ∀ service ∈ (parser.serveAll later).1, service.answer.isEnd = true) := by
  intro lexer
  have sincere : (start lexer).Sincere := nofun
  have served := serveAll_servesAll sincere requests
  obtain ⟨_, asked, _⟩ := ((start lexer).serveAll requests).2.serve_form
  have answer := congrArg (fun served => served.1.answer) asked
  refine ⟨served.fit, served.kept, served.accounted, answer, next_fresh served.sincere, ?_⟩
  intro ends
  have nothing := served.ended ends
  exact ⟨nothing, serveAll_isEnd served.sincere nothing⟩

end Parser

end SchemeReader
