import SchemeReader.Cli.Options

set_option autoImplicit false

namespace SchemeReader.Cli

namespace Argument

theorem unknownOrWord_eq_word {text name : String} (sorted : unknownOrWord text = .word name) :
    name = text := by
  unfold unknownOrWord at sorted
  split at sorted
  · cases sorted
    rfl
  · cases sorted

theorem sortLong_eq_word {text name : String} (sorted : sortLong text = .ok (.word name)) :
    name = text := by
  unfold sortLong at sorted
  dsimp only at sorted
  split at sorted
  · exact unknownOrWord_eq_word (Except.ok.inj sorted)
  · cases sorted
  · cases sorted

theorem sortShort_eq_word {text name : String} (sorted : sortShort text = .word name) :
    name = text := by
  unfold sortShort at sorted
  split at sorted
  · cases sorted
  · exact unknownOrWord_eq_word sorted

theorem sort_eq_word {text name : String} (sorted : sort text = .ok (.word name)) :
    name = text := by
  unfold sort at sorted
  split at sorted
  · cases sorted
    rfl
  split at sorted
  · cases sorted
  split at sorted
  · cases sorted
    rfl
  dsimp only at sorted
  split at sorted
  · cases sorted
  split at sorted
  · exact sortLong_eq_word sorted
  · exact sortShort_eq_word (Except.ok.inj sorted)

end Argument

def lexerArguments : Option LexerKind → List String
  | none => []
  | some kind => ["--lexer", kind.name]

def wholeArguments (whole : Bool) : List String := if whole then ["--whole"] else []

def plainOptions (lexer : Option LexerKind) : Options :=
  { command := none, lexer, whole := false, describe := false, logLevel := none, files := [] }

def Taking.plain (lexer : Option LexerKind) : Taking :=
  { Taking.start with options := plainOptions lexer }

namespace Options

theorem ofArguments_whole (lexer : Option LexerKind) (whole : Bool) :
    ofArguments (lexerArguments lexer ++ wholeArguments whole) =
      .ok { plainOptions lexer with whole } := by
  cases lexer with
  | none => cases whole <;> rfl
  | some kind => cases kind <;> cases whole <;> rfl

theorem ofArguments_lexer (lexer : Option LexerKind) (rest : List String) :
    ofArguments (lexerArguments lexer ++ rest) = (do
      let sorted ← (Argument.sortAll rest).mapError .usage
      let taking ← Taking.all (.plain lexer) sorted
      if taking.extras ≠ [] then .error (.usage (.unrecognized taking.extras))
      else .ok { taking.options with files := taking.options.files.erase "--" }) := by
  cases lexer with
  | none => rfl
  | some kind =>
    have chosen : Argument.sort "--lexer" = .ok (.switch .lexer false none) := rfl
    have named : Argument.sort kind.name = .ok (.word kind.name) := by cases kind <;> rfl
    have plain : kind.name ≠ "--" := by cases kind <;> decide
    rw [ofArguments, lexerArguments, List.cons_append, List.cons_append, List.nil_append,
      Argument.sortAll, if_neg (by decide), chosen, Argument.sortAll, if_neg plain, named]
    cases Argument.sortAll rest with
    | error error => rfl
    | ok arguments => cases kind <;> rfl

theorem sortAll_command (code : String) :
    Argument.sortAll ["-c", code] = (do
      let argument ← if code = "--" then .ok .separator else Argument.sort code
      return [.switch .command false none, argument]) := by
  have command : Argument.sort "-c" = .ok (.switch .command false none) := rfl
  rw [Argument.sortAll, if_neg (by decide), command, Argument.sortAll]
  by_cases separator : code = "--"
  · rw [if_pos separator, if_pos separator]
    rfl
  · rw [if_neg separator, if_neg separator, Argument.sortAll]
    cases Argument.sort code <;> rfl

theorem ofArguments_command (lexer : Option LexerKind) (code : String) :
    ofArguments (lexerArguments lexer ++ ["-c", code]) =
        .ok { plainOptions lexer with command := some code } ∨
      ∃ error, ofArguments (lexerArguments lexer ++ ["-c", code]) = .error (.usage error) := by
  rw [ofArguments_lexer, sortAll_command]
  by_cases separator : code = "--"
  · rw [if_pos separator]
    exact .inr ⟨_, rfl⟩
  rw [if_neg separator]
  cases sorted : Argument.sort code with
  | error error => exact .inr ⟨error, rfl⟩
  | ok argument =>
    cases argument with
    | word name =>
      obtain rfl := Argument.sort_eq_word sorted
      have taken : (Taking.plain lexer).value .command name =
          .ok { Taking.plain lexer with
                  options := { plainOptions lexer with command := some name } } := by
        rw [Taking.value, if_neg separator]
        rfl
      left
      change (do
        let taking ← (do
          let taking ← (Taking.plain lexer).value .command name
          Taking.all taking [])
        if taking.extras ≠ [] then .error (.usage (.unrecognized taking.extras))
        else .ok { taking.options with files := taking.options.files.erase "--" }) = _
      rw [taken]
      rfl
    | separator | switch | unknown => exact .inr ⟨_, rfl⟩

end Options

end SchemeReader.Cli
