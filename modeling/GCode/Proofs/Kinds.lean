import GCode.Proofs.Building
import GCode.Script

/-!
# Token kinds in scripts

Token kinds are checked where an instruction is built from tokens, and nowhere else.  Every other
step keeps the words of an instruction, so no script ever obtains an instruction with a token of the
wrong kind: `Script.wellKinded_of_obtained`.
-/

namespace GCode

/-! ## Instructions -/

namespace Instruction

/-- An instruction from tokens whose kinds have been checked before.  The kinds are asserted, so
there is no instruction if one of them is wrong. -/
def ofChecked? (command : Token) (arguments : List Token) : Option Instruction :=
  if command.kind = .command ∧ ∀ argument ∈ arguments, argument.kind = .argument then
    some ⟨command, arguments⟩
  else
    none

/-- Formats every token in its place, and puts them together as tokens that have been checked. -/
def formatAsserting? (configuration : Configuration) (content : Instruction) :
    Option Instruction :=
  ofChecked? (content.command.format configuration true content.arguments.isEmpty)
    (Token.formatArguments configuration content.arguments)

theorem wellKinded_iff_words {content : Instruction} :
    content.WellKinded ↔
      content.command.word.1 = .command ∧
        ∀ word ∈ content.arguments.map Token.word, word.1 = .argument := by
  rw [List.forall_mem_map]
  rfl

/-- The words of an instruction determine whether it is well-kinded. -/
theorem WellKinded.of_words_eq {first second : Instruction} (words : first.words = second.words)
    (wellKinded : first.WellKinded) : second.WellKinded := by
  obtain ⟨command, arguments⟩ := List.cons_eq_cons.mp words
  rw [wellKinded_iff_words] at wellKinded ⊢
  rwa [← command, ← arguments]

theorem words_withLeading (run : Run) (content : Instruction) :
    (content.withLeading run).words = content.words := rfl

theorem words_withTrailing (run : Run) (content : Instruction) :
    (content.withTrailing run).words = content.words := by
  cases content using lastCases with
  | alone command => rfl
  | followed command front last =>
      rw [withTrailing_followed]
      simp [words, tokens, Token.word, Token.withTrailing]

theorem wellKinded_format_iff {content : Instruction} (configuration : Configuration) :
    (content.format configuration).WellKinded ↔ content.WellKinded :=
  ⟨WellKinded.of_words_eq (content.words_format configuration),
    WellKinded.of_words_eq (content.words_format configuration).symm⟩

/-- What formatting asserts of the kinds holds if and only if they were right before. -/
theorem formatAsserting?_eq_some_iff {content : Instruction} (configuration : Configuration) :
    content.formatAsserting? configuration = some (content.format configuration) ↔
      content.WellKinded := by
  rw [← wellKinded_format_iff configuration]
  exact Option.ite_none_right_eq_some.trans (and_iff_left rfl)

end Instruction

/-! ## Values -/

/-- The kinds of an instruction are right.  Tokens alone may have any kind. -/
def Value.WellKinded : Value → Prop
  | token _ => True
  | statement (.instruction content) => content.WellKinded
  | statement (.endOfFile _) => True

namespace Value

theorem WellKinded.withLeading {value : Value} (wellKinded : value.WellKinded) (run : Run) :
    (value.withLeading run).WellKinded := by
  rcases value with token | content | trivia
  · trivial
  · exact Instruction.WellKinded.of_words_eq (content.words_withLeading run).symm wellKinded
  · trivial

theorem WellKinded.withTrailing {value : Value} (wellKinded : value.WellKinded) (run : Run) :
    (value.withTrailing run).WellKinded := by
  rcases value with token | content | trivia
  · trivial
  · exact Instruction.WellKinded.of_words_eq (content.words_withTrailing run).symm wellKinded
  · trivial

theorem WellKinded.format {statement : Statement}
    (wellKinded : (Value.statement statement).WellKinded) (configuration : Configuration)
    (previous : Option Statement) :
    (Value.statement (statement.format configuration previous)).WellKinded := by
  cases statement with
  | instruction content =>
      rw [Statement.format]
      split
      · exact (Instruction.wellKinded_format_iff configuration).mpr wellKinded
      · exact wellKinded
  | endOfFile trivia =>
      rw [Statement.format]
      split <;> trivial

end Value

/-! ## Scripts -/

namespace Script

theorem bind_eq_ok_iff {ε α β : Type} {first : Except ε α} {next : α → Except ε β} {result : β} :
    first >>= next = .ok result ↔ ∃ value, first = .ok value ∧ next value = .ok result := by
  cases first with
  | error error => exact iff_of_false nofun nofun
  | ok value => simp [bind, Except.bind]

theorem pure_eq_ok_iff {ε α : Type} {value result : α} :
    (pure value : Except ε α) = .ok result ↔ value = result :=
  ⟨Except.ok.inj, congrArg Except.ok⟩

/-- All instructions in some registers have the right kinds. -/
def Registers.WellKinded (registers : Registers) : Prop :=
  ∀ value, some value ∈ registers → value.WellKinded

namespace Registers

variable {registers : Registers} {index : Nat}

theorem mem_of_value_eq_ok {value : Value} (held : registers.value index = .ok value) :
    some value ∈ registers := by
  rw [Registers.value] at held
  split at held
  · rename_i found
    obtain rfl := Except.ok.inj held
    exact List.mem_of_getElem? (Option.join_eq_some_iff.mp found)
  · contradiction

theorem mem_of_statement_eq_ok {statement : Statement}
    (held : registers.statement index = .ok statement) :
    some (.statement statement) ∈ registers := by
  rw [Registers.statement, bind_eq_ok_iff] at held
  obtain ⟨value, found, usable⟩ := held
  have member := mem_of_value_eq_ok found
  cases value with
  | token token => contradiction
  | statement content =>
      obtain rfl := Except.ok.inj usable
      exact member

end Registers

/-- Whatever a step makes of values with the right kinds has the right kinds. -/
theorem wellKinded_of_answer {registers : Registers} (wellKinded : registers.WellKinded)
    {step : Step} {value : Value} (made : answer registers step = .ok (.value value)) :
    value.WellKinded := by
  -- Tokens are put together in one step only, which checks their kinds.  All other instructions
  -- come out of the registers and keep their words.
  cases step with
  | token kind text =>
      cases made
      trivial
  | endOfFile trivia =>
      cases made
      trivial
  | instruction command arguments =>
      simp only [answer, bind_eq_ok_iff] at made
      obtain ⟨first, -, others, -, made⟩ := made
      split at made
      · rename_i content built
        cases made
        exact Instruction.wellKinded_of_build_eq_ok built
      · contradiction
  | withLeading index run =>
      simp only [answer, bind_eq_ok_iff, pure_eq_ok_iff, Answer.value.injEq] at made
      obtain ⟨before, held, rfl⟩ := made
      exact (wellKinded before (Registers.mem_of_value_eq_ok held)).withLeading run
  | withTrailing index run =>
      simp only [answer, bind_eq_ok_iff, pure_eq_ok_iff, Answer.value.injEq] at made
      obtain ⟨before, held, rfl⟩ := made
      exact (wellKinded before (Registers.mem_of_value_eq_ok held)).withTrailing run
  | pick statement index =>
      simp only [answer, bind_eq_ok_iff] at made
      obtain ⟨content, -, made⟩ := made
      split at made
      · cases made
        trivial
      · contradiction
  | format index previous configuration =>
      simp only [answer, bind_eq_ok_iff, pure_eq_ok_iff, Answer.value.injEq] at made
      obtain ⟨statement, held, before, -, rfl⟩ := made
      exact (wellKinded _ (Registers.mem_of_statement_eq_ok held)).format configuration before
  | echo index =>
      simp only [answer, bind_eq_ok_iff, pure_eq_ok_iff, Answer.value.injEq] at made
      obtain ⟨before, held, rfl⟩ := made
      exact wellKinded before (Registers.mem_of_value_eq_ok held)
  | render statements =>
      simp only [answer, bind_eq_ok_iff, pure_eq_ok_iff, reduceCtorEq, and_false,
        exists_false] at made
  | compare left right =>
      simp only [answer, bind_eq_ok_iff, pure_eq_ok_iff, reduceCtorEq, and_false,
        exists_false] at made
  | distinct statements =>
      simp only [answer, bind_eq_ok_iff, pure_eq_ok_iff, reduceCtorEq, and_false,
        exists_false] at made

/-- A register is filled only with what its step has made. -/
theorem answer_of_filling {step : Step} {result : Except StepError Answer} {value : Value}
    (filled : filling step result = some value) : result = .ok (.value value) := by
  rw [filling.eq_def] at filled
  split at filled
  · contradiction
  · rw [Option.some.inj filled]
  · contradiction

theorem wellKinded_step {registers : Registers} (wellKinded : registers.WellKinded)
    (next : Step) : (step registers next).2.WellKinded := by
  intro value member
  rcases List.mem_append.mp member with before | new
  · exact wellKinded value before
  · exact wellKinded_of_answer wellKinded (answer_of_filling (List.mem_singleton.mp new).symm)

theorem wellKinded_registersAfter (steps : List Step) : (registersAfter steps).WellKinded :=
  List.foldlRecOn steps _ (fun _ member => absurd member List.not_mem_nil)
    fun _ wellKinded next _ => wellKinded_step wellKinded next

/-- Every instruction that a script obtains is a command followed by arguments.  So the kinds are
right wherever formatting asserts them, and its own tokens build the instruction again. -/
theorem wellKinded_of_obtained {steps : List Step} {content : Instruction}
    (obtained : some (.statement (.instruction content)) ∈ registersAfter steps) :
    content.WellKinded ∧
      (∀ configuration,
        content.formatAsserting? configuration = some (content.format configuration)) ∧
      ∃ command arguments, content.tokens = command :: arguments ∧
        Instruction.build command arguments = .ok content := by
  have wellKinded : content.WellKinded := wellKinded_registersAfter steps _ obtained
  exact ⟨wellKinded,
    fun configuration => (Instruction.formatAsserting?_eq_some_iff configuration).mpr wellKinded,
    content.command, content.arguments, rfl, wellKinded.build_eq_ok⟩

/-- A move that is built, formatted, taken apart and built again with one of its words twice. -/
def rebuilding : List Step :=
  [.token .command "G1", .token .argument "X10", .instruction 0 [1],
    .withTrailing 2 [.comment " move"], .format 3 (some 2) .standard, .pick 4 0, .pick 4 1,
    .instruction 5 [6, 1], .instruction 6 [5]]

/-- What the move is built again as. -/
def rebuilt : Instruction where
  command := { kind := .command, text := "G1", trailing := [.singleSpace] }
  arguments :=
    [{ kind := .argument
       text := "X10"
       trailing := [.singleSpace, .comment " move", .lineBreak] },
      { kind := .argument, text := "X10" }]

theorem wellKinded_rebuilt :
    some (.statement (.instruction rebuilt)) ∈ registersAfter rebuilding ∧
      rebuilt.WellKinded ∧
      (∀ configuration,
        rebuilt.formatAsserting? configuration = some (rebuilt.format configuration)) ∧
      ∃ command arguments, rebuilt.tokens = command :: arguments ∧
        Instruction.build command arguments = .ok rebuilt := by
  have obtained : some (.statement (.instruction rebuilt)) ∈ registersAfter rebuilding := by
    decide +kernel
  exact ⟨obtained, wellKinded_of_obtained obtained⟩

end Script
end GCode
