import GCode.Formatting
import GCode.Rendering

/-!
# Scripts

A script builds tokens and statements step by step.  Each step fills the next register, and later
steps name the registers they use by number.  No step changes a register that is already filled.
-/

namespace GCode

/-- A token or a statement. -/
inductive Value where
  | token (token : Token)
  | statement (statement : Statement)
deriving DecidableEq, Repr

namespace Value

/-- The token that a value is. -/
def token? : Value → Option Token
  | token content => some content
  | statement _ => none

/-- The statement that a value is. -/
def statement? : Value → Option Statement
  | statement content => some content
  | token _ => none

/-- Replaces the first run. -/
def withLeading (run : Run) : Value → Value
  | token content => token (content.withLeading run)
  | statement content => statement (content.withLeading run)

/-- Replaces the last run. -/
def withTrailing (run : Run) : Value → Value
  | token content => token (content.withTrailing run)
  | statement content => statement (content.withTrailing run)

/-- Writes out a value. -/
def render : Value → Except RenderError String
  | token content => content.render
  | statement content => content.render

end Value

namespace Script

/-- One step of a script. -/
inductive Step where
  /-- Makes a token without trivia. -/
  | token (kind : TokenKind) (text : String)
  /-- Makes the end of a file. -/
  | endOfFile (trivia : Run)
  /-- Builds an instruction from tokens. -/
  | instruction (command : Nat) (arguments : List Nat)
  /-- Replaces the first run of a value. -/
  | withLeading (value : Nat) (run : Run)
  /-- Replaces the last run of a value. -/
  | withTrailing (value : Nat) (run : Run)
  /-- Picks a token out of a statement. -/
  | pick (statement index : Nat)
  /-- Formats a statement behind another one. -/
  | format (statement : Nat) (previous : Option Nat) (configuration : Configuration)
  /-- Shows a value again. -/
  | echo (value : Nat)
  /-- Writes out statements. -/
  | render (statements : List Nat)
  /-- Compares two values. -/
  | compare (left right : Nat)
  /-- Counts the different ones among statements. -/
  | distinct (statements : List Nat)
deriving DecidableEq, Repr

/-- What a step answers. -/
inductive Answer where
  | value (value : Value)
  | text (text : Except RenderError String)
  | truth (value : Bool)
  | count (count : Nat)

/-- The reason why a step failed. -/
inductive StepError where
  /-- The tokens make no instruction. -/
  | build (error : BuildError)
  /-- A register that a step names does not hold what the step needs. -/
  | unusable
deriving DecidableEq, Repr

/-- The registers filled so far.  A step that makes no value leaves its register empty. -/
abbrev Registers := List (Option Value)

namespace Registers

/-- The value of a register. -/
def value (registers : Registers) (index : Nat) : Except StepError Value :=
  match registers[index]?.join with
  | some value => .ok value
  | none => .error .unusable

/-- The token in a register. -/
def token (registers : Registers) (index : Nat) : Except StepError Token := do
  match (← value registers index).token? with
  | some token => return token
  | none => throw .unusable

/-- The statement in a register. -/
def statement (registers : Registers) (index : Nat) : Except StepError Statement := do
  match (← value registers index).statement? with
  | some statement => return statement
  | none => throw .unusable

end Registers

/-- The answer of a step. -/
def answer (registers : Registers) : Step → Except StepError Answer
  | .token kind text => .ok (.value (.token { kind := kind, text := text }))
  | .endOfFile trivia => .ok (.value (.statement (.endOfFile trivia)))
  | .instruction command arguments => do
      let command ← registers.token command
      let arguments ← arguments.mapM registers.token
      match Instruction.build command arguments with
      | .ok content => return .value (.statement (.instruction content))
      | .error error => throw (.build error)
  | .withLeading value run => do
      return .value ((← registers.value value).withLeading run)
  | .withTrailing value run => do
      return .value ((← registers.value value).withTrailing run)
  | .pick statement index => do
      match (← registers.statement statement).tokens[index]? with
      | some token => return .value (.token token)
      | none => throw .unusable
  | .format statement previous configuration => do
      let statement ← registers.statement statement
      let previous ← previous.mapM registers.statement
      return .value (.statement (statement.format configuration previous))
  | .echo value => do
      return .value (← registers.value value)
  | .render statements => do
      return .text (Program.render (← statements.mapM registers.statement))
  | .compare left right => do
      return .truth ((← registers.value left) == (← registers.value right))
  | .distinct statements => do
      return .count (Program.distinct (← statements.mapM registers.statement))

/-- What a step puts into its register.  Showing a value again fills none. -/
def filling (step : Step) (answer : Except StepError Answer) : Option Value :=
  match step, answer with
  | .echo _, _ => none
  | _, .ok (.value value) => some value
  | _, _ => none

/-- Carries out a step. -/
def step (registers : Registers) (step : Step) : Except StepError Answer × Registers :=
  let result := answer registers step
  (result, registers ++ [filling step result])

/-- The registers after some steps from empty ones. -/
def registersAfter (steps : List Step) : Registers :=
  steps.foldl (fun registers next => (step registers next).2) []

end Script
end GCode
