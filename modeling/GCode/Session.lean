import GCode.Pass

/-!
# Sessions

Any number of passes with one configuration.  Passes are numbered in the order in which they are
opened, and each step belongs to one of them.
-/

namespace GCode

/-- Passes with one configuration. -/
structure Session where
  /-- What formatting does in every pass. -/
  configuration : Configuration
  /-- The passes in the order of their opening, without those that have been dropped. -/
  passes : List (Option Pass)
deriving DecidableEq, Repr

namespace Session

/-- A session without passes. -/
def start (configuration : Configuration) : Session := ⟨configuration, []⟩

/-- One step of a session. -/
inductive Step where
  /-- Opens the next pass. -/
  | opens (source : Source)
  /-- Asks something of a pass. -/
  | asks (pass : Nat) (operation : Pass.Operation)
  /-- Drops a pass. -/
  | drops (pass : Nat)
deriving DecidableEq, Repr

/-- What a step results in. -/
inductive Outcome where
  /-- The number of a new pass. -/
  | opened (pass : Nat)
  /-- The answer of a pass. -/
  | answered (answer : Pass.Answer)
  /-- A pass is gone. -/
  | dropped
deriving DecidableEq, Repr

/-- What is reported of a step. -/
structure Report where
  /-- What the step results in. -/
  outcome : Outcome
  /-- How often the source of the pass has been asked so far. -/
  asked : Nat
  /-- What the pass has told during the step. -/
  log : List Event
deriving DecidableEq, Repr

/-- The pass with a number, unless it has been dropped. -/
def pass? (number : Nat) (session : Session) : Option Pass := session.passes[number]?.join

/-- Carries out a step, if the pass it belongs to is there. -/
def step? (step : Step) (session : Session) : Option (Report × Session) :=
  match step with
  | .opens source =>
      let pass := Pass.start session.configuration source
      let report := ⟨.opened session.passes.length, pass.source.asked, pass.log⟩
      some (report, { session with passes := session.passes ++ [some pass] })
  | .asks number operation => do
      let pass ← session.pass? number
      let (answer, after) := pass.apply operation
      let report := ⟨.answered answer, after.source.asked, after.log.drop pass.log.length⟩
      return (report, { session with passes := session.passes.set number (some after) })
  | .drops number => do
      let pass ← session.pass? number
      let report := ⟨.dropped, pass.source.asked, []⟩
      return (report, { session with passes := session.passes.set number none })

end Session
end GCode
