import GCode.Proofs.Requests
import GCode.Session

/-!
# Interleaved passes

The passes of a session share its configuration and nothing else.  However their steps are
interleaved, each pass reports what it would report in a session of its own:
`Session.run_independent`.
-/

namespace GCode
namespace Session

namespace Step

/-- The pass that a step belongs to, when `opened` passes have been opened before. -/
def pass (opened : Nat) : Step → Nat
  | opens _ => opened
  | asks pass _ => pass
  | drops pass => pass

/-- How many passes have been opened after a step. -/
def openedAfter (opened : Nat) : Step → Nat
  | opens _ => opened + 1
  | asks .. => opened
  | drops _ => opened

/-- The same step in a session that has no other pass. -/
def alone : Step → Step
  | opens source => opens source
  | asks _ operation => asks 0 operation
  | drops _ => drops 0

end Step

/-- The steps of one pass in their order, as the steps of a session of its own. -/
def ownSteps (number : Nat) : (opened : Nat) → List Step → List Step
  | _, [] => []
  | opened, step :: steps =>
      let later := ownSteps number (step.openedAfter opened) steps
      if step.pass opened = number then step.alone :: later else later

/-- Carries out a step.  A step of a pass that is not there changes nothing and is not reported. -/
def advance (step : Step) (session : Session) : Option Report × Session :=
  match session.step? step with
  | some (report, after) => (some report, after)
  | none => (none, session)

/-- What is reported of some steps in a row, each time beside the number of the pass, and the
session behind them. -/
def run : List Step → Session → List (Nat × Option Report) × Session
  | [], session => ([], session)
  | step :: steps, session =>
      let advanced := session.advance step
      let later := run steps advanced.2
      ((step.pass session.passes.length, advanced.1) :: later.1, later.2)

/-- What is reported of the steps of one pass. -/
def reportsOf (number : Nat) (reports : List (Nat × Option Report)) : List (Option Report) :=
  (reports.filter fun entry => entry.1 = number).map Prod.snd

/-- The report that a pass gives when it is opened as the pass with a number. -/
def Report.numbered (number : Nat) (report : Report) : Report :=
  match report.outcome with
  | .opened _ => { report with outcome := .opened number }
  | .answered _ => report
  | .dropped => report

/-- The session that has only the pass with a number, or none if that has not been opened. -/
def only (number : Nat) (session : Session) : Session :=
  ⟨session.configuration, session.passes[number]?.toList⟩

/-- Lets a pass that is there act, which gives a report and what is left of the pass. -/
def turn (number : Nat) (act : Pass → Report × Option Pass) (session : Session) :
    Option Report × Session :=
  match session.pass? number with
  | none => (none, session)
  | some pass =>
      (some (act pass).1, { session with passes := session.passes.set number (act pass).2 })

/-- A pass carries out an operation. -/
def answering (operation : Pass.Operation) (pass : Pass) : Report × Option Pass :=
  let answered := pass.apply operation
  (⟨.answered answered.1, answered.2.source.asked, answered.2.log.drop pass.log.length⟩,
    some answered.2)

/-- A pass goes. -/
def dropping (pass : Pass) : Report × Option Pass := (⟨.dropped, pass.source.asked, []⟩, none)

theorem reportsOf_cons (number : Nat) (entry : Nat × Option Report)
    (reports : List (Nat × Option Report)) :
    reportsOf number (entry :: reports) =
      if entry.1 = number then entry.2 :: reportsOf number reports
      else reportsOf number reports := by
  by_cases own : entry.1 = number <;> simp [reportsOf, own]

/-! ## One step -/

section Steps

variable (session : Session) {number : Nat}

theorem advance_opens (source : Source) :
    session.advance (.opens source) =
      (some ⟨.opened session.passes.length, source.asked, [.started session.configuration]⟩,
        { session with
          passes := session.passes ++ [some (Pass.start session.configuration source)] }) := rfl

theorem advance_asks (number : Nat) (operation : Pass.Operation) :
    session.advance (.asks number operation) = session.turn number (answering operation) := by
  rw [advance, turn, step?]
  cases session.pass? number <;> rfl

theorem advance_drops (number : Nat) :
    session.advance (.drops number) = session.turn number dropping := by
  rw [advance, turn, step?]
  cases session.pass? number <;> rfl

theorem pass?_only (number : Nat) : (session.only number).pass? 0 = session.pass? number := by
  rw [only, pass?, pass?]
  cases session.passes[number]? <;> rfl

theorem length_turn (number : Nat) (act : Pass → Report × Option Pass) :
    (session.turn number act).2.passes.length = session.passes.length := by
  rw [turn]
  split
  · rfl
  · exact List.length_set

theorem only_turn_of_ne {other : Nat} (different : other ≠ number)
    (act : Pass → Report × Option Pass) :
    (session.turn other act).2.only number = session.only number := by
  rw [turn]
  split
  · rfl
  · simp only [only, List.getElem?_set_ne different]

/-- A pass acts in the same way without the others. -/
theorem turn_only (number : Nat) (act : Pass → Report × Option Pass) :
    (session.turn number act).1 = ((session.only number).turn 0 act).1 ∧
      (session.turn number act).2.only number = ((session.only number).turn 0 act).2 := by
  rw [turn, turn, pass?_only]
  cases session.pass? number with
  | none => exact ⟨rfl, rfl⟩
  | some pass =>
      refine ⟨rfl, ?_⟩
      simp only [only, List.getElem?_set_self']
      cases session.passes[number]? <;> rfl

/-- Only a report of an opening holds the number of a pass. -/
theorem numbered_turn {act : Pass → Report × Option Pass}
    (silent : ∀ pass, (act pass).1.numbered number = (act pass).1) :
    (session.turn 0 act).1.map (Report.numbered number) = (session.turn 0 act).1 := by
  rw [turn]
  split
  · rfl
  · exact congrArg some (silent _)

theorem length_advance (step : Step) :
    (session.advance step).2.passes.length = step.openedAfter session.passes.length := by
  cases step with
  | opens source => rw [advance_opens]; exact List.length_append
  | asks pass operation => rw [advance_asks, length_turn]; rfl
  | drops pass => rw [advance_drops, length_turn]; rfl

/-- A step of another pass is not noticed. -/
theorem only_advance_of_ne {step : Step} (other : step.pass session.passes.length ≠ number) :
    (session.advance step).2.only number = session.only number := by
  cases step with
  | opens source =>
      have elsewhere : session.passes.length ≠ number := other
      rw [advance_opens, only, only]
      congr 2
      rcases Nat.lt_or_gt_of_ne elsewhere with before | after
      · rw [List.getElem?_eq_none, List.getElem?_eq_none (Nat.le_of_lt before)]
        rw [List.length_append, List.length_singleton]
        exact before
      · exact List.getElem?_append_left after
  | asks pass operation => rw [advance_asks]; exact only_turn_of_ne session other _
  | drops pass => rw [advance_drops]; exact only_turn_of_ne session other _

/-- A step of a pass goes as it would go if there were no other pass. -/
theorem advance_only {step : Step} (own : step.pass session.passes.length = number) :
    (session.advance step).1 =
        ((session.only number).advance step.alone).1.map (Report.numbered number) ∧
      (session.advance step).2.only number = ((session.only number).advance step.alone).2 := by
  subst own
  cases step with
  | opens source => simp [Step.pass, Step.alone, advance_opens, only, Report.numbered]
  | asks pass operation =>
      rw [Step.alone, advance_asks, advance_asks, numbered_turn _ fun _ => rfl]
      exact session.turn_only pass (answering operation)
  | drops pass =>
      rw [Step.alone, advance_drops, advance_drops, numbered_turn _ fun _ => rfl]
      exact session.turn_only pass dropping

end Steps

/-! ## Runs -/

/-- Whatever else goes on in a session, a pass reports what it reports without it. -/
theorem run_only (number : Nat) (steps : List Step) (session : Session) :
    let own := run (ownSteps number session.passes.length steps) (session.only number)
    reportsOf number (run steps session).1 =
        own.1.map (fun entry => entry.2.map (Report.numbered number)) ∧
      (run steps session).2.only number = own.2 := by
  -- The lone session is always what `only` leaves of the whole one, so a step of the pass moves
  -- both and any other step moves neither.
  induction steps generalizing session with
  | nil => exact ⟨rfl, rfl⟩
  | cons step steps ih =>
      obtain ⟨reports, after⟩ := ih (session.advance step).2
      rw [length_advance] at reports after
      simp only [run, ownSteps, reportsOf_cons]
      by_cases own : step.pass session.passes.length = number
      · obtain ⟨reported, left⟩ := advance_only session own
        rw [left] at reports after
        simp only [own, if_true, run, List.map_cons, reports, reported]
        exact ⟨trivial, after⟩
      · have left := only_advance_of_ne session own
        rw [left] at reports after
        simp only [own, if_false, reports]
        exact ⟨trivial, after⟩

example :
    (run [.opens (.ofProgram [.endOfFile []]), .opens { slots := [] }, .asks 0 .next, .asks 1 .next,
        .drops 0, .asks 0 .next] (start .standard)).1.map
      (fun entry => (entry.1, entry.2.map Report.log)) =
    [(0, some [.started .standard]), (1, some [.started .standard]), (0, some [.formatted 0]),
      (1, some [.finished 0]), (0, some []), (0, none)] := by
  decide +kernel

/-- Without other passes, a pass answers what it is asked one operation after the other. -/
theorem run_asks (configuration : Configuration) (operations : List Pass.Operation) (pass : Pass) :
    let asked := run (operations.map (Step.asks 0)) ⟨configuration, [some pass]⟩
    let answered := Pass.Operation.run Pass.apply operations pass
    asked.1.map (fun entry => entry.2.map Report.outcome) =
        answered.1.map (fun answer => some (.answered answer)) ∧
      asked.2.pass? 0 = some answered.2 := by
  induction operations generalizing pass with
  | nil => exact ⟨rfl, rfl⟩
  | cons operation operations ih =>
      obtain ⟨answers, after⟩ := ih (pass.apply operation).2
      exact ⟨congrArg _ answers, after⟩

theorem map_numbered_numbered (number other : Nat) (report : Option Report) :
    (report.map (Report.numbered other)).map (Report.numbered number) =
      report.map (Report.numbered number) := by
  rcases report with _ | ⟨_ | _ | _, asked, log⟩ <;> rfl

/-- Passes do not interfere.  However the steps of a session are interleaved, a pass reports what it
reports in a session of its own, and is left in the same state.  So two interleavings that hold the
same steps of a pass in the same order make it report the same, also if they number it differently.
In a session of its own a pass answers what it is asked one operation after the other. -/
theorem run_independent (configuration : Configuration) :
    (∀ steps number,
      let together := run steps (start configuration)
      let alone := run (ownSteps number 0 steps) (start configuration)
      reportsOf number together.1 =
          alone.1.map (fun entry => entry.2.map (Report.numbered number)) ∧
        together.2.pass? number = alone.2.pass? 0) ∧
      (∀ first second number other, ownSteps number 0 first = ownSteps other 0 second →
        reportsOf number (run first (start configuration)).1 =
          (reportsOf other (run second (start configuration)).1).map
            (Option.map (Report.numbered number))) ∧
      ∀ source operations,
        let alone := run (.opens source :: operations.map (.asks 0)) (start configuration)
        let answered := Pass.Operation.run Pass.apply operations (.start configuration source)
        alone.1.map (fun entry => entry.2.map Report.outcome) =
            some (.opened 0) :: answered.1.map (fun answer => some (.answered answer)) ∧
          alone.2.pass? 0 = some answered.2 := by
  have projected : ∀ steps number,
      reportsOf number (run steps (start configuration)).1 =
          (run (ownSteps number 0 steps) (start configuration)).1.map
            (fun entry => entry.2.map (Report.numbered number)) ∧
        (run steps (start configuration)).2.only number =
          (run (ownSteps number 0 steps) (start configuration)).2 :=
    fun steps number => run_only number steps (start configuration)
  refine ⟨?_, ?_, ?_⟩
  · intro steps number together alone
    obtain ⟨reports, after⟩ := projected steps number
    exact ⟨reports, by rw [← pass?_only, after]⟩
  · intro first second number other same
    rw [(projected first number).1, (projected second other).1, same, List.map_map]
    exact List.map_congr_left fun entry _ => (map_numbered_numbered number other entry.2).symm
  · intro source operations alone answered
    obtain ⟨answers, after⟩ := run_asks configuration operations (.start configuration source)
    exact ⟨congrArg (some (Outcome.opened 0) :: ·) answers, after⟩

end Session
end GCode
