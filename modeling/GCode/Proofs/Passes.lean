import GCode.Pass

/-!
# What a pass produces

A pass gives the formatted statements of its source in order, up to the first "no more".  The
statement that it carries along never matters, so a whole program is formatted statement by
statement.
-/

namespace GCode

theorem Statement.format_previous (configuration : Configuration) (previous : Option Statement)
    (statement : Statement) :
    statement.format configuration previous = statement.format configuration none := by
  cases statement <;> rfl

namespace Source

/-- The statements before the next "no more". -/
def upcoming (source : Source) : Program :=
  (source.slots.takeWhile Option.isSome).filterMap id

theorem upcoming_of_none {source : Source} (ended : source.answer = none) :
    source.upcoming = [] := by
  obtain ⟨slots, hint, asked⟩ := source
  cases slots with
  | nil => rfl
  | cons slot slots =>
      have gap : slot = none := by simpa [answer] using ended
      simp [upcoming, gap]

theorem upcoming_of_some {source : Source} {statement : Statement}
    (given : source.answer = some statement) :
    source.upcoming = statement :: source.afterAnswer.upcoming := by
  obtain ⟨slots, hint, asked⟩ := source
  cases slots with
  | nil => simp [answer] at given
  | cons slot slots =>
      have filled : slot = some statement := by simpa [answer] using given
      simp [upcoming, afterAnswer, filled]

theorem length_upcoming_le (source : Source) : source.upcoming.length ≤ source.slots.length :=
  Nat.le_trans (List.length_filterMap_le _ _) (List.takeWhile_sublist _).length_le

theorem upcoming_ofProgram (program : Program) : (ofProgram program).upcoming = program := by
  induction program with
  | nil => rfl
  | cons statement program ih => simpa [upcoming, ofProgram] using ih

end Source

namespace Pass

theorem next_of_none {pass : Pass} (ended : pass.source.answer = none) :
    pass.next = (none, { pass with source := pass.source.afterAnswer }.noteEnd) := by
  simp only [next, ended]

theorem next_of_some {pass : Pass} {statement : Statement}
    (given : pass.source.answer = some statement) :
    pass.next =
      (some (statement.format pass.configuration pass.previous),
        { pass with source := pass.source.afterAnswer }.noteFormatted
          (statement.format pass.configuration pass.previous)) := by
  simp only [next, given]

/-- Taking statements gives the next statements of the source, formatted. -/
theorem take_fst (count : Nat) (pass : Pass) :
    (pass.take count).1 =
      (pass.source.upcoming.take count).map (Statement.format pass.configuration none) := by
  induction count generalizing pass with
  | zero => rfl
  | succ count ih =>
      cases answered : pass.source.answer with
      | none =>
          rw [take, next_of_none answered, Source.upcoming_of_none answered]
          rfl
      | some statement =>
          rw [take, next_of_some answered, Source.upcoming_of_some answered]
          simp only [ih, List.take_succ_cons, List.map_cons, noteFormatted, tell]
          rw [Statement.format_previous]

theorem rest_fst (pass : Pass) :
    pass.rest.1 = pass.source.upcoming.map (Statement.format pass.configuration none) := by
  rw [rest, take_fst, List.take_of_length_le]
  exact Nat.le_succ_of_le pass.source.length_upcoming_le

end Pass

/-- Formatting a program formats each of its statements. -/
theorem Program.format_eq_map (configuration : Configuration) (program : Program) :
    program.format configuration = program.map (Statement.format configuration none) := by
  have produced := (Pass.start configuration (.ofProgram program)).rest_fst
  rwa [Pass.start, Source.upcoming_ofProgram] at produced

end GCode
