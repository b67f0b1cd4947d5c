import GCode.Proofs.Passes
import Mathlib.Logic.Basic

/-!
# What a pass asks for

Every operation on a pass is a number of calls of `Pass.next`, which ask the source once each and
stop at the first "no more".  So a pass answers like a source whose statements have all been
formatted beforehand, and asks as often: `Pass.run_refines_serve`.
-/

namespace GCode
namespace Source

/-- The source after a number of requests. -/
def advance (count : Nat) (source : Source) : Source :=
  { source with slots := source.slots.drop count, asked := source.asked + count }

/-- The answers to the next requests. -/
def answers : (count : Nat) → Source → List (Option Statement)
  | 0, _ => []
  | count + 1, source => source.answer :: answers count source.afterAnswer

/-- The statements among the answers to the next requests. -/
def given (count : Nat) (source : Source) : Program := (source.answers count).filterMap id

/-- The source with all its statements formatted. -/
def formatted (configuration : Configuration) (source : Source) : Source :=
  { source with slots := source.slots.map (Option.map (Statement.format configuration none)) }

theorem advance_succ (count : Nat) (source : Source) :
    source.advance (count + 1) = source.afterAnswer.advance count := by
  simp only [advance, afterAnswer, List.drop_tail]
  congr 1
  omega

theorem answers_succ (count : Nat) (source : Source) :
    source.answers (count + 1) = source.answers count ++ [(source.advance count).answer] := by
  induction count generalizing source with
  | zero => rfl
  | succ count ih =>
      have later := ih source.afterAnswer
      rw [answers, later, answers, advance_succ, List.cons_append]

/-- Before the next "no more" every answer is a statement. -/
theorem none_notMem_answers {count : Nat} {source : Source}
    (ready : count ≤ source.upcoming.length) : none ∉ source.answers count := by
  induction count generalizing source with
  | zero => exact List.not_mem_nil
  | succ count ih =>
      cases answered : source.answer with
      | none => simp [upcoming_of_none answered] at ready
      | some statement =>
          rw [upcoming_of_some answered, List.length_cons] at ready
          simpa [answers, answered] using ih (Nat.le_of_succ_le_succ ready)

theorem given_succ (count : Nat) (source : Source) :
    source.given (count + 1) = source.answer.toList ++ source.afterAnswer.given count := by
  rw [given, answers]
  cases source.answer <;> rfl

theorem statements_eq_append (source : Source) :
    source.statements = source.answer.toList ++ source.afterAnswer.statements := by
  obtain ⟨slots, hint, asked⟩ := source
  rcases slots with _ | ⟨_ | statement, slots⟩ <;> rfl

/-- The statements given so far are the first of all that a source has. -/
theorem given_eq_take (count : Nat) (source : Source) :
    source.given count = source.statements.take (source.given count).length := by
  induction count generalizing source with
  | zero => rfl
  | succ count ih =>
      rw [given_succ, statements_eq_append, List.length_append, List.take_length_add_append,
        ← ih source.afterAnswer]

theorem answer_of_slots_eq_nil {source : Source} (ended : source.slots = []) :
    source.answer = none := by
  rw [answer, ended]
  rfl

section Formatted

variable (configuration : Configuration) (source : Source)

theorem upcoming_formatted :
    (source.formatted configuration).upcoming =
      source.upcoming.map (Statement.format configuration none) := by
  obtain ⟨slots, hint, asked⟩ := source
  simp only [upcoming, formatted]
  induction slots with
  | nil => rfl
  | cons slot slots ih =>
      cases slot with
      | none => rfl
      | some statement => simpa using ih

theorem advance_formatted (count : Nat) :
    (source.formatted configuration).advance count =
      (source.advance count).formatted configuration := by
  simp only [advance, formatted, List.map_drop]

theorem sizeHint_formatted : (source.formatted configuration).sizeHint = source.sizeHint := by
  simp only [sizeHint, formatted, List.length_map]

end Formatted
end Source

namespace Pass

/-- The answers to a number of calls of `next`, and the pass behind them. -/
def nexts : (count : Nat) → Pass → List (Option Statement) × Pass
  | 0, pass => ([], pass)
  | count + 1, pass =>
      let called := pass.next
      let later := nexts count called.2
      (called.1 :: later.1, later.2)

/-! ## Calls of `next` -/

@[simp] theorem source_noteEnd (pass : Pass) : pass.noteEnd.source = pass.source := by
  rw [noteEnd]
  split <;> rfl

@[simp] theorem configuration_noteEnd (pass : Pass) :
    pass.noteEnd.configuration = pass.configuration := by
  rw [noteEnd]
  split <;> rfl

@[simp] theorem produced_noteEnd (pass : Pass) : pass.noteEnd.produced = pass.produced := by
  rw [noteEnd]
  split <;> rfl

theorem source_next (pass : Pass) : pass.next.2.source = pass.source.afterAnswer := by
  cases answered : pass.source.answer with
  | none => rw [next_of_none answered, source_noteEnd]
  | some statement => rw [next_of_some answered]; rfl

theorem configuration_next (pass : Pass) : pass.next.2.configuration = pass.configuration := by
  cases answered : pass.source.answer with
  | none => rw [next_of_none answered, configuration_noteEnd]
  | some statement => rw [next_of_some answered]; rfl

theorem produced_next (pass : Pass) :
    pass.next.2.produced = pass.produced + pass.source.answer.toList.length := by
  cases answered : pass.source.answer with
  | none => rw [next_of_none answered, produced_noteEnd]; rfl
  | some statement => rw [next_of_some answered]; rfl

theorem next_fst (pass : Pass) :
    pass.next.1 = pass.source.answer.map (Statement.format pass.configuration none) := by
  cases answered : pass.source.answer with
  | none => rw [next_of_none answered]; rfl
  | some statement =>
      rw [next_of_some answered, Statement.format_previous]
      rfl

theorem nexts_succ_snd (count : Nat) (pass : Pass) :
    (pass.nexts (count + 1)).2 = (pass.next.2.nexts count).2 := rfl

theorem nexts_add (first second : Nat) (pass : Pass) :
    (pass.nexts (first + second)).2 = ((pass.nexts first).2.nexts second).2 := by
  induction first generalizing pass with
  | zero => rw [Nat.zero_add]; rfl
  | succ first ih =>
      rw [Nat.add_right_comm, nexts_succ_snd, nexts_succ_snd, ih]

theorem source_nexts (count : Nat) (pass : Pass) :
    (pass.nexts count).2.source = pass.source.advance count := by
  induction count generalizing pass with
  | zero => rfl
  | succ count ih => rw [nexts_succ_snd, ih, source_next, Source.advance_succ]

theorem configuration_nexts (count : Nat) (pass : Pass) :
    (pass.nexts count).2.configuration = pass.configuration := by
  induction count generalizing pass with
  | zero => rfl
  | succ count ih => rw [nexts_succ_snd, ih, configuration_next]

theorem produced_nexts (count : Nat) (pass : Pass) :
    (pass.nexts count).2.produced = pass.produced + (pass.source.given count).length := by
  induction count generalizing pass with
  | zero => rfl
  | succ count ih =>
      rw [nexts_succ_snd, ih, produced_next, source_next, Source.given_succ, List.length_append,
        Nat.add_assoc]

theorem nexts_fst (count : Nat) (pass : Pass) :
    (pass.nexts count).1 =
      (pass.source.answers count).map (Option.map (Statement.format pass.configuration none)) := by
  induction count generalizing pass with
  | zero => rfl
  | succ count ih =>
      rw [nexts, Source.answers, List.map_cons, ih, next_fst, source_next, configuration_next]

/-- The statements that come out are the first ones of the source, each formatted by itself. -/
theorem filterMap_nexts (count : Nat) (pass : Pass) (previous : Option Statement) :
    (pass.nexts count).1.filterMap id =
      (pass.source.given count).map (Statement.format pass.configuration previous) := by
  have alone : Statement.format pass.configuration previous =
      Statement.format pass.configuration none :=
    funext fun statement => statement.format_previous pass.configuration previous
  rw [nexts_fst, Source.given, alone, List.filterMap_map, List.map_filterMap]
  rfl

/-! ## Operations as calls of `next` -/

namespace Operation

/-- How often an operation asks a source that has `ready` statements before its next "no more". -/
def requests (ready : Nat) : Operation → Nat
  | next => 1
  | nth skipped => min (skipped + 1) (ready + 1)
  | take most => min most (ready + 1)
  | rest => ready + 1
  | count => ready + 1
  | last => ready + 1
  | sizeHint => 0
  | size => 0

/-- What an operation answers from a size estimate and from the statements that are `ready` before
the next "no more". -/
def reply (hint : SizeHint) (ready : List Statement) : Operation → Answer
  | next => .statement ready.head?
  | nth skipped => .statement ready[skipped]?
  | take most => .statements (ready.take most)
  | rest => .statements ready
  | count => .count ready.length
  | last => .statement ready.getLast?
  | sizeHint => .sizeHint hint
  | size => .size hint.size?

/-- No operation asks on behind a "no more". -/
theorem requests_le (ready : Nat) (operation : Operation) :
    operation.requests ready ≤ ready + 1 := by
  cases operation <;> simp only [requests] <;> omega

/-- The answers to some operations in a row, and the state behind them. -/
def run {State : Type} (step : Operation → State → Answer × State) :
    List Operation → State → List Answer × State
  | [], state => ([], state)
  | operation :: operations, state =>
      let answered := step operation state
      let later := run step operations answered.2
      (answered.1 :: later.1, later.2)

end Operation

theorem take_snd (count : Nat) (pass : Pass) :
    (pass.take count).2 = (pass.nexts (min count (pass.source.upcoming.length + 1))).2 := by
  induction count generalizing pass with
  | zero => rw [Nat.zero_min]; rfl
  | succ count ih =>
      cases answered : pass.source.answer with
      | none =>
          rw [take, Source.upcoming_of_none answered, List.length_nil, Nat.zero_add,
            Nat.min_eq_right (Nat.succ_pos count), nexts_succ_snd, next_of_none answered]
          rfl
      | some statement =>
          have inner := ih pass.next.2
          rw [source_next, next_of_some answered] at inner
          rw [take, next_of_some answered, Source.upcoming_of_some answered, List.length_cons,
            Nat.add_min_add_right, nexts_succ_snd, next_of_some answered]
          exact inner

/-- Skipping statements takes them and answers with the one behind. -/
theorem nth_eq_take (count : Nat) (pass : Pass) :
    pass.nth count = ((pass.take (count + 1)).1[count]?, (pass.take (count + 1)).2) := by
  induction count generalizing pass with
  | zero =>
      rw [nth, take]
      rcases pass.next with ⟨_ | statement, after⟩ <;> rfl
  | succ count ih =>
      rw [nth, take]
      rcases pass.next with ⟨_ | statement, after⟩
      · rfl
      · exact ih after

theorem nth_fst (count : Nat) (pass : Pass) :
    (pass.nth count).1 =
      (pass.source.upcoming.map (Statement.format pass.configuration none))[count]? := by
  rw [nth_eq_take, take_fst, List.map_take, List.getElem?_take_of_lt (Nat.lt_succ_self count)]

theorem nth_snd (count : Nat) (pass : Pass) :
    (pass.nth count).2 = (pass.nexts (min (count + 1) (pass.source.upcoming.length + 1))).2 := by
  rw [nth_eq_take, take_snd]

theorem rest_snd (pass : Pass) :
    pass.rest.2 = (pass.nexts (pass.source.upcoming.length + 1)).2 := by
  rw [rest, take_snd, Nat.min_eq_right]
  exact Nat.succ_le_succ pass.source.length_upcoming_le

/-- An operation answers from the statements before the next "no more", and calls `next` as often
as it asks for them. -/
theorem apply_eq (operation : Operation) (pass : Pass) :
    pass.apply operation =
      (operation.reply pass.source.sizeHint
          (pass.source.upcoming.map (Statement.format pass.configuration none)),
        (pass.nexts (operation.requests pass.source.upcoming.length)).2) := by
  cases operation with
  | next =>
      rw [Operation.reply, List.head?_eq_getElem?, ← nth_fst]
      rfl
  | nth skipped =>
      rw [Operation.reply, ← nth_fst, Operation.requests, ← nth_snd]
      rfl
  | take most =>
      rw [Operation.reply, ← List.map_take, ← take_fst, Operation.requests, ← take_snd]
      rfl
  | rest =>
      rw [Operation.reply, ← rest_fst, Operation.requests, ← rest_snd]
      rfl
  | count =>
      rw [Operation.reply, ← rest_fst, Operation.requests, ← rest_snd]
      rfl
  | last =>
      rw [Operation.reply, ← rest_fst, Operation.requests, ← rest_snd]
      rfl
  | sizeHint => rfl
  | size => rfl

end Pass

/-- How a source itself answers an operation, as a pass does that changes no statement. -/
def Source.serve (operation : Pass.Operation) (source : Source) : Pass.Answer × Source :=
  (operation.reply source.sizeHint source.upcoming,
    source.advance (operation.requests source.upcoming.length))

namespace Pass

/-- An operation on a pass is the same operation on the source whose statements are formatted. -/
theorem apply_refines_serve (operation : Operation) (pass : Pass) :
    (pass.apply operation).1 =
        ((pass.source.formatted pass.configuration).serve operation).1 ∧
      (pass.apply operation).2.source.formatted pass.configuration =
        ((pass.source.formatted pass.configuration).serve operation).2 := by
  rw [apply_eq, Source.serve, Source.upcoming_formatted, Source.sizeHint_formatted,
    List.length_map, source_nexts, Source.advance_formatted]
  exact ⟨rfl, rfl⟩

theorem configuration_apply (operation : Operation) (pass : Pass) :
    (pass.apply operation).2.configuration = pass.configuration := by
  rw [apply_eq, configuration_nexts]

theorem run_refines_serve (operations : List Operation) (pass : Pass) :
    (Operation.run apply operations pass).1 =
        (Operation.run Source.serve operations (pass.source.formatted pass.configuration)).1 ∧
      (Operation.run apply operations pass).2.source.formatted pass.configuration =
        (Operation.run Source.serve operations (pass.source.formatted pass.configuration)).2 := by
  induction operations generalizing pass with
  | nil => exact ⟨rfl, rfl⟩
  | cons operation operations ih =>
      obtain ⟨answered, after⟩ := apply_refines_serve operation pass
      have later := ih (pass.apply operation).2
      rw [configuration_apply, after] at later
      exact ⟨congrArg₂ List.cons answered later.1, later.2⟩

/-- Whatever is asked of a pass, it has gone on by a number of calls of `next`. -/
theorem exists_run_eq_nexts (operations : List Operation) (pass : Pass) :
    ∃ calls, (Operation.run apply operations pass).2 = (pass.nexts calls).2 := by
  induction operations generalizing pass with
  | nil => exact ⟨0, rfl⟩
  | cons operation operations ih =>
      obtain ⟨calls, later⟩ := ih (pass.apply operation).2
      refine ⟨operation.requests pass.source.upcoming.length + calls, ?_⟩
      rw [nexts_add, Operation.run, later, apply_eq]

/-- After any operations, a new pass is as far as its calls of `next` have brought it. -/
theorem exists_run_start (configuration : Configuration) (source : Source)
    (operations : List Operation) :
    ∃ calls,
      let opened := start configuration source
      let pass := (Operation.run apply operations opened).2
      pass = (opened.nexts calls).2 ∧ pass.source = source.advance calls ∧
        pass.produced = (source.given calls).length := by
  obtain ⟨calls, ran⟩ := exists_run_eq_nexts operations (start configuration source)
  refine ⟨calls, ran, ?_, ?_⟩
  · rw [ran, source_nexts]
    rfl
  · rw [ran, produced_nexts]
    exact Nat.zero_add _

/-- The calls of `next` that an operation makes all get a statement, except possibly the last. -/
theorem none_notMem_dropLast_nexts (operation : Operation) (pass : Pass) :
    none ∉ (pass.nexts (operation.requests pass.source.upcoming.length)).1.dropLast := by
  have bound := operation.requests_le pass.source.upcoming.length
  rw [nexts_fst]
  cases count : operation.requests pass.source.upcoming.length with
  | zero => exact List.not_mem_nil
  | succ before =>
      -- The calls before the last stay among the statements that are ready.
      have ready : before ≤ pass.source.upcoming.length := by omega
      rw [Source.answers_succ, List.map_append, List.map_singleton, List.dropLast_concat]
      simpa using Source.none_notMem_answers ready

theorem next_of_slots_eq_nil {pass : Pass} (ended : pass.source.slots = []) :
    pass.next.1 = none ∧ pass.next.2.source.asked = pass.source.asked + 1 := by
  rw [next_fst, source_next, Source.answer_of_slots_eq_nil ended]
  exact ⟨rfl, rfl⟩

/-- Whatever is asked of a pass over a source, it answers as the source with all statements
formatted would, and asks as often.  One call of `next` stands behind each request, and an
operation makes no call after a "no more".  The statements that come out are the first ones of the
source, each formatted no matter what came before it.  Behind the end each call still asks. -/
theorem run_refines_formatted (configuration : Configuration) (source : Source)
    (operations : List Operation) :
    let opened := start configuration source
    let pass := (Operation.run apply operations opened).2
    let eager := Operation.run Source.serve operations (source.formatted configuration)
    ((Operation.run apply operations opened).1 = eager.1 ∧
        pass.source.asked = eager.2.asked) ∧
      (∃ calls, pass = (opened.nexts calls).2 ∧ pass.source = source.advance calls ∧
        ∀ previous, (opened.nexts calls).1.filterMap id =
          (source.statements.take pass.produced).map (Statement.format configuration previous)) ∧
      (∀ operation : Operation,
        let called := pass.nexts (operation.requests pass.source.upcoming.length)
        (pass.apply operation).2 = called.2 ∧ none ∉ called.1.dropLast) ∧
      (pass.source.slots = [] →
        pass.next.1 = none ∧ pass.next.2.source.asked = pass.source.asked + 1) := by
  intro opened pass eager
  have refines : (Operation.run apply operations opened).1 = eager.1 ∧
      pass.source.formatted configuration = eager.2 := run_refines_serve operations opened
  have asks : (pass.source.formatted configuration).asked = eager.2.asked := by rw [refines.2]
  refine ⟨⟨refines.1, asks⟩, ?_, ?_, next_of_slots_eq_nil⟩
  · obtain ⟨calls, ran, asked, count⟩ := exists_run_start configuration source operations
    refine ⟨calls, ran, asked, fun previous => ?_⟩
    have first : source.given calls = source.statements.take pass.produced :=
      count ▸ source.given_eq_take calls
    rw [filterMap_nexts, ← first]
    rfl
  · intro operation
    exact ⟨congrArg Prod.snd (apply_eq operation pass), none_notMem_dropLast_nexts operation pass⟩

end Pass
end GCode
