import GCode.Proofs.Requests

/-!
# What is left of a pass

A pass over a program always has the rest of the program before it, behind as many statements as it
has produced.  So its size estimate is exact at any time, whatever has been asked of it before:
`Pass.size_run`.
-/

namespace GCode
namespace Pass

/-- A pass stands in a program behind the statements that it has produced. -/
structure StandsIn (program : Program) (pass : Pass) : Prop where
  /-- No more statements have been produced than the program has. -/
  produced_le : pass.produced ≤ program.length
  /-- The source has the others still to give. -/
  slots : pass.source.slots = (program.drop pass.produced).map some
  /-- The source estimates its size by counting. -/
  counts : pass.source.fixedHint = none

theorem standsIn_start (configuration : Configuration) (program : Program) :
    (start configuration (.ofProgram program)).StandsIn program where
  produced_le := Nat.zero_le _
  slots := rfl
  counts := rfl

namespace StandsIn

variable {program : Program} {pass : Pass}

/-- A call of `next` goes on by one statement, if there is one left. -/
theorem next (stands : pass.StandsIn program) : pass.next.2.StandsIn program := by
  cases left : program.drop pass.produced with
  | nil =>
      have ended : pass.source.slots = [] := by rw [stands.slots, left, List.map_nil]
      rw [next_of_none (Source.answer_of_slots_eq_nil ended)]
      refine { produced_le := ?_, slots := ?_, counts := ?_ }
      · rw [produced_noteEnd]
        exact stands.produced_le
      · rw [produced_noteEnd, source_noteEnd, Source.afterAnswer, ended, left]
        rfl
      · rw [source_noteEnd]
        exact stands.counts
  | cons statement later =>
      have given : pass.source.answer = some statement := by
        rw [Source.answer, stands.slots, left]
        rfl
      have within : pass.produced < program.length := by
        have positive := congrArg List.length left
        rw [List.length_drop, List.length_cons] at positive
        omega
      rw [next_of_some given]
      refine { produced_le := within, slots := ?_, counts := stands.counts }
      change pass.source.slots.tail = (program.drop (pass.produced + 1)).map some
      rw [stands.slots, ← List.map_tail, List.tail_drop]

theorem nexts (stands : pass.StandsIn program) (count : Nat) :
    (pass.nexts count).2.StandsIn program := by
  induction count generalizing pass with
  | zero => exact stands
  | succ count ih => exact ih stands.next

theorem sizeHint_eq (stands : pass.StandsIn program) :
    pass.sizeHint = .exactly (program.length - pass.produced) := by
  rw [sizeHint, Source.sizeHint, stands.counts, Option.getD_none, stands.slots, List.length_map,
    List.length_drop]

theorem rest_fst (stands : pass.StandsIn program) :
    pass.rest.1 =
      (program.drop pass.produced).map (Statement.format pass.configuration none) := by
  have ready : pass.source.upcoming = (program.drop pass.produced) := by
    rw [Source.upcoming, stands.slots]
    exact Source.upcoming_ofProgram _
  rw [Pass.rest_fst, ready]

end StandsIn

/-- At any time the statements that a pass has produced and those that it has left make up the
program.  Its size estimate is the exact number of those left, which are as many as it would still
give and count. -/
theorem size_run (configuration : Configuration) (program : Program)
    (operations : List Operation) :
    let opened := start configuration (.ofProgram program)
    let pass := (Operation.run apply operations opened).2
    let left := program.length - pass.produced
    (∃ calls, pass = (opened.nexts calls).2 ∧
        pass.produced = ((opened.nexts calls).1.filterMap id).length) ∧
      pass.produced + left = program.length ∧
      pass.sizeHint = ⟨left, some left⟩ ∧ pass.sizeHint.size? = some left ∧
      pass.rest.1.length = left ∧ pass.count.1 = left := by
  intro opened pass left
  obtain ⟨calls, ran, -, produced⟩ :=
    exists_run_start configuration (.ofProgram program) operations
  have going : pass = (opened.nexts calls).2 := ran
  have stands : pass.StandsIn program := by
    rw [going]
    exact (standsIn_start configuration program).nexts calls
  have rest : pass.rest.1.length = left := by
    rw [stands.rest_fst, List.length_map, List.length_drop]
  refine ⟨⟨calls, going, ?_⟩, Nat.add_sub_cancel' stands.produced_le, stands.sizeHint_eq, ?_, rest,
    rest⟩
  · rw [filterMap_nexts _ _ none, List.length_map]
    exact produced
  · rw [stands.sizeHint_eq, SizeHint.exactly, SizeHint.size?, if_pos rfl]

example :
    let operations := [.next, .rest, .next, .nth 3]
    let opened := start .standard (.ofProgram [.endOfFile [], .endOfFile []])
    (Operation.run apply operations opened).2.sizeHint = .exactly 0 := by
  decide +kernel

end Pass
end GCode
