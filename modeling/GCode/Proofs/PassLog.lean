import GCode.Proofs.Requests

/-!
# What a pass tells

The log of a pass is settled by the answers of its source.  It numbers the formatted statements
from zero on, across gaps, and puts the end of the pass where the source first answers "no more":
`Pass.log_nexts` says so for calls of `next`, and `Pass.log_run` for all operations.
-/

namespace GCode
namespace Pass

/-- What a pass tells while its source gives some answers. -/
def told : (finished : Bool) → (produced : Nat) → List (Option Statement) → List Event
  | _, _, [] => []
  | finished, produced, some _ :: answers =>
      .formatted produced :: told finished (produced + 1) answers
  | true, produced, none :: answers => told true produced answers
  | false, produced, none :: answers => .finished produced :: told true produced answers

theorem log_nexts (count : Nat) (pass : Pass) :
    (pass.nexts count).2.log =
      pass.log ++ told pass.finished pass.produced (pass.source.answers count) := by
  induction count generalizing pass with
  | zero => exact (List.append_nil _).symm
  | succ count ih =>
      rw [nexts_succ_snd, ih, source_next, Source.answers]
      cases answered : pass.source.answer with
      | some statement =>
          rw [next_of_some answered, told]
          simp [noteFormatted, tell]
      | none =>
          rw [next_of_none answered]
          by_cases ended : pass.finished = true
          · simp [noteEnd, ended, told]
          · simp [noteEnd, ended, tell, told]

/-- After the end has been told, only formatted statements are. -/
theorem told_true (produced : Nat) (answers : List (Option Statement)) :
    told true produced answers =
      (List.range' produced (answers.filterMap id).length).map .formatted := by
  induction answers generalizing produced with
  | nil => rfl
  | cons answer answers ih =>
      cases answer with
      | none => rw [told, ih]; rfl
      | some statement => rw [told, ih]; rfl

theorem told_append {before : List (Option Statement)} (filled : none ∉ before) (finished : Bool)
    (produced : Nat) (after : List (Option Statement)) :
    told finished produced (before ++ after) =
      (List.range' produced before.length).map .formatted ++
        told finished (produced + before.length) after := by
  induction before generalizing produced with
  | nil => rfl
  | cons answer before ih =>
      rw [List.mem_cons, not_or] at filled
      cases answer with
      | none => exact absurd rfl filled.1
      | some statement =>
          rw [List.cons_append, told, ih filled.2, List.length_cons, List.range'_succ,
            List.map_cons, List.cons_append, Nat.add_right_comm, Nat.add_assoc]

theorem length_filterMap_of_filled {answers : List (Option Statement)} (filled : none ∉ answers) :
    (answers.filterMap id).length = answers.length := by
  rw [List.length_filterMap_eq_countP, List.countP_eq_length]
  intro answer member
  cases answer with
  | none => exact absurd member filled
  | some statement => rfl

/-- The log of a pass starts with its configuration and numbers the statements that the source has
given, without gap or repeat.  If the source has ever answered "no more", one event says so, behind
the statements given before, and counts them. -/
theorem log_run (configuration : Configuration) (source : Source) (operations : List Operation) :
    let opened := start configuration source
    let pass := (Operation.run apply operations opened).2
    opened.log = [.started configuration] ∧ opened.source = source ∧
      ∃ calls, pass.source = source.advance calls ∧
        pass.produced = (source.given calls).length ∧
        ((none ∉ source.answers calls ∧
            pass.log = .started configuration :: (List.range pass.produced).map .formatted) ∨
          ∃ before after, source.answers calls = before ++ none :: after ∧ none ∉ before ∧
            pass.log = .started configuration ::
              ((List.range before.length).map .formatted ++
                .finished before.length ::
                  (List.range' before.length (after.filterMap id).length).map .formatted)) := by
  intro opened pass
  obtain ⟨calls, ran, asked, count⟩ := exists_run_start configuration source operations
  have log : pass.log = .started configuration :: told false 0 (source.answers calls) := by
    have going : pass = (opened.nexts calls).2 := ran
    rw [going, log_nexts]
    rfl
  refine ⟨rfl, rfl, calls, asked, count, ?_⟩
  by_cases ended : none ∈ source.answers calls
  · obtain ⟨before, after, split, filled⟩ := List.eq_append_cons_of_mem ended
    refine .inr ⟨before, after, split, filled, ?_⟩
    rw [log, split, told_append filled, told, told_true, Nat.zero_add, List.range_eq_range']
  · refine .inl ⟨ended, ?_⟩
    have all := told_append ended false 0 []
    rw [List.append_nil, told, List.append_nil] at all
    have produced : pass.produced = (source.answers calls).length :=
      count.trans (length_filterMap_of_filled ended)
    rw [log, all, produced, List.range_eq_range']

example :
    (Operation.run apply [.rest, .rest, .next]
        (start .standard { slots := [some (.endOfFile []), none, some (.endOfFile [])] })).2.log =
      [.started .standard, .formatted 0, .finished 1, .formatted 1] := by
  decide +kernel

end Pass
end GCode
