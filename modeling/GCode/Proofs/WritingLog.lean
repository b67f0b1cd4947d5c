import GCode.Proofs.PassLog
import GCode.Proofs.Writing

/-!
# What is told while a program is written

A program is written while it is formatted, so the log stops where writing stops.  If every
formatted statement can be written, the log counts them all and says how much was written;
otherwise it ends with the first that cannot: `Program.write_eq`.
-/

namespace GCode

theorem Source.length_answers (count : Nat) (source : Source) :
    (source.answers count).length = count := by
  induction count generalizing source with
  | zero => rfl
  | succ count ih => rw [answers, List.length_cons, ih]

namespace Pass

/-- If all statements can be written, writing goes as far as taking. -/
theorem write_snd_of_fits {count : Nat} {draft : Draft} {pass : Pass}
    (narrow : ∀ statement ∈ (pass.take count).1, statement.fits = true) :
    (pass.write count draft).2 = (pass.take count).2 := by
  induction count generalizing draft pass with
  | zero => rfl
  | succ count ih =>
      rcases called : pass.next with ⟨_ | statement, after⟩
      · simp only [write, take, called]
      · simp only [take, called, List.forall_mem_cons] at narrow
        simp only [write, take, called, Statement.render, renderIf_of_fits narrow.1, ih narrow.2]

/-- Writing stops behind the first statement that cannot be written. -/
theorem write_snd_of_wide {count : Nat} {draft : Draft} {pass : Pass} {before after : Program}
    {wide : Statement} (taken : (pass.take count).1 = before ++ wide :: after)
    (narrow : ∀ statement ∈ before, statement.fits = true) (unfit : wide.fits = false) :
    (pass.write count draft).2 = (pass.nexts (before.length + 1)).2 := by
  induction count generalizing draft pass before with
  | zero => simp [take] at taken
  | succ count ih =>
      rw [nexts_succ_snd]
      rcases called : pass.next with ⟨_ | statement, later⟩
      · simp [take, called] at taken
      · simp only [take, called] at taken
        cases before with
        | nil =>
            obtain ⟨rfl, -⟩ := List.cons_eq_cons.mp taken
            simp only [write, called, Statement.render, renderIf_of_not_fits unfit]
            rfl
        | cons first before =>
            obtain ⟨rfl, others⟩ := List.cons_eq_cons.mp taken
            rw [List.forall_mem_cons] at narrow
            simp only [write, called, Statement.render, renderIf_of_fits narrow.1,
              ih others narrow.2, List.length_cons]

section Program

variable (configuration : Configuration) (program : Program)

/-- While a program has statements left, its pass only tells that it formats them. -/
theorem log_nexts_ofProgram {count : Nat} (ready : count ≤ program.length) :
    ((start configuration (.ofProgram program)).nexts count).2.log =
      .started configuration :: (List.range count).map .formatted := by
  have filled : none ∉ (Source.ofProgram program).answers count := by
    apply Source.none_notMem_answers
    rwa [Source.upcoming_ofProgram]
  have all := told_append filled false 0 []
  rw [List.append_nil, told, List.append_nil, Source.length_answers] at all
  rw [log_nexts, List.range_eq_range', ← all]
  rfl

/-- The request behind the last statement is answered "no more". -/
theorem answers_ofProgram :
    ∃ filled : List (Option Statement), none ∉ filled ∧ filled.length = program.length ∧
      (Source.ofProgram program).answers (program.length + 1) = filled ++ [none] := by
  refine ⟨(Source.ofProgram program).answers program.length, ?_, Source.length_answers _ _, ?_⟩
  · apply Source.none_notMem_answers
    exact Nat.le_of_eq (congrArg List.length (Source.upcoming_ofProgram program)).symm
  · rw [Source.answers_succ, Source.answer_of_slots_eq_nil]
    simp [Source.advance, Source.ofProgram]

theorem log_rest_ofProgram :
    (start configuration (.ofProgram program)).rest.2.log = .started configuration ::
      ((List.range program.length).map .formatted ++ [.finished program.length]) := by
  have requests : (start configuration (.ofProgram program)).rest.2 =
      ((start configuration (.ofProgram program)).nexts (program.length + 1)).2 := by
    rw [rest_snd]
    have ready := congrArg List.length (Source.upcoming_ofProgram program)
    exact congrArg
      (fun count => ((start configuration (.ofProgram program)).nexts (count + 1)).2) ready
  obtain ⟨filled, given, length, answers⟩ := answers_ofProgram program
  rw [requests, log_nexts, source_start, answers, told_append given, length, Nat.add_comm,
    List.range_eq_range']
  rfl

end Program
end Pass

namespace Program

/-- Writing a program gives the text of the formatted program and tells of every statement and of
the whole, unless some formatted statement holds whitespace that is too wide.  Then it fails as
writing out the formatted program does, and the last it tells of is the first such statement. -/
theorem write_eq (configuration : Configuration) (program : Program) :
    let formatted := program.format configuration
    let written := program.write configuration
    (∃ text : String,
        (∀ statement ∈ formatted, ¬statement.HoldsWide) ∧
          formatted.render = .ok text ∧ written.text = .ok text ∧
          written.log = .started configuration ::
            ((List.range program.length).map .formatted ++
              [.finished program.length, .wrote program.length text.utf8ByteSize])) ∨
      ∃ before wide after,
        formatted = before ++ wide :: after ∧
          (∀ statement ∈ before, ¬statement.HoldsWide) ∧ wide.HoldsWide ∧
          formatted.render = .error .tooWide ∧ written.text = .error .tooWide ∧
          written.log = .started configuration ::
            (List.range (before.length + 1)).map .formatted := by
  intro formatted written
  cases search : formatted.find? fun statement => !statement.fits with
  | none =>
      have narrow : ∀ statement ∈ formatted, statement.fits = true := by
        simpa using List.find?_eq_none.mp search
      have rendered : formatted.render = .ok (String.ofList formatted.characters) :=
        renderIf_of_fits (List.all_eq_true.mpr narrow) _
      have writes : written = _ := write_of_render_eq_ok rendered (Pass.write_snd_of_fits narrow)
      have length : formatted.length = program.length := by
        have lengths := congrArg List.length (format_eq_map configuration program)
        rwa [List.length_map] at lengths
      refine .inl ⟨_, fun statement member => Statement.fits_iff.mp (narrow statement member),
        rendered, congrArg Writing.text writes, ?_⟩
      -- The pass that has written the program is the one that has formatted all of it.
      rw [writes]
      change Pass.log (Pass.rest _).2 ++ [.wrote formatted.length _] = _
      rw [Pass.log_rest_ofProgram, length, List.cons_append, List.append_assoc]
      rfl
  | some wide =>
      obtain ⟨unfit, before, after, split, narrow⟩ := List.find?_eq_some_iff_append.mp search
      have unfit : wide.fits = false := by simpa using unfit
      have narrow : ∀ statement ∈ before, statement.fits = true := by simpa using narrow
      have rendered : formatted.render = .error .tooWide :=
        renderIf_of_not_fits (by rw [split]; simp [fits, unfit]) _
      have writes : written = _ :=
        write_of_render_eq_error rendered (Pass.write_snd_of_wide split narrow unfit)
      have ready : before.length + 1 ≤ program.length := by
        have mapped := split.symm.trans (format_eq_map configuration program)
        have lengths := congrArg List.length mapped
        simp at lengths
        omega
      refine .inr ⟨before, wide, after, split,
        fun statement member => Statement.fits_iff.mp (narrow statement member),
        Statement.fits_eq_false_iff.mp unfit, rendered, congrArg Writing.text writes, ?_⟩
      rw [writes]
      exact Pass.log_nexts_ofProgram configuration program ready

example :
    (write .standard
        [.endOfFile [.singleSpace], .endOfFile [.whitespace ⟨65536, by decide⟩],
          .endOfFile [.lineBreak]]).log =
      [.started .standard, .formatted 0, .formatted 1] := by
  decide +kernel

end Program
end GCode
