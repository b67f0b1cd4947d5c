import GCode.Proofs.Passes
import GCode.Writing

/-!
# What is written

A statement can be written unless it holds whitespace that is too wide.  Writing a program statement
by statement gives the same text, or fails in the same way, as formatting all of it first and
rendering the result.
-/

namespace GCode

/-- A run holds whitespace that is too wide to be written. -/
def Run.HoldsWide (run : Run) : Prop :=
  ∃ width, .whitespace width ∈ run ∧ widestColumns < width.columns

theorem Run.fits_iff {run : Run} : run.fits = true ↔ ¬run.HoldsWide := by
  rw [Run.fits, List.all_eq_true]
  constructor
  · rintro fits ⟨width, member, wide⟩
    exact Nat.not_le.mpr wide (of_decide_eq_true (fits _ member))
  · intro narrow item member
    cases item with
    | whitespace width =>
        exact decide_eq_true (Nat.not_lt.mp fun wide => narrow ⟨width, member, wide⟩)
    | lineBreak => rfl
    | comment text => rfl

namespace Statement

/-- All runs of a statement, in the order of the text. -/
def runs : Statement → List Run
  | instruction content => content.tokens.flatMap fun token => [token.leading, token.trailing]
  | endOfFile trivia => [trivia]

/-- Some run of a statement holds whitespace that is too wide to be written. -/
def HoldsWide (statement : Statement) : Prop := ∃ run ∈ statement.runs, run.HoldsWide

theorem fits_eq_all (statement : Statement) : statement.fits = statement.runs.all Run.fits := by
  cases statement with
  | instruction content =>
      have token : ∀ item : Token,
          item.fits = [item.leading, item.trailing].all Run.fits := fun item => by simp [Token.fits]
      simp only [fits, runs, List.all_flatMap, ← token]
  | endOfFile trivia => simp [fits, runs]

theorem fits_iff {statement : Statement} : statement.fits = true ↔ ¬statement.HoldsWide := by
  simp only [fits_eq_all, List.all_eq_true, HoldsWide, Run.fits_iff, not_exists, not_and]

theorem fits_eq_false_iff {statement : Statement} :
    statement.fits = false ↔ statement.HoldsWide := by
  rw [← Bool.not_eq_true, fits_iff, Classical.not_not]

end Statement

theorem renderIf_of_fits {fits : Bool} (narrow : fits = true) (characters : Unit → List Char) :
    renderIf fits characters = .ok (String.ofList (characters ())) := by
  rw [renderIf, if_pos narrow]

theorem renderIf_of_not_fits {fits : Bool} (wide : fits = false) (characters : Unit → List Char) :
    renderIf fits characters = .error .tooWide := by
  simp [renderIf, wide]

theorem renderIf_eq_error_iff {fits : Bool} {characters : Unit → List Char} :
    renderIf fits characters = .error .tooWide ↔ fits = false := by
  cases fits with
  | false => exact iff_of_true rfl rfl
  | true => exact iff_of_false nofun nofun

/-- A piece that consists of two is written as its parts are. -/
theorem renderIf_append (first second : Bool) (front back : List Char) :
    renderIf (first && second) (fun _ => front ++ back) =
      (do return (← renderIf first fun _ => front) ++ (← renderIf second fun _ => back)) := by
  cases first with
  | false => rfl
  | true =>
      cases second with
      | false => rfl
      | true => exact congrArg Except.ok String.ofList_append

/-- A program is rendered by rendering its first statement and then the others. -/
theorem Program.render_cons (statement : Statement) (program : Program) :
    Program.render (statement :: program) =
      match statement.render with
      | .error error => .error error
      | .ok text => (Program.render program).map (text ++ ·) := by
  have split : Program.render (statement :: program) =
      (do return (← statement.render) ++ (← Program.render program)) :=
    renderIf_append statement.fits (Program.fits program) statement.characters
      (Program.characters program)
  rw [split]
  cases statement.render with
  | error error => rfl
  | ok text => cases Program.render program <;> rfl

@[simp] theorem Pass.source_start (configuration : Configuration) (source : Source) :
    (start configuration source).source = source := rfl

/-- A draft with the text of some more statements. -/
def Draft.extended (draft : Draft) (count : Nat) (text : String) : Draft :=
  ⟨draft.text ++ text, draft.count + count⟩

theorem Draft.extended_push (draft : Draft) (first text : String) (count : Nat) :
    (draft.push first).extended count text = draft.extended (count + 1) (first ++ text) := by
  rw [extended, extended, push, String.append_assoc, Nat.add_assoc, Nat.add_comm 1]

/-- Without statements a draft stays as it is. -/
theorem Draft.map_render_nil (draft : Draft) :
    (Program.render []).map (draft.extended 0) = .ok draft := by
  have same : draft.extended 0 "" = draft := by
    rw [extended, String.append_empty, Nat.add_zero]
  exact congrArg Except.ok same

/-- A pass adds the rendering of what it takes to a draft, and counts it. -/
theorem Pass.write_fst (count : Nat) (draft : Draft) (pass : Pass) :
    (pass.write count draft).1 =
      (Program.render (pass.take count).1).map (draft.extended (pass.take count).1.length) := by
  induction count generalizing draft pass with
  | zero => exact draft.map_render_nil.symm
  | succ count ih =>
      rw [write, take]
      rcases pass.next with ⟨_ | statement, after⟩
      · exact draft.map_render_nil.symm
      · dsimp only
        rw [Program.render_cons]
        cases statement.render with
        | error error => rfl
        | ok text =>
            simp only [ih]
            cases Program.render (after.take count).1 with
            | error error => rfl
            | ok rest => exact congrArg Except.ok (draft.extended_push text rest _)

namespace Program

section Outcomes

variable {configuration : Configuration} {program : Program} {after : Pass}

/-- The pass that writes a program formats all of it. -/
theorem write_fst_ofProgram (configuration : Configuration) (program : Program) :
    ((Pass.start configuration (.ofProgram program)).write
        ((Source.ofProgram program).slots.length + 1) {}).1 =
      (render (program.format configuration)).map
        (Draft.extended {} (program.format configuration).length) :=
  Pass.write_fst _ {} _

theorem write_of_render_eq_ok {text : String}
    (rendered : render (program.format configuration) = .ok text)
    (ends : ((Pass.start configuration (.ofProgram program)).write
      ((Source.ofProgram program).slots.length + 1) {}).2 = after) :
    program.write configuration = ⟨.ok text,
      after.log ++ [.wrote (program.format configuration).length text.utf8ByteSize]⟩ := by
  have written := write_fst_ofProgram configuration program
  rw [rendered] at written
  have whole : (Pass.start configuration (.ofProgram program)).write
      ((Source.ofProgram program).slots.length + 1) {} = (.ok _, after) := Prod.ext written ends
  simp only [write, Pass.source_start, whole, Draft.extended, Pass.tell, Nat.zero_add,
    String.empty_append]

theorem write_of_render_eq_error {error : RenderError}
    (rendered : render (program.format configuration) = .error error)
    (ends : ((Pass.start configuration (.ofProgram program)).write
      ((Source.ofProgram program).slots.length + 1) {}).2 = after) :
    program.write configuration = ⟨.error error, after.log⟩ := by
  have written := write_fst_ofProgram configuration program
  rw [rendered] at written
  have whole : (Pass.start configuration (.ofProgram program)).write
      ((Source.ofProgram program).slots.length + 1) {} = (.error error, after) :=
    Prod.ext written ends
  simp only [write, Pass.source_start, whole]

end Outcomes

theorem write_text (configuration : Configuration) (program : Program) :
    (program.write configuration).text = render (program.format configuration) := by
  cases rendered : render (program.format configuration) with
  | error error => rw [write_of_render_eq_error rendered rfl]
  | ok text => rw [write_of_render_eq_ok rendered rfl]

end Program
end GCode
