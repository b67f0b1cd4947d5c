import GCode.Formatting
import GCode.Proofs.Blocks

/-!
# The end of a file

Where comments are removed, the trivia at the end of a file becomes its line breaks followed by the
whitespace behind the last of them.  The sweep after line breaks looks at each position once, so it
takes only the first item of that whitespace away.  The rest stays beside the line break, and this
file says exactly when there is a rest.
-/

namespace GCode
namespace Run

/-- Whitespace stands directly before a line break. -/
def SpaceBeforeBreak (run : Run) : Prop := ∃ width, [.whitespace width, .lineBreak] <:+: run

/-- Whitespace stands directly after a line break. -/
def SpaceAfterBreak (run : Run) : Prop := ∃ width, [.lineBreak, .whitespace width] <:+: run

/-- The whitespace that no line break follows. -/
def trailingSpaces : Run → Run
  | [] => []
  | item :: rest =>
      if item.isWhitespace ∧ .lineBreak ∉ rest then
        item :: trailingSpaces rest
      else
        trailingSpaces rest

/-- At least two whitespace items follow the last line break of a run. -/
def Overhangs (run : Run) : Prop := .lineBreak ∈ run ∧ 2 ≤ (trailingSpaces run).length

instance (run : Run) : Decidable run.Overhangs := inferInstanceAs (Decidable (_ ∧ _))

/-- The whitespace that stripping comments leaves behind the line breaks. -/
def spacesLeft (run : Run) : Run :=
  if .lineBreak ∈ run then (trailingSpaces run).tail else trailingSpaces run

/-- A number of line breaks and the items behind them. -/
def breaksThen (count : Nat) (rest : Run) : Run := List.replicate count .lineBreak ++ rest

@[simp] theorem breaksThen_zero (rest : Run) : breaksThen 0 rest = rest := rfl

@[simp] theorem breaksThen_succ (count : Nat) (rest : Run) :
    breaksThen (count + 1) rest = .lineBreak :: breaksThen count rest := rfl

theorem lineBreak_not_mem_of_blank {spaces : Run}
    (blank : ∀ item ∈ spaces, item.isWhitespace = true) : .lineBreak ∉ spaces := fun member => by
  simpa [Trivia.isWhitespace] using blank _ member

theorem isWhitespace_of_mem_trailingSpaces (run : Run) :
    ∀ item ∈ trailingSpaces run, item.isWhitespace = true := by
  fun_induction trailingSpaces run with
  | case1 => simp
  | case2 item rest last ih => exact List.forall_mem_cons.mpr ⟨last.1, ih⟩
  | case3 item rest other ih => exact ih

theorem isWhitespace_of_mem_spacesLeft (run : Run) :
    ∀ item ∈ spacesLeft run, item.isWhitespace = true := by
  intro item member
  apply isWhitespace_of_mem_trailingSpaces run item
  rw [spacesLeft] at member
  split at member
  · exact List.mem_of_mem_tail member
  · exact member

/-- Without line breaks all whitespace is trailing. -/
theorem trailingSpaces_of_unbroken {run : Run} (unbroken : .lineBreak ∉ run) :
    trailingSpaces run = run.filter Trivia.isWhitespace := by
  induction run with
  | nil => rfl
  | cons item rest ih =>
      have restUnbroken : .lineBreak ∉ rest := fun member =>
        unbroken (List.mem_cons_of_mem item member)
      simp only [trailingSpaces, restUnbroken, not_false_eq_true, and_true, List.filter_cons,
        ih restUnbroken]

/-! ## The two sweeps -/

/-- The first sweep leaves line breaks and the whitespace behind them. -/
theorem clearBeforeBreaks_filter (run : Run) :
    clearBeforeBreaks (run.filter fun item => !item.isComment) =
      breaksThen (run.count .lineBreak) (trailingSpaces run) := by
  induction run with
  | nil => exact clearBeforeBreaks_nil
  | cons item rest ih =>
      cases item with
      | comment text =>
          rw [List.filter_cons_of_neg (by simp [Trivia.isComment]), ih,
            List.count_cons_of_ne (by simp)]
          simp [trailingSpaces, Trivia.isWhitespace]
      | lineBreak =>
          rw [List.filter_cons_of_pos rfl, clearBeforeBreaks_cons, ih,
            consBeforeBreak_of_not_whitespace rfl, List.count_cons_self, breaksThen_succ]
          simp [trailingSpaces, Trivia.isWhitespace]
      | whitespace width =>
          rw [List.filter_cons_of_pos rfl, clearBeforeBreaks_cons, ih,
            List.count_cons_of_ne (by simp)]
          -- The sweep has already cleared the way to the next line break, if there is one.
          by_cases followed : .lineBreak ∈ rest
          · obtain ⟨count, breaks⟩ :=
              Nat.exists_eq_succ_of_ne_zero (Nat.ne_of_gt (List.count_pos_iff.mpr followed))
            simp [trailingSpaces, followed, breaks, consBeforeBreak, Trivia.isWhitespace,
              Trivia.isLineBreak]
          · have blank := isWhitespace_of_mem_trailingSpaces rest
            have unbroken : (trailingSpaces rest).head?.any Trivia.isLineBreak = false :=
              head?_any_isLineBreak_of_ne fun others starts =>
                lineBreak_not_mem_of_blank blank (by simp [starts])
            simp [trailingSpaces, followed, List.count_eq_zero_of_not_mem followed,
              consBeforeBreak, unbroken, Trivia.isWhitespace]

section Spaces

variable {spaces : Run} (blank : ∀ item ∈ spaces, item.isWhitespace = true)
include blank

/-- The second sweep takes one item of the whitespace behind the line breaks away. -/
theorem clearAfterBreaks_breaksThen (count : Nat) :
    clearAfterBreaks (breaksThen count spaces) =
      breaksThen count (if count = 0 then spaces else spaces.tail) := by
  induction count with
  | zero =>
      induction spaces with
      | nil => exact clearAfterBreaks_nil
      | cons space spaces ih =>
          rw [List.forall_mem_cons] at blank
          have inline := Trivia.not_isLineBreak_of_isWhitespace blank.1
          simpa [clearAfterBreaks_cons, consAfterBreak_of_not_lineBreak inline] using ih blank.2
  | succ count ih =>
      rw [breaksThen_succ, clearAfterBreaks_cons, ih]
      cases count with
      | zero =>
          cases spaces with
          | nil => simp [consAfterBreak]
          | cons space spaces =>
              have taken : space.isWhitespace = true := blank space (by simp)
              simp [consAfterBreak, taken, Trivia.isLineBreak]
      | succ count => simp [consAfterBreak, Trivia.isWhitespace]

theorem count_breaksThen (count : Nat) : (breaksThen count spaces).count .lineBreak = count := by
  rw [breaksThen, List.count_append, List.count_replicate_self,
    List.count_eq_zero_of_not_mem (lineBreak_not_mem_of_blank blank), Nat.add_zero]

theorem lineBreak_mem_breaksThen (count : Nat) :
    .lineBreak ∈ breaksThen count spaces ↔ count ≠ 0 := by
  rw [← List.count_pos_iff, count_breaksThen blank, Nat.pos_iff_ne_zero]

theorem trailingSpaces_breaksThen (count : Nat) :
    trailingSpaces (breaksThen count spaces) = spaces := by
  induction count with
  | zero =>
      rw [breaksThen_zero, trailingSpaces_of_unbroken (lineBreak_not_mem_of_blank blank)]
      exact List.filter_eq_self.mpr blank
  | succ count ih => simpa [trailingSpaces, Trivia.isWhitespace] using ih

theorem not_spaceBeforeBreak_breaksThen (count : Nat) :
    ¬SpaceBeforeBreak (breaksThen count spaces) := by
  rintro ⟨width, touching⟩
  have unbroken := lineBreak_not_mem_of_blank blank
  -- No whitespace stands anywhere before a line break, directly or not.
  have ordered : (breaksThen count spaces).Pairwise
      fun here next => here.isWhitespace = true → next ≠ .lineBreak := by
    rw [breaksThen, List.pairwise_append]
    refine ⟨List.pairwise_replicate.mpr (.inr (by simp [Trivia.isWhitespace])), ?_, ?_⟩
    · exact List.pairwise_of_forall_mem_list fun _ _ _ member _ equal => unbroken (equal ▸ member)
    · exact fun _ _ _ member _ equal => unbroken (equal ▸ member)
  have pair := ordered.sublist touching.sublist
  simp [Trivia.isWhitespace] at pair

theorem spaceAfterBreak_breaksThen (count : Nat) :
    SpaceAfterBreak (breaksThen count spaces) ↔ count ≠ 0 ∧ spaces ≠ [] := by
  constructor
  · rintro ⟨width, touching⟩
    constructor
    · rintro rfl
      exact lineBreak_not_mem_of_blank blank (touching.subset (by simp))
    · rintro rfl
      have member : .whitespace width ∈ breaksThen count [] := touching.subset (by simp)
      simp [breaksThen] at member
  · rintro ⟨broken, filled⟩
    obtain ⟨before, rfl⟩ := Nat.exists_eq_succ_of_ne_zero broken
    obtain ⟨space, others, rfl⟩ := List.exists_cons_of_ne_nil filled
    cases space with
    | whitespace width =>
        refine ⟨width, List.replicate before .lineBreak, others, ?_⟩
        simp [breaksThen, List.replicate_succ']
    | lineBreak => exact absurd (by simp) (lineBreak_not_mem_of_blank blank)
    | comment text => simpa [Trivia.isWhitespace] using blank (.comment text) (by simp)

end Spaces

/-! ## What stripping comments leaves -/

variable (run : Run)

theorem stripComments_eq :
    stripComments run = breaksThen (run.count .lineBreak) (spacesLeft run) := by
  rw [stripComments, clearAroundBreaks, clearBeforeBreaks_filter,
    clearAfterBreaks_breaksThen (isWhitespace_of_mem_trailingSpaces run), spacesLeft]
  by_cases broken : .lineBreak ∈ run <;> simp [List.count_eq_zero, broken]

theorem stripComments_sublist : (stripComments run).Sublist run :=
  (clearAroundBreaks_sublist _).trans List.filter_sublist

theorem isComment_of_mem_stripComments : ∀ item ∈ stripComments run, item.isComment = false := by
  intro item member
  simpa using (List.mem_filter.mp ((clearAroundBreaks_sublist _).subset member)).2

theorem count_stripComments : (stripComments run).count .lineBreak = run.count .lineBreak := by
  rw [stripComments_eq, count_breaksThen (isWhitespace_of_mem_spacesLeft run)]

theorem lineBreak_mem_stripComments : .lineBreak ∈ stripComments run ↔ .lineBreak ∈ run := by
  rw [← List.count_pos_iff, count_stripComments, List.count_pos_iff]

theorem not_spaceBeforeBreak_stripComments : ¬SpaceBeforeBreak (stripComments run) := by
  rw [stripComments_eq]
  exact not_spaceBeforeBreak_breaksThen (isWhitespace_of_mem_spacesLeft run) _

/-- Whitespace is left in a broken run exactly if there were two items of it. -/
theorem overhangs_iff : run.Overhangs ↔ .lineBreak ∈ run ∧ spacesLeft run ≠ [] := by
  refine and_congr_right fun broken => ?_
  rw [spacesLeft, if_pos broken, ← List.length_pos_iff, List.length_tail]
  omega

theorem spaceAfterBreak_stripComments : SpaceAfterBreak (stripComments run) ↔ run.Overhangs := by
  have blank := isWhitespace_of_mem_spacesLeft run
  rw [stripComments_eq, spaceAfterBreak_breaksThen blank, ← lineBreak_mem_breaksThen blank,
    ← stripComments_eq, overhangs_iff, lineBreak_mem_stripComments]

theorem stripComments_of_unbroken {run : Run} (unbroken : .lineBreak ∉ run) :
    stripComments run = run.filter Trivia.isWhitespace := by
  rw [stripComments_eq, List.count_eq_zero_of_not_mem unbroken, breaksThen_zero, spacesLeft,
    if_neg unbroken, trailingSpaces_of_unbroken unbroken]

/-- A second stripping takes another item of whitespace away, if there is one. -/
theorem stripComments_stripComments :
    stripComments (stripComments run) = stripComments run ↔ ¬run.Overhangs := by
  have blank := isWhitespace_of_mem_spacesLeft run
  have again : stripComments (stripComments run) = breaksThen (run.count .lineBreak)
      (if .lineBreak ∈ run then (spacesLeft run).tail else spacesLeft run) := by
    rw [stripComments_eq, count_stripComments, spacesLeft]
    simp only [lineBreak_mem_stripComments]
    rw [stripComments_eq, trailingSpaces_breaksThen blank]
  rw [again, stripComments_eq, breaksThen, breaksThen, List.append_cancel_left_eq, overhangs_iff]
  by_cases broken : .lineBreak ∈ run
  · cases spacesLeft run <;> simp [broken]
  · simp [broken]

end Run

namespace Statement

/-- Stripping the comments at the end of a file keeps its line breaks and never leaves whitespace
before one.  It leaves whitespace after one exactly if two items of it followed the last. -/
theorem format_endOfFile_strips (previous : Option Statement) (trivia : Run) :
    ∃ stripped : Run,
      format ⟨true, true⟩ previous (.endOfFile trivia) = .endOfFile stripped ∧
      (∀ item ∈ stripped, item.isComment = false) ∧
      stripped.count .lineBreak = trivia.count .lineBreak ∧
      ¬stripped.SpaceBeforeBreak ∧
      (stripped.SpaceAfterBreak ↔ trivia.Overhangs) ∧
      (.lineBreak ∉ trivia → stripped = trivia.filter Trivia.isWhitespace) :=
  ⟨Run.stripComments trivia, rfl, Run.isComment_of_mem_stripComments trivia,
    Run.count_stripComments trivia, Run.not_spaceBeforeBreak_stripComments trivia,
    Run.spaceAfterBreak_stripComments trivia, Run.stripComments_of_unbroken⟩

/-- Of two whitespace items behind a line break the second stays beside it. -/
theorem format_endOfFile_leaves_space :
    ∃ stripped : Run,
      format ⟨true, true⟩ none
          (.endOfFile [.lineBreak, .singleSpace, .whitespace ⟨2, Nat.two_pos⟩]) =
        .endOfFile stripped ∧
      stripped = [.lineBreak, .whitespace ⟨2, Nat.two_pos⟩] ∧ stripped.SpaceAfterBreak :=
  ⟨_, by decide +kernel, rfl, ⟨2, Nat.two_pos⟩, List.infix_rfl⟩

end Statement
end GCode
