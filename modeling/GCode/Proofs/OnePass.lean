import GCode.Proofs.ClosingRun
import GCode.Proofs.Distinction

/-!
# Spacing in one pass

Recomputing a run takes five rewrites.  They come to reading what the position keeps in one pass,
with a line break added behind each comment that none follows, and to putting the opening before a
comment that comes first and the closing in the place of nothing: `Run.normalise_of_kept`.
-/

namespace GCode
namespace Run

section Spacing

variable {opening closing : Option Trivia} (opens : ∀ item ∈ opening, item.isWhitespace = true)
  (closes : ∀ item ∈ closing, item.isComment = false) (exclusion : Exclusion)
include opens

/-- An opening is whitespace, which no position keeps. -/
theorem kept_opening_append (run : Run) :
    kept exclusion (opening.toList ++ run) = kept exclusion run := by
  cases opening with
  | none => rfl
  | some space =>
      have blank : space.isWhitespace = true := opens space rfl
      cases space with
      | whitespace width => rfl
      | lineBreak => simp [Trivia.isWhitespace] at blank
      | comment text => simp [Trivia.isWhitespace] at blank

include closes

/-- The closing alone is recomputed to itself, also where the position keeps it. -/
theorem normalise_closing_alone :
    normalise opening closing exclusion closing.toList = closing.toList := by
  rw [normalise_eq_framed opens closes]
  cases closing with
  | none => rfl
  | some item =>
      have silent : item.isComment = false := closes item rfl
      cases item with
      | whitespace width => rfl
      | lineBreak =>
          cases drops : exclusion.lineBreaks <;>
            simp [kept, Trivia.kind, Exclusion.contains, drops, blocks, Block.framed]
      | comment text => simp [Trivia.isComment] at silent

/-- A recomputed run is recomputed to itself. -/
theorem normalise_normalise (run : Run) :
    normalise opening closing exclusion (normalise opening closing exclusion run) =
      normalise opening closing exclusion run := by
  have read := blocks_kept_run (keptBy_of_mem_blocks_kept exclusion run)
  rw [normalise_eq_framed opens closes exclusion run]
  cases row : blocks (kept exclusion run) with
  | nil => exact normalise_closing_alone opens closes exclusion
  | cons first others =>
      rw [row] at read
      rw [normalise_eq_framed opens closes]
      cases first with
      | blank => rw [Block.framed, read, Block.framed]
      | comment text => rw [Block.framed, kept_opening_append opens, read, Block.framed]

end Spacing

/-- A run whose position keeps something is recomputed to what it keeps, each comment with a line
break behind it, and with the opening in front if a comment comes first.  If nothing is kept, the
closing stands alone.  No space is put between any two items, and a second time changes nothing. -/
theorem normalise_of_kept (opening : Option Width) {closing : Option Trivia}
    (closes : ∀ item ∈ closing, item.isComment = false) (exclusion : Exclusion) (run : Run) :
    let core := withEnds (kept exclusion run)
    let normalised := normalise (opening.map .whitespace) closing exclusion run
    (core = [] → normalised = closing.toList) ∧
      (∀ text rest, core = .comment text :: rest →
        normalised = (opening.map .whitespace).toList ++ core) ∧
      (∀ rest, core = .lineBreak :: rest → normalised = core) ∧
      (∀ width, core.head? ≠ some (.whitespace width)) ∧
      separate (endComments (kept exclusion run)) = endComments (kept exclusion run) ∧
      normalise (opening.map .whitespace) closing exclusion normalised = normalised := by
  have opens : ∀ item ∈ opening.map Trivia.whitespace, item.isWhitespace = true := by
    cases opening <;> simp [Trivia.isWhitespace]
  have enclosed := normalise_eq_enclose opens closes exclusion run
  rw [core, endComments_eq_withEnds] at enclosed
  refine ⟨fun nothing => ?_, fun text rest comment => ?_, fun rest lineBreak => ?_,
    fun width => ?_, ?_, normalise_normalise opens closes exclusion run⟩
  · rw [enclosed, nothing, enclose]
  · rw [enclosed, comment, enclose]
  · rw [enclosed, lineBreak, enclose]
    simp
  · rw [← endComments_eq_withEnds, head?_endComments]
    exact head?_kept_ne_whitespace exclusion run width
  · rw [endComments_eq_run_blocks (bare_kept exclusion run), separate_run]

/-- Two comments keep their place behind wide whitespace where line breaks are dropped. -/
theorem normalise_of_kept_comments :
    (∀ item ∈ some Trivia.lineBreak, item.isComment = false) ∧
      normalise (some (.whitespace ⟨4, by decide⟩)) (some .lineBreak) ⟨true, false⟩
          [.lineBreak, .comment "one", .lineBreak, .comment "two", .singleSpace] =
        [.whitespace ⟨4, by decide⟩, .comment "one", .lineBreak, .comment "two", .lineBreak] := by
  have closes : ∀ item ∈ some Trivia.lineBreak, item.isComment = false := by
    simp [Trivia.isComment]
  exact ⟨closes, (normalise_of_kept (some ⟨4, by decide⟩) closes ⟨true, false⟩
    [.lineBreak, .comment "one", .lineBreak, .comment "two", .singleSpace]).2.1 "one" _ rfl⟩

end Run
end GCode
