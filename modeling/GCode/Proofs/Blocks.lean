import GCode.Run.Spacing

/-!
# Blocks of trivia

A recomputed run is a row of blocks, each a line break with or without a comment before it.  This
file reads the blocks of a run in one pass.  The central theorem `Run.normalise_eq_framed` shows
that all rewrites of `Run.normalise` come to writing these blocks out again: the opening stays only
before a comment, and the closing is added only where there is no block.
-/

namespace GCode

namespace Trivia

@[simp] theorem isWhitespace_singleSpace : singleSpace.isWhitespace = true := rfl

@[simp] theorem isComment_singleSpace : singleSpace.isComment = false := rfl

theorem not_isLineBreak_of_isWhitespace {item : Trivia} (space : item.isWhitespace = true) :
    item.isLineBreak = false := by
  cases item with
  | whitespace width => rfl
  | lineBreak => simp [isWhitespace] at space
  | comment text => rfl

theorem not_isComment_of_isWhitespace {item : Trivia} (space : item.isWhitespace = true) :
    item.isComment = false := by
  cases item with
  | whitespace width => rfl
  | lineBreak => rfl
  | comment text => simp [isWhitespace] at space

end Trivia

/-- One line of trivia. -/
inductive Block where
  /-- A line break alone. -/
  | blank
  /-- A comment and the line break behind it. -/
  | comment (text : String)
deriving DecidableEq, Repr

namespace Block

/-- The items of a block. -/
def items : Block → Run
  | blank => [.lineBreak]
  | comment text => [.comment text, .lineBreak]

/-- The run that a row of blocks is written as. -/
def run (blocks : List Block) : Run := blocks.flatMap items

/-- The run of a row of blocks at a place that has an opening and a closing. -/
def framed (opening closing : Option Trivia) : List Block → Run
  | [] => closing.toList
  | blank :: blocks => run (blank :: blocks)
  | comment text :: blocks => opening.toList ++ run (comment text :: blocks)

/-- A position keeps the item that makes a block. -/
def KeptBy (exclusion : Exclusion) : Block → Prop
  | blank => exclusion.lineBreaks = false
  | comment _ => exclusion.comments = false

@[simp] theorem run_nil : run [] = [] := rfl

@[simp] theorem run_blank_cons (blocks : List Block) :
    run (blank :: blocks) = .lineBreak :: run blocks := rfl

@[simp] theorem run_comment_cons (text : String) (blocks : List Block) :
    run (comment text :: blocks) = .comment text :: .lineBreak :: run blocks := rfl

end Block

namespace Run

/-- No item of a run is whitespace. -/
def Bare (run : Run) : Prop := ∀ item ∈ run, item.isWhitespace = false

/-- The blocks of a run, in one pass over it. -/
def blocks : Run → List Block
  | [] => []
  | .whitespace _ :: rest => blocks rest
  | .lineBreak :: rest => .blank :: blocks rest
  | .comment text :: .lineBreak :: rest => .comment text :: blocks rest
  | .comment text :: rest => .comment text :: blocks rest

theorem bare_cons {item : Trivia} {run : Run} :
    Bare (item :: run) ↔ item.isWhitespace = false ∧ Bare run :=
  List.forall_mem_cons

theorem bare_kept (exclusion : Exclusion) (run : Run) : Bare (kept exclusion run) := by
  intro item member
  have survives := (List.mem_filter.mp member).2
  cases item with
  | whitespace width => simp [Trivia.kind, Exclusion.contains] at survives
  | lineBreak => rfl
  | comment text => rfl

theorem bare_run (blocks : List Block) : Bare (Block.run blocks) := by
  induction blocks with
  | nil => simp [Bare]
  | cons block blocks ih =>
      cases block <;> simpa [bare_cons, Trivia.isWhitespace] using ih

/-! ## The sweeps, item by item -/

theorem endComments_cons (here : Trivia) (rest : Run) :
    endComments (here :: rest) = consEnded here (endComments rest) := by
  simp only [endComments_eq_foldr, List.foldr_cons]

theorem clearBeforeBreaks_cons (here : Trivia) (rest : Run) :
    clearBeforeBreaks (here :: rest) = consBeforeBreak here (clearBeforeBreaks rest) := by
  simp only [clearBeforeBreaks_eq_foldr, List.foldr_cons]

theorem clearAfterBreaks_cons (here : Trivia) (rest : Run) :
    clearAfterBreaks (here :: rest) = consAfterBreak here (clearAfterBreaks rest) := by
  simp only [clearAfterBreaks_eq_foldr, List.foldr_cons]

@[simp] theorem endComments_nil : endComments [] = [] := by
  rw [endComments_eq_foldr, List.foldr_nil]

@[simp] theorem clearBeforeBreaks_nil : clearBeforeBreaks [] = [] := by
  rw [clearBeforeBreaks_eq_foldr, List.foldr_nil]

@[simp] theorem clearAfterBreaks_nil : clearAfterBreaks [] = [] := by
  rw [clearAfterBreaks_eq_foldr, List.foldr_nil]

theorem consBeforeBreak_of_not_whitespace {here : Trivia} (solid : here.isWhitespace = false)
    (rest : Run) : consBeforeBreak here rest = here :: rest := by
  simp [consBeforeBreak, solid]

theorem consAfterBreak_of_not_lineBreak {here : Trivia} (inline : here.isLineBreak = false)
    (rest : Run) : consAfterBreak here rest = here :: rest := by
  simp [consAfterBreak, inline]

theorem consAfterBreak_of_bare (here : Trivia) {rest : Run} (bare : Bare rest) :
    consAfterBreak here rest = here :: rest := by
  cases rest with
  | nil => simp [consAfterBreak]
  | cons next rest => simp [consAfterBreak, (bare_cons.mp bare).1]

theorem clearBeforeBreaks_sublist (run : Run) : (clearBeforeBreaks run).Sublist run := by
  induction run with
  | nil => simp
  | cons here rest ih =>
      rw [clearBeforeBreaks_cons, consBeforeBreak]
      split
      · exact ih.cons here
      · exact ih.cons_cons here

theorem clearAfterBreaks_sublist (run : Run) : (clearAfterBreaks run).Sublist run := by
  induction run with
  | nil => simp
  | cons here rest ih =>
      rw [clearAfterBreaks_cons, consAfterBreak]
      split
      · exact ((List.tail_sublist _).trans ih).cons_cons here
      · exact ih.cons_cons here

theorem clearAroundBreaks_sublist (run : Run) : (clearAroundBreaks run).Sublist run :=
  (clearAfterBreaks_sublist _).trans (clearBeforeBreaks_sublist run)

/-- A sweep that ends comments never changes the first item. -/
theorem head?_endComments (run : Run) : (endComments run).head? = run.head? := by
  cases run with
  | nil => rw [endComments_nil]
  | cons here rest =>
      rw [endComments_cons, consEnded]
      split <;> rfl

theorem head?_any_isLineBreak_of_ne {run : Run}
    (unbroken : ∀ rest, run = .lineBreak :: rest → False) :
    run.head?.any Trivia.isLineBreak = false := by
  cases run with
  | nil => rfl
  | cons next rest =>
      cases next with
      | whitespace width => rfl
      | lineBreak => exact (unbroken rest rfl).elim
      | comment text => rfl

/-! ## Reading blocks -/

/-- The sweep that ends comments writes out the blocks of a run without whitespace. -/
theorem endComments_eq_run_blocks {run : Run} (bare : Bare run) :
    endComments run = Block.run (blocks run) := by
  fun_induction blocks run with
  | case1 => exact endComments_nil
  | case2 width rest ih => simp [bare_cons, Trivia.isWhitespace] at bare
  | case3 rest ih =>
      rw [endComments_cons, ih (bare_cons.mp bare).2]
      simp [consEnded, Trivia.isComment]
  | case4 text rest ih =>
      rw [endComments_cons, endComments_cons, ih (bare_cons.mp (bare_cons.mp bare).2).2]
      simp [consEnded, Trivia.isComment, Trivia.isLineBreak]
  | case5 text rest unbroken ih =>
      rw [endComments_cons, consEnded, head?_endComments, head?_any_isLineBreak_of_ne unbroken,
        ih (bare_cons.mp bare).2]
      simp [Trivia.isComment]

/-- A block is read only from an item that the position keeps. -/
theorem keptBy_of_mem_blocks (exclusion : Exclusion) {run : Run}
    (allowed : ∀ item ∈ run, exclusion.contains item.kind = false) :
    ∀ block ∈ blocks run, block.KeptBy exclusion := by
  fun_induction blocks run with
  | case1 => simp
  | case2 width rest ih => simp [Trivia.kind, Exclusion.contains] at allowed
  | case3 rest ih =>
      rw [List.forall_mem_cons] at allowed ⊢
      exact ⟨allowed.1, ih allowed.2⟩
  | case4 text rest ih =>
      rw [List.forall_mem_cons, List.forall_mem_cons] at allowed
      rw [List.forall_mem_cons]
      exact ⟨allowed.1, ih allowed.2.2⟩
  | case5 text rest unbroken ih =>
      rw [List.forall_mem_cons] at allowed ⊢
      exact ⟨allowed.1, ih allowed.2⟩

theorem keptBy_of_mem_blocks_kept (exclusion : Exclusion) (run : Run) :
    ∀ block ∈ blocks (kept exclusion run), block.KeptBy exclusion := by
  apply keptBy_of_mem_blocks
  intro item member
  simpa using (List.mem_filter.mp member).2

/-- A row of blocks that a position keeps is read back from its run, also where the position keeps
comments but drops the line breaks behind them. -/
theorem blocks_kept_run {exclusion : Exclusion} {row : List Block}
    (allowed : ∀ block ∈ row, block.KeptBy exclusion) :
    blocks (kept exclusion (Block.run row)) = row := by
  induction row with
  | nil => rfl
  | cons block row ih =>
      rw [List.forall_mem_cons] at allowed
      have rest := ih allowed.2
      cases block with
      | blank =>
          have keepsBreaks : exclusion.lineBreaks = false := allowed.1
          simpa [kept, Trivia.kind, Exclusion.contains, keepsBreaks, blocks] using rest
      | comment text =>
          have keepsComments : exclusion.comments = false := allowed.1
          cases drops : exclusion.lineBreaks with
          | false =>
              simpa [kept, Trivia.kind, Exclusion.contains, keepsComments, drops, blocks] using rest
          | true =>
              -- The line break of the block is dropped, and so are all others behind it.
              have unbroken : ∀ others, kept exclusion (Block.run row) = .lineBreak :: others →
                  False := by
                intro others equal
                have member : .lineBreak ∈ kept exclusion (Block.run row) := by simp [equal]
                simp [kept, Trivia.kind, Exclusion.contains, drops] at member
              have read := blocks.eq_5 text _ unbroken
              rw [rest] at read
              simpa [kept, Trivia.kind, Exclusion.contains, keepsComments, drops] using read

/-! ## Rewriting a row of blocks -/

theorem separate_eq_intercalate (run : Run) :
    separate run =
      [.lineBreak].intercalate ((run.splitOnP Trivia.isLineBreak).map spaceLine) := by
  rw [separate]
  split
  · rfl
  · rename_i unbroken
    have whole : run.splitOnP Trivia.isLineBreak = [run] :=
      List.splitOnP_eq_singleton (by simpa using unbroken)
    rw [whole, List.map_singleton, List.intercalate_singleton]

/-- The first line is spaced for itself, and the others come behind it. -/
theorem separate_append_cons {line : Run} (unbroken : ∀ item ∈ line, item.isLineBreak = false)
    (rest : Run) :
    separate (line ++ .lineBreak :: rest) = spaceLine line ++ .lineBreak :: separate rest := by
  have lines := List.splitOnP_append_cons_of_forall_mem unbroken .lineBreak rfl rest
  have others : (rest.splitOnP Trivia.isLineBreak).map spaceLine ≠ [] := by
    simp [List.splitOnP_ne_nil]
  rw [separate_eq_intercalate, lines, List.map_cons, List.intercalate_cons_of_ne_nil others,
    ← separate_eq_intercalate, List.append_assoc, List.singleton_append]

/-- No space is ever put between the items of blocks. -/
theorem separate_run (row : List Block) : separate (Block.run row) = Block.run row := by
  induction row with
  | nil => rfl
  | cons block row ih =>
      cases block with
      | blank =>
          have empty : ∀ item ∈ ([] : Run), item.isLineBreak = false := by simp
          have first := separate_append_cons empty (Block.run row)
          rw [ih] at first
          exact first
      | comment text =>
          have alone : ∀ item ∈ [Trivia.comment text], item.isLineBreak = false := by
            simp [Trivia.isLineBreak]
          have first := separate_append_cons alone (Block.run row)
          rw [ih] at first
          exact first

theorem getLast?_run_cons (block : Block) (row : List Block) :
    (Block.run (block :: row)).getLast? = some .lineBreak := by
  induction row generalizing block with
  | nil => cases block <;> rfl
  | cons next row ih =>
      have last := ih next
      have filled : Block.run (next :: row) ≠ [] := by
        cases next <;> simp
      cases block with
      | blank =>
          rw [Block.run_blank_cons, List.getLast?_cons_of_ne_nil filled, last]
      | comment text =>
          rw [Block.run_comment_cons, List.getLast?_cons_cons,
            List.getLast?_cons_of_ne_nil filled, last]

theorem clearBeforeBreaks_append {front : Run} (bare : Bare front) (back : Run) :
    clearBeforeBreaks (front ++ back) = front ++ clearBeforeBreaks back := by
  induction front with
  | nil => rfl
  | cons here front ih =>
      obtain ⟨solid, bareFront⟩ := bare_cons.mp bare
      rw [List.cons_append, clearBeforeBreaks_cons, ih bareFront,
        consBeforeBreak_of_not_whitespace solid, List.cons_append]

theorem clearBeforeBreaks_run_append (row : List Block) (back : Option Trivia) :
    clearBeforeBreaks (Block.run row ++ back.toList) = Block.run row ++ back.toList := by
  rw [clearBeforeBreaks_append (bare_run row)]
  cases back with
  | none => simp
  | some item => simp [clearBeforeBreaks_cons, consBeforeBreak]

/-- A block goes through the sweep after line breaks if what follows its line break does. -/
theorem clearAfterBreaks_items_append (block : Block) {back front : Run}
    (cleared : clearAfterBreaks (.lineBreak :: back) = .lineBreak :: front) :
    clearAfterBreaks (block.items ++ back) = block.items ++ front := by
  cases block with
  | blank => exact cleared
  | comment text =>
      change clearAfterBreaks (.comment text :: .lineBreak :: back) = _
      rw [clearAfterBreaks_cons, cleared, consAfterBreak_of_not_lineBreak rfl]
      rfl

/-- A single whitespace item behind a row of blocks is taken away again. -/
theorem clearAfterBreaks_run_append (block : Block) (row : List Block) {back : Option Trivia}
    (spaces : ∀ item ∈ back, item.isWhitespace = true) :
    clearAfterBreaks (Block.run (block :: row) ++ back.toList) = Block.run (block :: row) := by
  induction row generalizing block with
  | nil =>
      have cleared : clearAfterBreaks (.lineBreak :: back.toList) = [.lineBreak] := by
        cases back with
        | none => simp [clearAfterBreaks_cons, consAfterBreak]
        | some item =>
            have space : item.isWhitespace = true := spaces item rfl
            simp [clearAfterBreaks_cons, consAfterBreak, space, Trivia.isLineBreak]
      simpa [Block.run] using clearAfterBreaks_items_append block cleared
  | cons next row ih =>
      have cleared : clearAfterBreaks (.lineBreak :: (Block.run (next :: row) ++ back.toList)) =
          .lineBreak :: Block.run (next :: row) := by
        rw [clearAfterBreaks_cons, ih, consAfterBreak_of_bare _ (bare_run _)]
      simpa [Block.run] using clearAfterBreaks_items_append block cleared

theorem openWith_run_cons {opening : Option Trivia}
    (opens : ∀ item ∈ opening, item.isWhitespace = true) (block : Block) (row : List Block) :
    openWith opening (Block.run (block :: row)) =
      opening.toList ++ Block.run (block :: row) := by
  cases opening with
  | none => rfl
  | some space =>
      have blank : space.isWhitespace = true := opens space rfl
      cases space with
      | whitespace width => cases block <;> simp [openWith]
      | lineBreak => simp [Trivia.isWhitespace] at blank
      | comment text => simp [Trivia.isWhitespace] at blank

/-- Behind blocks, which end in a line break, the closing adds at most whitespace. -/
theorem closeWith_append_run_cons {closing : Option Trivia}
    (closes : ∀ item ∈ closing, item.isComment = false) (front : Run) (block : Block)
    (row : List Block) :
    closeWith closing (front ++ Block.run (block :: row)) =
      front ++ (Block.run (block :: row) ++ (closing.filter Trivia.isWhitespace).toList) := by
  have last : (front ++ Block.run (block :: row)).getLast? = some .lineBreak := by
    rw [List.getLast?_append, getLast?_run_cons, Option.some_or]
  cases closing with
  | none => simp [closeWith]
  | some item =>
      have silent : item.isComment = false := closes item rfl
      cases item with
      | whitespace width => simp [closeWith, last, Option.filter_some, Trivia.isWhitespace]
      | lineBreak => simp [closeWith, last, Option.filter_some, Trivia.isWhitespace]
      | comment text => simp [Trivia.isComment] at silent

/-- An opening before blocks is taken away again, unless a comment is first. -/
theorem clearAroundBreaks_framed {opening back : Option Trivia}
    (opens : ∀ item ∈ opening, item.isWhitespace = true)
    (spaces : ∀ item ∈ back, item.isWhitespace = true) (closing : Option Trivia) (block : Block)
    (row : List Block) :
    clearAroundBreaks (opening.toList ++ (Block.run (block :: row) ++ back.toList)) =
      Block.framed opening closing (block :: row) := by
  have swept := clearBeforeBreaks_run_append (block :: row) back
  have cleared := clearAfterBreaks_run_append block row spaces
  rw [clearAroundBreaks]
  cases opening with
  | none =>
      rw [Option.toList_none, List.nil_append, swept, cleared]
      cases block <;> rfl
  | some space =>
      have blank : space.isWhitespace = true := opens space rfl
      have inline := Trivia.not_isLineBreak_of_isWhitespace blank
      rw [Option.toList_some, List.cons_append, List.nil_append, clearBeforeBreaks_cons, swept]
      cases block with
      | blank =>
          have dropped : consBeforeBreak space (Block.run (.blank :: row) ++ back.toList) =
              Block.run (.blank :: row) ++ back.toList := by
            simp [consBeforeBreak, blank, Trivia.isLineBreak]
          rw [dropped, cleared]
          rfl
      | comment text =>
          have stays : consBeforeBreak space (Block.run (.comment text :: row) ++ back.toList) =
              space :: (Block.run (.comment text :: row) ++ back.toList) := by
            simp [consBeforeBreak, Trivia.isLineBreak]
          rw [stays, clearAfterBreaks_cons, cleared, consAfterBreak_of_not_lineBreak inline]
          rfl

/-- Recomputing a run writes out the blocks of what its position keeps. -/
theorem normalise_eq_framed {opening closing : Option Trivia}
    (opens : ∀ item ∈ opening, item.isWhitespace = true)
    (closes : ∀ item ∈ closing, item.isComment = false) (exclusion : Exclusion) (run : Run) :
    normalise opening closing exclusion run =
      Block.framed opening closing (blocks (kept exclusion run)) := by
  rw [normalise, endComments_eq_run_blocks (bare_kept exclusion run), separate_run]
  cases blocks (kept exclusion run) with
  | nil =>
      have opened : openWith opening (Block.run []) = [] := by
        cases opening <;> rfl
      rw [opened]
      cases closing with
      | none => simp [closeWith, clearAroundBreaks, Block.framed]
      | some item =>
          simp [closeWith, clearAroundBreaks, clearBeforeBreaks_cons, clearAfterBreaks_cons,
            consBeforeBreak, consAfterBreak, Block.framed]
  | cons block row =>
      rw [openWith_run_cons opens, closeWith_append_run_cons closes,
        clearAroundBreaks_framed opens fun item member => (Option.mem_filter_iff.mp member).2]

end Run
end GCode
