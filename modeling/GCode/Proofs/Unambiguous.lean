import GCode.Proofs.MachineLines
import GCode.Proofs.Words

/-!
# Formatted text is unambiguous

The text of a formatted instruction can be taken apart in one way only: into the lines of its
opening blocks, the words, and the lines of its closing blocks.  Formatted instructions with the
same text are therefore equal: `Statement.render_format_injective`.
-/

namespace GCode

theorem takeWhile_append_of_stop {α : Type} {p : α → Bool} {front back : List α}
    (inside : ∀ item ∈ front, p item = true) (stop : ∀ item ∈ back.head?, p item = false) :
    (front ++ back).takeWhile p = front := by
  rw [List.takeWhile_append_of_pos inside]
  cases back with
  | nil => simp
  | cons item back => simp [stop item rfl]

/-- Two texts in a row are known from the whole if the second starts with the first character that
the first one cannot hold. -/
theorem append_inj_of_stop {α : Type} {p : α → Bool} {front front' back back' : List α}
    (inside : ∀ item ∈ front, p item = true) (inside' : ∀ item ∈ front', p item = true)
    (stop : ∀ item ∈ back.head?, p item = false) (stop' : ∀ item ∈ back'.head?, p item = false)
    (same : front ++ back = front' ++ back') : front = front' ∧ back = back' := by
  have fronts : front = front' := by
    rw [← takeWhile_append_of_stop inside stop, same, takeWhile_append_of_stop inside' stop']
  subst fronts
  exact ⟨rfl, List.append_cancel_left same⟩

/-! ## Blocks -/

namespace Block

/-- The line of text that a block is written as. -/
def line : Block → List Char
  | blank => []
  | comment text => ';' :: text.toList

theorem line_injective {first second : Block} (same : first.line = second.line) :
    first = second := by
  cases first <;> cases second <;> simp_all [line, String.toList_inj]

theorem characters_run_cons (block : Block) (row : List Block) :
    Run.characters (run (block :: row)) = block.line ++ '\n' :: Run.characters (run row) := by
  cases block <;> simp [Run.characters, Trivia.characters, line]

/-- The first character of a block is a line break or a semicolon. -/
theorem head?_characters_run_cons (block : Block) (row : List Block) :
    (Run.characters (run (block :: row))).head? =
      some (if block = .blank then '\n' else ';') := by
  cases block <;> rfl

theorem onOneLine_run_cons {block : Block} {row : List Block} :
    (run (block :: row)).OnOneLine ↔ '\n' ∉ block.line ∧ (run row).OnOneLine := by
  cases block <;> simp [Run.OnOneLine, line]

/-- No block stands at the front of a text. -/
def NoneStarts (text : List Char) : Prop :=
  ∀ c ∈ text.head?, c ≠ '\n' ∧ c ≠ ';'

theorem noneStarts_nil : NoneStarts [] := by simp [NoneStarts]

theorem not_noneStarts_append (block : Block) (row : List Block) (rest : List Char) :
    ¬NoneStarts (Run.characters (run (block :: row)) ++ rest) := by
  intro none
  have first := head?_characters_run_cons block row
  have head := none (if block = .blank then '\n' else ';')
    (by rw [List.head?_append, first]; rfl)
  split at head
  · exact head.1 rfl
  · exact head.2 rfl

theorem ne_of_unbroken {text : List Char} (unbroken : '\n' ∉ text) :
    ∀ c ∈ text, decide (c ≠ '\n') = true :=
  fun _ member => decide_eq_true fun broken => unbroken (broken ▸ member)

/-- A row of blocks can be read back from the front of a text, and so can what is behind it. -/
theorem characters_run_append_inj {row row' : List Block} (inline : (run row).OnOneLine)
    (inline' : (run row').OnOneLine) {rest rest' : List Char} (none : NoneStarts rest)
    (none' : NoneStarts rest')
    (same : Run.characters (run row) ++ rest = Run.characters (run row') ++ rest') :
    row = row' ∧ rest = rest' := by
  induction row generalizing row' with
  | nil =>
      cases row' with
      | nil => exact ⟨rfl, same⟩
      | cons block row' =>
          have starts : rest = Run.characters (run (block :: row')) ++ rest' := same
          exact absurd (starts ▸ none) (not_noneStarts_append block row' rest')
  | cons block row ih =>
      cases row' with
      | nil =>
          have starts : Run.characters (run (block :: row)) ++ rest = rest' := same
          exact absurd (starts ▸ none') (not_noneStarts_append block row rest)
      | cons block' row' =>
          obtain ⟨unbroken, later⟩ := onOneLine_run_cons.mp inline
          obtain ⟨unbroken', later'⟩ := onOneLine_run_cons.mp inline'
          rw [characters_run_cons, characters_run_cons, List.append_assoc, List.append_assoc]
            at same
          -- The line of the first block ends at the first line break.
          obtain ⟨lines, others⟩ := append_inj_of_stop (ne_of_unbroken unbroken)
            (ne_of_unbroken unbroken') (by simp) (by simp) same
          obtain ⟨rows, rests⟩ := ih later later' (List.cons_eq_cons.mp others).2
          exact ⟨by rw [line_injective lines, rows], rests⟩

/-- What stands before the closing blocks of an instruction: a space before a comment. -/
def gap (first : Block) : Run := if first = .blank then [] else [.singleSpace]

theorem eq_space_of_mem_gap (first : Block) : ∀ c ∈ Run.characters (gap first), c = ' ' := by
  intro c member
  cases first with
  | blank => exact absurd member List.not_mem_nil
  | comment text => exact List.mem_singleton.mp member

end Block

/-! ## Instructions -/

namespace Instruction

variable {configuration : Configuration} {content : Instruction}

/-- The parts that the text of a canonical instruction is made of. -/
theorem Canonical.exists_parts (canonical : content.Canonical configuration)
    (readable : content.Readable) :
    ∃ opening first row,
      content.command.leading = Block.run opening ∧
        content.last.trailing = Block.gap first ++ Block.run (first :: row) ∧
        (Block.run opening).OnOneLine ∧ (Block.run (first :: row)).OnOneLine ∧
        content.tokens.flatMap Token.characters =
          Run.characters (Block.run opening) ++
            (content.line ++ Run.characters (Block.gap first) ++
              Run.characters (Block.run (first :: row))) := by
  obtain ⟨opening, _, leading⟩ := canonical.opens
  obtain ⟨first, row, _, trailing⟩ := canonical.closes
  have before := (readable content.command List.mem_cons_self).leading
  have behind := (readable content.last content.last_mem_tokens).trailing
  rw [leading] at before
  rw [trailing] at behind
  refine ⟨opening, first, row, leading, trailing, before,
    fun text member => behind text (List.mem_append_right _ member), ?_⟩
  rw [characters_of_canonical canonical, leading, trailing, Run.characters, Run.characters,
    List.flatMap_append]
  simp only [List.append_assoc]
  rfl

/-- The characters of the words and of the gap behind them start no block. -/
theorem solid_of_mem_line_append_gap (readable : content.Readable) (first : Block) :
    ∀ c ∈ content.line ++ Run.characters (Block.gap first), c ≠ '\n' ∧ c ≠ ';' := by
  intro c member
  rcases List.mem_append.mp member with word | space
  · exact (Machine.solid_of_mem_line readable c word).symm
  · rw [Block.eq_space_of_mem_gap first c space]
    decide

theorem noneStarts_line_append (readable : content.Readable) (first : Block) (rest : List Char) :
    Block.NoneStarts (content.line ++ Run.characters (Block.gap first) ++ rest) := by
  intro c head
  have filled : content.line ++ Run.characters (Block.gap first) ≠ [] :=
    List.append_ne_nil_of_left_ne_nil (Machine.line_ne_nil readable) _
  rw [List.head?_append_of_ne_nil _ filled] at head
  exact solid_of_mem_line_append_gap readable first c (List.mem_of_head? head)

/-- The text of a canonical instruction determines its words' line and its runs at both ends. -/
theorem Canonical.parts_eq {other : Configuration} {content' : Instruction}
    (canonical : content.Canonical configuration) (canonical' : content'.Canonical other)
    (readable : content.Readable) (readable' : content'.Readable)
    (same : content.tokens.flatMap Token.characters = content'.tokens.flatMap Token.characters) :
    content.line = content'.line ∧ content.command.leading = content'.command.leading ∧
      content.last.trailing = content'.last.trailing := by
  obtain ⟨opening, first, row, leading, trailing, inline, behind, text⟩ :=
    canonical.exists_parts readable
  obtain ⟨opening', first', row', leading', trailing', inline', behind', text'⟩ :=
    canonical'.exists_parts readable'
  rw [text, text'] at same
  obtain ⟨openings, rests⟩ := Block.characters_run_append_inj inline inline'
    (noneStarts_line_append readable first _) (noneStarts_line_append readable' first' _) same
  -- The words and the gap end where a line break or a semicolon stands for the first time.
  obtain ⟨lines, closings⟩ := append_inj_of_stop
    (p := fun c => decide (c ≠ '\n' ∧ c ≠ ';'))
    (fun c member => decide_eq_true (solid_of_mem_line_append_gap readable first c member))
    (fun c member => decide_eq_true (solid_of_mem_line_append_gap readable' first' c member))
    (by rw [Block.head?_characters_run_cons]; cases first <;> simp)
    (by rw [Block.head?_characters_run_cons]; cases first' <;> simp) rests
  have blocks : first :: row = first' :: row' ∧ ([] : List Char) = [] :=
    Block.characters_run_append_inj behind behind' Block.noneStarts_nil Block.noneStarts_nil
      (by rw [closings])
  obtain ⟨rfl, rfl⟩ := List.cons_eq_cons.mp blocks.1
  exact ⟨List.append_cancel_right lines, by rw [leading, leading', openings],
    by rw [trailing, trailing']⟩

/-- The words can be read back from their line. -/
theorem splitOn_line (readable : content.Readable) :
    content.line.splitOn ' ' = (content.tokens.map Token.text).map String.toList := by
  rw [List.map_map, line]
  apply List.splitOn_intercalate
  · intro word among
    obtain ⟨token, member, rfl⟩ := List.mem_map.mp among
    exact fun space => ((readable token member).solid ' ' space).1 rfl
  · simp [tokens]

theorem texts_eq_of_line_eq {content' : Instruction} (readable : content.Readable)
    (readable' : content'.Readable) (same : content.line = content'.line) :
    content.tokens.map Token.text = content'.tokens.map Token.text := by
  have texts := congrArg (List.splitOn ' ') same
  rw [splitOn_line readable, splitOn_line readable'] at texts
  exact List.map_injective_iff.mpr (fun _ _ => String.toList_injective) texts

/-- A move with one argument and trivia on both sides of the place between its words. -/
def shortMove (behind before : Run) : Instruction :=
  ⟨{ kind := .command, text := "G1", trailing := behind },
    [{ kind := .argument, text := "X10", leading := before }]⟩

theorem readable_shortMove {behind before : Run} (inline : behind.OnOneLine)
    (inline' : before.OnOneLine) : (shortMove behind before).Readable := by
  have empty : Run.OnOneLine [] := by simp [Run.OnOneLine]
  intro token member
  simp only [tokens, shortMove, List.mem_cons, List.not_mem_nil, or_false] at member
  rcases member with rfl | rfl
  · exact ⟨by simp, by simp, empty, inline⟩
  · exact ⟨by simp, by simp, inline', empty⟩

end Instruction

namespace Statement

/-- Formatted instructions can be written, and their texts are equal only if they are equal. -/
theorem render_format_injective {configuration : Configuration}
    (normalises : configuration.normaliseWhitespace = true) {first second : Instruction}
    (wellKinded : first.WellKinded) (wellKinded' : second.WellKinded)
    (readable : first.Readable) (readable' : second.Readable)
    (previous previous' : Option Statement) :
    ∃ text text' : String,
      (format configuration previous (.instruction first)).render = .ok text ∧
        (format configuration previous' (.instruction second)).render = .ok text' ∧
        (text = text' ↔
          format configuration previous (.instruction first) =
            format configuration previous' (.instruction second)) := by
  have canonical := first.canonical_format configuration
  have canonical' := second.canonical_format configuration
  rw [format_instruction normalises, format_instruction normalises]
  refine ⟨_, _, renderIf_of_fits canonical.fits _, renderIf_of_fits canonical'.fits _, ?_, ?_⟩
  · intro same
    obtain ⟨lines, leading, trailing⟩ := canonical.parts_eq canonical'
      (Machine.readable_format configuration readable)
      (Machine.readable_format configuration readable') (String.ofList_injective same)
    rw [Instruction.line_format, Instruction.line_format] at lines
    have words := wellKinded.words_eq wellKinded'
      (Instruction.texts_eq_of_line_eq readable readable' lines)
    rw [instruction.injEq, canonical.eq_iff canonical', Instruction.words_format,
      Instruction.words_format]
    exact ⟨words, leading, trailing⟩
  · intro equal
    rw [equal]

example :
    (instruction (.shortMove [.singleSpace] [])).characters =
        (instruction (.shortMove [] [.singleSpace])).characters ∧
      Instruction.shortMove [.singleSpace] [] ≠ .shortMove [] [.singleSpace] := by
  decide +kernel

/-- The space between two words is behind the first or before the second. -/
theorem render_shortMove_injective :
    let behind := Instruction.shortMove [.singleSpace] []
    let before := Instruction.shortMove [] [.singleSpace]
    Configuration.standard.normaliseWhitespace = true ∧
      behind.WellKinded ∧ before.WellKinded ∧ behind.Readable ∧ before.Readable ∧
      ∃ text text' : String,
        (format .standard none (.instruction behind)).render = .ok text ∧
          (format .standard none (.instruction before)).render = .ok text' ∧
          (text = text' ↔
            format .standard none (.instruction behind) =
              format .standard none (.instruction before)) := by
  intro behind before
  have empty : Run.OnOneLine [] := by simp [Run.OnOneLine]
  have space : Run.OnOneLine [.singleSpace] := by simp [Run.OnOneLine, Trivia.singleSpace]
  have kinded : behind.WellKinded := by decide
  have kinded' : before.WellKinded := by decide
  have readable := Instruction.readable_shortMove space empty
  have readable' := Instruction.readable_shortMove empty space
  exact ⟨rfl, kinded, kinded', readable, readable',
    render_format_injective rfl kinded kinded' readable readable' none none⟩

end Statement
end GCode
