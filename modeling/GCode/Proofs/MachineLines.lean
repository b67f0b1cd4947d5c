import GCode.Proofs.CanonicalText
import GCode.Proofs.EndOfFile
import GCode.Proofs.TooWide
import Mathlib.Data.List.DropRight

/-!
# What a machine reads

A machine reads a text line by line, drops everything from the first semicolon of a line on, and
skips blank lines.  What it reads of a formatted program is one line for each instruction, made of
the words of that instruction.
-/

namespace GCode
namespace Machine

/-- What is read of a line: the text before its first semicolon without the spaces at the end. -/
def readLine (line : List Char) : List Char :=
  (line.takeWhile (· ≠ ';')).rdropWhile (· = ' ')

/-- What is read of a text: its lines without those that are blank. -/
def read (text : List Char) : List (List Char) :=
  ((text.splitOn '\n').map readLine).filter (· ≠ [])

theorem readLine_eq_nil_iff {line : List Char} :
    readLine line = [] ↔ ∀ c ∈ line.takeWhile (· ≠ ';'), c = ' ' := by
  simp [readLine, List.rdropWhile_eq_nil_iff]

theorem rdropWhile_append_of_forall {α : Type} {p : α → Bool} (front : List α) {back : List α}
    (all : ∀ item ∈ back, p item = true) :
    (front ++ back).rdropWhile p = front.rdropWhile p := by
  rw [List.rdropWhile, List.reverse_append, List.dropWhile_append_of_pos, List.rdropWhile]
  intro item member
  exact all item (List.mem_reverse.mp member)

/-- A blank line behind another adds nothing to what is read of it. -/
theorem readLine_append (front : List Char) {back : List Char} (blank : readLine back = []) :
    readLine (front ++ back) = readLine front := by
  rw [readLine, List.takeWhile_append]
  split
  · rename_i whole
    have all : front.takeWhile (· ≠ ';') = front := (List.takeWhile_prefix _).eq_of_length whole
    rw [readLine, all]
    apply rdropWhile_append_of_forall
    intro c member
    exact decide_eq_true (readLine_eq_nil_iff.mp blank c member)
  · rfl

theorem readLine_replicate (count : Nat) : readLine (List.replicate count ' ') = [] := by
  rw [readLine_eq_nil_iff]
  intro c member
  exact List.eq_of_mem_replicate ((List.takeWhile_sublist _).subset member)

theorem readLine_semicolon (text : List Char) : readLine (';' :: text) = [] := by
  simp [readLine]

/-- A text is read on both sides of a line break apart. -/
theorem read_append_break (before after : List Char) :
    read (before ++ '\n' :: after) = read before ++ read after := by
  rw [read, List.splitOn_append_cons_self, List.map_append, List.filter_append]
  rfl

theorem read_of_unbroken {line : List Char} (unbroken : '\n' ∉ line) :
    read line = if readLine line = [] then [] else [readLine line] := by
  rw [read, List.splitOn_eq_singleton unbroken, List.map_singleton, List.filter_singleton]
  split <;> simp_all

theorem read_of_blank {line : List Char} (unbroken : '\n' ∉ line) (blank : readLine line = []) :
    read line = [] := by
  rw [read_of_unbroken unbroken, if_pos blank]

theorem read_blank_append {line : List Char} (unbroken : '\n' ∉ line)
    (blank : readLine line = []) (after : List Char) :
    read (line ++ '\n' :: after) = read after := by
  rw [read_append_break, read_of_blank unbroken blank, List.nil_append]

/-! ## Trivia -/

/-- Nothing is read of trivia, whatever blank text stands before it on its first line. -/
theorem read_append_characters {front : List Char} (unbroken : '\n' ∉ front)
    (blank : readLine front = []) {run : Run} (inline : run.OnOneLine) :
    read (front ++ Run.characters run) = [] := by
  -- `front` is what has been passed of the current line; a line break starts it anew.
  induction run generalizing front with
  | nil =>
      rw [Run.characters, List.flatMap_nil, List.append_nil]
      exact read_of_blank unbroken blank
  | cons item run ih =>
      have later : Run.OnOneLine run := fun text member =>
        inline text (List.mem_cons_of_mem item member)
      rw [Run.characters_cons]
      cases item with
      | whitespace width =>
          rw [← List.append_assoc]
          refine ih ?_ ?_ later
          · simp [Trivia.characters, unbroken]
          · exact (readLine_append front (readLine_replicate width.columns)).trans blank
      | lineBreak =>
          change read (front ++ '\n' :: Run.characters run) = []
          rw [read_blank_append unbroken blank]
          exact ih List.not_mem_nil rfl later
      | comment text =>
          have short : '\n' ∉ text.toList := inline text List.mem_cons_self
          rw [← List.append_assoc]
          refine ih ?_ ?_ later
          · simp [Trivia.characters, unbroken, short]
          · exact (readLine_append front (readLine_semicolon text.toList)).trans blank

theorem read_characters {run : Run} (inline : run.OnOneLine) :
    read (Run.characters run) = [] :=
  read_append_characters List.not_mem_nil rfl inline

/-- Blocks end with their lines, so nothing is read of them, whatever stands behind. -/
theorem read_blocks_append {row : List Block} (inline : Run.OnOneLine (Block.run row))
    (after : List Char) : read (Run.characters (Block.run row) ++ after) = read after := by
  induction row with
  | nil => rfl
  | cons block row ih =>
      cases block with
      | blank =>
          have later : Run.OnOneLine (Block.run row) := fun text member =>
            inline text (List.mem_cons_of_mem _ member)
          have first := read_append_break [] (Run.characters (Block.run row) ++ after)
          rw [ih later] at first
          exact first
      | comment text =>
          have short : '\n' ∉ text.toList := inline text (by simp)
          have later : Run.OnOneLine (Block.run row) := fun other member =>
            inline other (by simp [member])
          have unbroken : '\n' ∉ ';' :: text.toList := by simp [short]
          have first := read_blank_append unbroken (readLine_semicolon text.toList)
            (Run.characters (Block.run row) ++ after)
          rw [ih later] at first
          simpa [Run.characters, Trivia.characters] using first

end Machine

/-! ## Words -/

/-- A machine can read a token: its text is one word, and its comments stay on their lines. -/
structure Token.Readable (token : Token) : Prop where
  filled : token.text ≠ ""
  solid : ∀ c ∈ token.text.toList, c ≠ ' ' ∧ c ≠ ';' ∧ c ≠ '\n'
  leading : token.leading.OnOneLine
  trailing : token.trailing.OnOneLine

/-- A machine can read every token of an instruction. -/
def Instruction.Readable (content : Instruction) : Prop :=
  ∀ token ∈ content.tokens, token.Readable

namespace Machine

theorem mem_intercalate {words : List (List Char)} {c : Char}
    (member : c ∈ [' '].intercalate words) : c = ' ' ∨ ∃ word ∈ words, c ∈ word := by
  induction words with
  | nil => simp at member
  | cons word words ih =>
      cases words with
      | nil =>
          rw [List.intercalate_singleton] at member
          exact .inr ⟨word, by simp, member⟩
      | cons next words =>
          rw [List.intercalate_cons_cons, List.append_assoc] at member
          rcases List.mem_append.mp member with here | later
          · exact .inr ⟨word, by simp, here⟩
          · rcases List.mem_cons.mp later with space | rest
            · exact .inl space
            · rcases ih rest with space | ⟨other, among, inside⟩
              · exact .inl space
              · exact .inr ⟨other, List.mem_cons_of_mem _ among, inside⟩

/-- A row of words does not end in a space. -/
theorem getLast?_intercalate {words : List (List Char)} (filled : words ≠ [])
    (solid : ∀ word ∈ words, word ≠ [] ∧ ' ' ∉ word) :
    ∃ c, ([' '].intercalate words).getLast? = some c ∧ c ≠ ' ' := by
  induction words with
  | nil => exact absurd rfl filled
  | cons word words ih =>
      cases words with
      | nil =>
          obtain ⟨nonempty, spaceless⟩ := solid word (by simp)
          rw [List.intercalate_singleton]
          refine ⟨word.getLast nonempty, List.getLast?_eq_some_getLast nonempty, ?_⟩
          exact fun space => spaceless (space ▸ List.getLast_mem nonempty)
      | cons next words =>
          obtain ⟨c, last, visible⟩ := ih (by simp)
            fun other among => solid other (List.mem_cons_of_mem _ among)
          refine ⟨c, ?_, visible⟩
          rw [List.intercalate_cons_cons, List.getLast?_append, last, Option.some_or]

theorem readLine_of_visible {line : List Char} (uncommented : ';' ∉ line) {c : Char}
    (last : line.getLast? = some c) (visible : c ≠ ' ') : readLine line = line := by
  have whole : line.takeWhile (· ≠ ';') = line := by
    rw [List.takeWhile_eq_self_iff]
    intro other member
    exact decide_eq_true fun semicolon => uncommented (semicolon ▸ member)
  obtain ⟨front, rfl⟩ := List.getLast?_eq_some_iff.mp last
  rw [readLine, whole, List.rdropWhile_concat_neg]
  simpa using visible

variable {content : Instruction}

theorem solid_of_mem_line (readable : content.Readable) :
    ∀ c ∈ content.line, c ≠ ';' ∧ c ≠ '\n' := by
  intro c member
  rcases mem_intercalate member with rfl | ⟨word, among, inside⟩
  · decide
  · obtain ⟨token, tokenMember, rfl⟩ := List.mem_map.mp among
    exact ((readable token tokenMember).solid c inside).2

theorem getLast?_line (readable : content.Readable) :
    ∃ c, content.line.getLast? = some c ∧ c ≠ ' ' := by
  apply getLast?_intercalate
  · simp [Instruction.tokens]
  · intro word among
    obtain ⟨token, member, rfl⟩ := List.mem_map.mp among
    have own := readable token member
    exact ⟨by simpa using own.filled, fun space => (own.solid ' ' space).1 rfl⟩

theorem readLine_line (readable : content.Readable) : readLine content.line = content.line := by
  obtain ⟨c, last, visible⟩ := getLast?_line readable
  exact readLine_of_visible (fun semicolon => (solid_of_mem_line readable _ semicolon).1 rfl)
    last visible

theorem line_ne_nil (readable : content.Readable) : content.line ≠ [] := by
  obtain ⟨c, last, _⟩ := getLast?_line readable
  intro empty
  simp [empty] at last

/-! ## Instructions and programs -/

/-- The canonical run behind an instruction: a blank rest of its line, and then blocks. -/
theorem exists_of_closes {configuration : Configuration} {run : Run}
    (closes : run.Closes configuration) (inline : run.OnOneLine) :
    ∃ rest row, '\n' ∉ rest ∧ readLine rest = [] ∧ (Block.run row).OnOneLine ∧
      Run.characters run = rest ++ '\n' :: Run.characters (Block.run row) := by
  obtain ⟨first, row, _, rfl⟩ := closes
  have later : (Block.run row).OnOneLine := fun text member =>
    inline text (by cases first <;> simp [member])
  cases first with
  | blank => exact ⟨[], row, List.not_mem_nil, rfl, later, rfl⟩
  | comment text =>
      have short : '\n' ∉ text.toList := inline text (by simp)
      refine ⟨' ' :: ';' :: text.toList, row, by simp [short], ?_, later, ?_⟩
      · exact readLine_append [' '] (readLine_semicolon text.toList)
      · simp [Run.characters, Trivia.characters, Trivia.singleSpace]

/-- Of a canonical instruction one line is read, whatever stands behind it. -/
theorem read_canonical_append {configuration : Configuration}
    (canonical : content.Canonical configuration) (readable : content.Readable)
    (after : List Char) :
    read (content.tokens.flatMap Token.characters ++ after) = content.line :: read after := by
  obtain ⟨row, _, opening⟩ := canonical.opens
  have openingInline : (Block.run row).OnOneLine := by
    rw [← opening]
    exact (readable content.command List.mem_cons_self).leading
  obtain ⟨rest, others, unbroken, blank, inline, closing⟩ :=
    exists_of_closes canonical.closes (readable content.last content.last_mem_tokens).trailing
  have own : '\n' ∉ content.line ++ rest := by
    rw [List.mem_append, not_or]
    exact ⟨fun lineBreak => (solid_of_mem_line readable _ lineBreak).2 rfl, unbroken⟩
  have line : readLine (content.line ++ rest) = content.line :=
    (readLine_append _ blank).trans (readLine_line readable)
  calc
    read (content.tokens.flatMap Token.characters ++ after) =
        read (Run.characters (Block.run row) ++ ((content.line ++ rest) ++
          '\n' :: (Run.characters (Block.run others) ++ after))) := by
      rw [Instruction.characters_of_canonical canonical, opening, closing]
      simp only [List.append_assoc, List.cons_append]
    _ = read (content.line ++ rest) ++ read (Run.characters (Block.run others) ++ after) := by
      rw [read_blocks_append openingInline, read_append_break]
    _ = content.line :: read after := by
      rw [read_blocks_append inline, read_of_unbroken own, line, if_neg (line_ne_nil readable),
        List.singleton_append]

theorem readable_format (configuration : Configuration) (readable : content.Readable) :
    (content.format configuration).Readable := by
  intro token member
  obtain ⟨original, among, first, last, rfl⟩ := Instruction.exists_of_mem_tokens_format member
  have own := readable original among
  exact ⟨own.filled, own.solid, Run.onOneLine_formattedLeading configuration first own.leading,
    Run.onOneLine_formattedTrailing configuration last own.trailing⟩

/-- Of formatted instructions one line each is read, and nothing of the trivia behind them. -/
theorem read_formatted {configuration : Configuration}
    (normalises : configuration.normaliseWhitespace = true) {instructions : List Instruction}
    (readable : ∀ content ∈ instructions, content.Readable) {after : List Char}
    (silent : read after = []) :
    read (Program.characters ((instructions.map Statement.instruction).map
        (Statement.format configuration none)) ++ after) =
      instructions.map Instruction.line := by
  induction instructions with
  | nil => exact silent
  | cons content instructions ih =>
      rw [List.forall_mem_cons] at readable
      rw [List.map_cons, List.map_cons, Statement.format_instruction normalises,
        Program.characters, List.flatMap_cons, List.append_assoc]
      rw [← Program.characters, Statement.characters,
        read_canonical_append (Instruction.canonical_format configuration content)
          (readable_format configuration readable.1),
        ih readable.2, Instruction.line_format, List.map_cons]

end Machine

/-- The trivia that formatting leaves at the end of a file was there before. -/
theorem Statement.exists_format_endOfFile (configuration : Configuration) (trivia : Run) :
    ∃ left : Run, format configuration none (.endOfFile trivia) = .endOfFile left ∧
      left.Sublist trivia := by
  rw [format]
  split
  · exact ⟨_, rfl, Run.stripComments_sublist trivia⟩
  · exact ⟨_, rfl, List.Sublist.refl trivia⟩

namespace Program

theorem fits_formatted_ending (configuration : Configuration) {ending : Option Run}
    (narrow : ∀ trivia ∈ ending, ∀ width, .whitespace width ∈ trivia →
      width.columns ≤ widestColumns) :
    fits ((ending.map Statement.endOfFile).toList.map (Statement.format configuration none)) =
      true := by
  cases ending with
  | none => rfl
  | some trivia =>
      obtain ⟨left, formats, fewer⟩ := Statement.exists_format_endOfFile configuration trivia
      have leftFits : left.fits = true := Run.fits_iff.mpr fun ⟨width, member, wide⟩ =>
        Nat.not_le.mpr wide (narrow trivia rfl width (fewer.subset member))
      simpa [fits, formats, Statement.fits] using leftFits

/-- Nothing is read of the formatted end of a file. -/
theorem read_formatted_ending (configuration : Configuration) {ending : Option Run}
    (inline : ∀ trivia ∈ ending, trivia.OnOneLine) :
    Machine.read (characters ((ending.map Statement.endOfFile).toList.map
      (Statement.format configuration none))) = [] := by
  cases ending with
  | none => rfl
  | some trivia =>
      obtain ⟨left, formats, fewer⟩ := Statement.exists_format_endOfFile configuration trivia
      have leftInline : left.OnOneLine := fun text member =>
        inline trivia rfl text (fewer.subset member)
      simpa [characters, formats, Statement.characters] using Machine.read_characters leftInline

/-- A machine reads one line for each instruction of a formatted program: its words with single
spaces between them. -/
theorem read_write_formatted {configuration : Configuration}
    (normalises : configuration.normaliseWhitespace = true) {instructions : List Instruction}
    (readable : ∀ content ∈ instructions, content.Readable) {ending : Option Run}
    (inline : ∀ trivia ∈ ending, trivia.OnOneLine)
    (narrow : ∀ trivia ∈ ending, ∀ width, .whitespace width ∈ trivia →
      width.columns ≤ widestColumns) :
    ∃ text : String,
      (write configuration
        (instructions.map .instruction ++ (ending.map .endOfFile).toList)).text = .ok text ∧
      Machine.read text.toList = instructions.map Instruction.line := by
  rw [write_text, format_eq_map, List.map_append]
  refine ⟨_, renderIf_of_fits ?_ _, ?_⟩
  · rw [fits, List.all_append, Bool.and_eq_true]
    exact ⟨fits_formatted normalises instructions, fits_formatted_ending configuration narrow⟩
  · rw [String.toList_ofList, characters, List.flatMap_append]
    exact Machine.read_formatted normalises readable (read_formatted_ending configuration inline)

example :
    (write .standard
        [.instruction .roughMove, .endOfFile [.singleSpace, .comment "end"]]).text.toOption =
      some "; start\nG1 X10 Y20 ; move\n; done\n ;end" := by
  decide +kernel

theorem read_write_roughMove :
    Configuration.standard.normaliseWhitespace = true ∧
      ∃ text : String,
        (write .standard
          [.instruction .roughMove, .endOfFile [.singleSpace, .comment "end"]]).text = .ok text ∧
        Machine.read text.toList = ["G1 X10 Y20".toList] := by
  have readable : ∀ content ∈ [Instruction.roughMove], content.Readable := by
    intro content among token member
    rw [List.mem_singleton.mp among] at member
    simp only [Instruction.tokens, Instruction.roughMove, List.mem_cons, List.not_mem_nil,
      or_false] at member
    rcases member with rfl | rfl | rfl <;>
      exact ⟨by decide, by simp, by simp [Run.OnOneLine, Trivia.singleSpace],
        by simp [Run.OnOneLine, Trivia.singleSpace]⟩
  have inline : ∀ trivia ∈ some [Trivia.singleSpace, .comment "end"], Run.OnOneLine trivia := by
    simp [Run.OnOneLine, Trivia.singleSpace]
  have narrow : ∀ trivia ∈ some [Trivia.singleSpace, .comment "end"], ∀ width,
      Trivia.whitespace width ∈ trivia → width.columns ≤ widestColumns := by
    simp [Trivia.singleSpace, widestColumns]
  have standard : Configuration.standard.normaliseWhitespace = true := rfl
  obtain ⟨text, written, lines⟩ := read_write_formatted standard readable inline narrow
  exact ⟨standard, text, written, lines.trans (by decide +kernel)⟩

end Program
end GCode
