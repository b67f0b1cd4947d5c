import GCode.Proofs.Canonical
import GCode.Proofs.Writing

/-!
# Replacing the runs at the ends

The first run of an instruction belongs to its command and the last one to its last token, which is
the command itself if there are no arguments.  The two ends never get in each other's way: they can
be replaced in any order, and of several replacements of one end the last one stays.  The end of a
file has one run only, so there the last replacement of all stays: `Statement.replacement_laws`.
-/

namespace GCode

/-- A replacement of the run at one end of a statement. -/
inductive Replacement where
  /-- Replaces the first run. -/
  | leading (run : Run)
  /-- Replaces the last run. -/
  | trailing (run : Run)
deriving DecidableEq, Repr

namespace Replacement

/-- The run that a replacement puts in. -/
def run : Replacement → Run
  | leading run => run
  | trailing run => run

/-- The run that a replacement puts in at the front. -/
def leading? : Replacement → Option Run
  | leading run => some run
  | trailing _ => none

/-- The run that a replacement puts in at the back. -/
def trailing? : Replacement → Option Run
  | leading _ => none
  | trailing run => some run

/-- Carries out a replacement. -/
def apply (replacement : Replacement) (statement : Statement) : Statement :=
  match replacement with
  | leading run => statement.withLeading run
  | trailing run => statement.withTrailing run

/-- Carries out replacements one after the other. -/
def applyAll : List Replacement → Statement → Statement
  | [], statement => statement
  | replacement :: replacements, statement => applyAll replacements (replacement.apply statement)

end Replacement

namespace Instruction

section Ends

variable (content : Instruction) (before after : Run)

/-! ## Laws of one and two replacements -/

theorem withLeading_withLeading (before' : Run) :
    (content.withLeading before').withLeading before = content.withLeading before := rfl

theorem withLeading_leading : content.withLeading content.command.leading = content := rfl

theorem withTrailing_withTrailing (after' : Run) :
    (content.withTrailing after').withTrailing after = content.withTrailing after := by
  cases content using lastCases with
  | alone command => rfl
  | followed command front last =>
      rw [withTrailing_followed, withTrailing_followed, withTrailing_followed]
      rfl

theorem withTrailing_trailing : content.withTrailing content.last.trailing = content := by
  cases content using lastCases with
  | alone command => rfl
  | followed command front last =>
      rw [last_followed, withTrailing_followed]
      rfl

theorem withLeading_withTrailing :
    (content.withLeading before).withTrailing after =
      (content.withTrailing after).withLeading before := by
  cases content using lastCases with
  | alone command => rfl
  | followed command front last =>
      have behind : withLeading before ⟨command, front ++ [last]⟩ =
          ⟨command.withLeading before, front ++ [last]⟩ := rfl
      rw [behind, withTrailing_followed, withTrailing_followed]
      rfl

/-! ## What is at the ends afterwards -/

theorem leading_withTrailing :
    (content.withTrailing after).command.leading = content.command.leading := by
  cases content using lastCases with
  | alone command => rfl
  | followed command front last => rw [withTrailing_followed]

theorem trailing_withTrailing : (content.withTrailing after).last.trailing = after := by
  cases content using lastCases with
  | alone command => rfl
  | followed command front last =>
      rw [withTrailing_followed, last_followed]
      rfl

theorem trailing_withLeading :
    (content.withLeading before).last.trailing = content.last.trailing := by
  rw [← trailing_withTrailing (content.withLeading before) content.last.trailing,
    withLeading_withTrailing, withTrailing_trailing]

/-! ## What stays -/

theorem tokens_withTrailing :
    (content.withTrailing after).tokens =
      content.tokens.dropLast ++ [content.last.withTrailing after] := by
  cases content using lastCases with
  | alone command => rfl
  | followed command front last =>
      rw [withTrailing_followed, dropLast_tokens_followed, last_followed]
      rfl

theorem getElem?_tokens_withLeading (index : Nat) :
    (content.withLeading before).tokens[index]? =
      content.tokens[index]?.map fun token =>
        if index = 0 then token.withLeading before else token := by
  cases index with
  | zero => rfl
  | succ index => simp [tokens, withLeading]

theorem getElem?_tokens_withTrailing (index : Nat) :
    (content.withTrailing after).tokens[index]? =
      content.tokens[index]?.map fun token =>
        if index + 1 = content.tokens.length then token.withTrailing after else token := by
  have split := content.tokens_eq_concat
  rw [tokens_withTrailing]
  generalize content.tokens.dropLast = front at split ⊢
  rw [split, List.length_append, List.length_singleton]
  rcases Nat.lt_trichotomy index front.length with inner | rfl | behind
  · have notLast : index ≠ front.length := Nat.ne_of_lt inner
    simp [List.getElem?_append_left inner, notLast]
  · simp
  · have beyond : ∀ token, (front ++ [token])[index]? = none := by
      intro token
      rw [List.getElem?_eq_none]
      rw [List.length_append, List.length_singleton]
      exact behind
    rw [beyond, beyond, Option.map_none]

end Ends

/-! ## Sequences of replacements -/

/-- Of several replacements of an end the last one stays. -/
theorem applyAll_instruction (replacements : List Replacement) (content : Instruction) :
    Replacement.applyAll replacements (.instruction content) =
      .instruction
        ((content.withLeading
            ((replacements.filterMap Replacement.leading?).getLastD
              content.command.leading)).withTrailing
          ((replacements.filterMap Replacement.trailing?).getLastD content.last.trailing)) := by
  induction replacements generalizing content with
  | nil => exact congrArg Statement.instruction content.withTrailing_trailing.symm
  | cons replacement replacements ih =>
      cases replacement with
      | leading run =>
          have later := ih (content.withLeading run)
          rw [trailing_withLeading, withLeading_withLeading] at later
          have fronts : (Replacement.leading run :: replacements).filterMap Replacement.leading? =
              run :: replacements.filterMap Replacement.leading? := rfl
          rw [fronts, List.getLastD_cons]
          exact later
      | trailing run =>
          have later := ih (content.withTrailing run)
          rw [leading_withTrailing, trailing_withTrailing, ← withLeading_withTrailing,
            withTrailing_withTrailing] at later
          have backs : (Replacement.trailing run :: replacements).filterMap
              Replacement.trailing? = run :: replacements.filterMap Replacement.trailing? := rfl
          rw [backs, List.getLastD_cons]
          exact later

/-! ## Text -/

/-- The instruction with nothing before its command and nothing behind its last token. -/
def bared (content : Instruction) : Instruction := (content.withLeading []).withTrailing []

section Text

variable (content : Instruction) (before after : Run)

theorem characters_withLeading_withTrailing :
    (Statement.instruction ((content.withLeading before).withTrailing after)).characters =
      Run.characters before ++ (Statement.instruction content.bared).characters ++
        Run.characters after := by
  cases content using lastCases with
  | alone command =>
      simp [bared, withLeading, withTrailing, Statement.characters, tokens, Token.characters,
        Token.withLeading, Token.withTrailing, Run.characters]
  | followed command front last =>
      simp [bared, withLeading, withTrailing_followed, Statement.characters, tokens,
        Token.characters, Token.withLeading, Token.withTrailing, Run.characters]

theorem fits_withLeading_withTrailing :
    (Statement.instruction ((content.withLeading before).withTrailing after)).fits =
      (Run.fits before && (Statement.instruction content.bared).fits && Run.fits after) := by
  cases content using lastCases with
  | alone command =>
      simp [bared, withLeading, withTrailing, Statement.fits, tokens, Token.fits,
        Token.withLeading, Token.withTrailing, Run.fits]
  | followed command front last =>
      simp [bared, withLeading, withTrailing_followed, Statement.fits, tokens, Token.fits,
        Token.withLeading, Token.withTrailing, Run.fits, Bool.and_assoc]

/-- The text of an instruction is the text of what is bared, between the texts of the runs at its
ends. -/
theorem render_withLeading_withTrailing :
    (Statement.instruction ((content.withLeading before).withTrailing after)).render =
      (do return (← Run.render before) ++ (← (Statement.instruction content.bared).render) ++
        (← Run.render after)) := by
  simp only [Statement.render, characters_withLeading_withTrailing, fits_withLeading_withTrailing,
    renderIf_append, Run.render, bind_assoc, pure_bind]

end Text
end Instruction

theorem Replacement.applyAll_endOfFile (replacements : List Replacement) (trivia : Run) :
    applyAll replacements (.endOfFile trivia) =
      .endOfFile ((replacements.map run).getLastD trivia) := by
  induction replacements generalizing trivia with
  | nil => rfl
  | cons replacement replacements ih =>
      have later := ih replacement.run
      rw [List.map_cons, List.getLastD_cons, ← later]
      cases replacement <;> rfl

/-- The two ends of an instruction are replaced independently of each other.  Replacements of
different ends commute, the last one at an end stays, and the run that is already there changes
nothing.  Only the first run of the first token and the last run of the last token are touched, and
so the text changes at its two ends only.  At the end of a file the last replacement of all
stays. -/
theorem Statement.replacement_laws (content : Instruction) :
    let statement := Statement.instruction content
    ((∀ before after,
        (statement.withLeading before).withTrailing after =
          (statement.withTrailing after).withLeading before) ∧
        (∀ earlier later,
          (statement.withLeading earlier).withLeading later = statement.withLeading later ∧
            (statement.withTrailing earlier).withTrailing later = statement.withTrailing later) ∧
        statement.withLeading content.command.leading = statement ∧
        statement.withTrailing content.last.trailing = statement) ∧
      (∀ run index,
        (statement.withLeading run).tokens[index]? =
            (statement.tokens[index]?.map fun token =>
              if index = 0 then token.withLeading run else token) ∧
          (statement.withTrailing run).tokens[index]? =
            (statement.tokens[index]?.map fun token =>
              if index + 1 = statement.tokens.length then token.withTrailing run else token)) ∧
      (∃ inner : Except RenderError String,
        statement.render =
            (do return (← Run.render content.command.leading) ++ (← inner) ++
              (← Run.render content.last.trailing)) ∧
          ∀ before after, ((statement.withLeading before).withTrailing after).render =
            (do return (← Run.render before) ++ (← inner) ++ (← Run.render after))) ∧
      ∀ replacements,
        Replacement.applyAll replacements statement =
            (statement.withLeading ((replacements.filterMap Replacement.leading?).getLastD
              content.command.leading)).withTrailing
                ((replacements.filterMap Replacement.trailing?).getLastD content.last.trailing) ∧
          ∀ trivia, Replacement.applyAll replacements (.endOfFile trivia) =
            .endOfFile ((replacements.map Replacement.run).getLastD trivia) := by
  intro statement
  refine ⟨⟨?_, fun earlier later => ⟨?_, ?_⟩, ?_, ?_⟩, fun run index => ⟨?_, ?_⟩, ?_,
    fun replacements => ⟨?_, ?_⟩⟩
  · exact fun before after =>
      congrArg instruction (content.withLeading_withTrailing before after)
  · exact congrArg instruction (content.withLeading_withLeading later earlier)
  · exact congrArg instruction (content.withTrailing_withTrailing later earlier)
  · exact congrArg instruction content.withLeading_leading
  · exact congrArg instruction content.withTrailing_trailing
  · exact content.getElem?_tokens_withLeading run index
  · exact content.getElem?_tokens_withTrailing run index
  · refine ⟨(instruction content.bared).render, ?_, content.render_withLeading_withTrailing⟩
    have own := content.render_withLeading_withTrailing content.command.leading
      content.last.trailing
    rwa [Instruction.withLeading_leading, Instruction.withTrailing_trailing] at own
  · exact Instruction.applyAll_instruction replacements content
  · exact Replacement.applyAll_endOfFile replacements

example :
    let homing : Statement := .instruction ⟨{ kind := .command, text := "G28" }, []⟩
    ((homing.withTrailing [.comment " home"]).withLeading [.lineBreak]).tokens =
      [⟨.command, "G28", [.lineBreak], [.comment " home"]⟩] := by
  decide

end GCode
