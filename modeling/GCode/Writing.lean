import GCode.Pass
import GCode.Rendering

/-!
# Writing programs

A program is formatted and written out statement by statement: each is rendered before the next is
asked for, and writing stops at the first that cannot be rendered.
-/

namespace GCode

/-- A formatted program as text, and what was told on the way. -/
structure Writing where
  /-- The text, unless a statement could not be rendered. -/
  text : Except RenderError String
  /-- The events in the order of time. -/
  log : List Event

/-- Text that is being written, and how many statements have gone into it. -/
structure Draft where
  /-- The text so far. -/
  text : String := ""
  /-- The number of statements in it. -/
  count : Nat := 0

/-- Adds the text of one more statement. -/
def Draft.push (text : String) (draft : Draft) : Draft := ⟨draft.text ++ text, draft.count + 1⟩

namespace Pass

/-- Adds the text of the next statements to a draft, at most `count` of them, up to the first "no
more" or to the first that cannot be rendered. -/
def write : (count : Nat) → (draft : Draft) → (pass : Pass) → Except RenderError Draft × Pass
  | 0, draft, pass => (.ok draft, pass)
  | count + 1, draft, pass =>
      match pass.next with
      | (none, pass) => (.ok draft, pass)
      | (some statement, pass) =>
          match statement.render with
          | .error error => (.error error, pass)
          | .ok text => write count (draft.push text) pass

end Pass

namespace Program

/-- Formats a program and writes it out. -/
def write (configuration : Configuration) (program : Program) : Writing :=
  let pass := Pass.start configuration (.ofProgram program)
  match pass.write (pass.source.slots.length + 1) {} with
  | (.error error, pass) => ⟨.error error, pass.log⟩
  | (.ok draft, pass) =>
      ⟨.ok draft.text, (pass.tell (.wrote draft.count draft.text.utf8ByteSize)).log⟩

end Program
end GCode
