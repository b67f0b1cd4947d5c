import GCode.Json.Numeral
import GCode.Json.Quotation

/-!
# Scalars

A scalar is a word, a number or a string.  It is read one character at a time, and only a number
needs the character behind it to know that it has ended.
-/

namespace GCode
namespace Json

/-- The two ways in which a text can fail to be JSON. -/
inductive Fault where
  /-- A character that cannot stand where it stands. -/
  | malformed
  /-- A text that ends before its value does. -/
  | truncated
deriving DecidableEq, Repr

/-- What one more character does to something that is being read. -/
inductive Progress (State : Type) where
  /-- The character belongs to the value, which may go on. -/
  | more (state : State)
  /-- The character is the last one of the value. -/
  | ends (value : Json)
  /-- The value has ended before the character. -/
  | ended (value : Json)
  /-- The character cannot stand here. -/
  | malformed

/-- The part of a scalar that has been read. -/
inductive Scalar where
  /-- A word that still needs the given letters. -/
  | word (value : Json) (letters : List Char)
  /-- A number. -/
  | number (numeral : Numeral)
  /-- A string behind its opening quote. -/
  | string (quotation : Quotation)

namespace Scalar

/-- The scalar that a first character starts, if it starts one. -/
def begin? (character : Char) : Option Scalar :=
  match character with
  | 'n' => some (word .null ['u', 'l', 'l'])
  | 't' => some (word (.bool true) ['r', 'u', 'e'])
  | 'f' => some (word (.bool false) ['a', 'l', 's', 'e'])
  | '\"' => some (string {})
  | _ => (Numeral.begin? character).map number

/-- The value of a complete number.  Lenient reading has no use for it and does not judge it. -/
def numberValue? (rigour : Rigour) (numeral : Numeral) : Option Json :=
  match rigour with
  | .strict => numeral.value?
  | .lenient => some .null

/-- Reads one more character. -/
def step (rigour : Rigour) (character : Char) : Scalar → Progress Scalar
  | word value letters =>
      match letters with
      | [] => .ended value
      | [letter] => if character = letter then .ends value else .malformed
      | letter :: rest => if character = letter then .more (word value rest) else .malformed
  | number numeral =>
      match numeral.step character with
      | .more numeral => .more (number numeral)
      | .malformed => .malformed
      | .ended =>
          match numberValue? rigour numeral with
          | some value => .ended value
          | none => .malformed
  | string quotation =>
      match quotation.step rigour character with
      | .more quotation => .more (string quotation)
      | .closed => .ends (.string quotation.text)
      | .malformed => .malformed

/-- The value of a scalar at the end of the text.  A number that needs more digits counts as
malformed in lenient reading. -/
def finish (rigour : Rigour) : Scalar → Except Fault Json
  | number numeral =>
      if numeral.phase.isComplete then
        match numberValue? rigour numeral with
        | some value => .ok value
        | none => .error .malformed
      else
        match rigour with
        | .strict => .error .truncated
        | .lenient => .error .malformed
  | word .. => .error .truncated
  | string _ => .error .truncated

end Scalar
end Json
end GCode
