/-!
# Quotations

A quoted string is read one character at a time behind its opening quote.  Strict reading wants
every surrogate to have its partner; lenient reading puts the replacement character for each.
-/

namespace GCode
namespace Json

/-- How much of the text is checked beside its shape. -/
inductive Rigour where
  /-- Surrogates are paired, and numbers are not too large. -/
  | strict
  /-- Only the shape is checked. -/
  | lenient
deriving DecidableEq, Repr

/-- The part of a quotation that was read last. -/
inductive QuotationPhase where
  /-- A character that stands for itself, or a whole escape. -/
  | plain
  /-- A backslash. -/
  | escape
  /-- Some of the four bytes of a code unit, with the value of their digits if all are digits, and
  with the leading surrogate that came before. -/
  | unit (leading : Option Nat) (bytes : Nat) (value : Option Nat)
  /-- A leading surrogate, behind which a backslash must come. -/
  | leading (unit : Nat)
  /-- A leading surrogate and a backslash, behind which a `u` must come. -/
  | leadingEscape (unit : Nat)
deriving DecidableEq, Repr

/-- The part of a quotation that has been read. -/
structure Quotation where
  /-- Where reading stands. -/
  phase : QuotationPhase := .plain
  /-- The characters so far, the last one first. -/
  reversed : List Char := []
deriving DecidableEq, Repr

namespace Quotation

/-- The text of a quotation. -/
def text (quotation : Quotation) : String := String.ofList quotation.reversed.reverse

/-- Adds a character. -/
def push (character : Char) (quotation : Quotation) : Quotation :=
  ⟨.plain, character :: quotation.reversed⟩

/-- The value of a hexadecimal digit. -/
def hexDigit? (character : Char) : Option Nat :=
  if '0' ≤ character ∧ character ≤ '9' then some (character.toNat - '0'.toNat)
  else if 'a' ≤ character ∧ character ≤ 'f' then some (character.toNat - 'a'.toNat + 10)
  else if 'A' ≤ character ∧ character ≤ 'F' then some (character.toNat - 'A'.toNat + 10)
  else none

/-- The character that an escape of one letter stands for. -/
def escape? (letter : Char) : Option Char :=
  match letter with
  | '\"' => some '\"'
  | '\\' => some '\\'
  | '/' => some '/'
  | 'b' => some '\x08'
  | 'f' => some '\x0c'
  | 'n' => some '\n'
  | 'r' => some '\r'
  | 't' => some '\t'
  | _ => none

/-- Whether a code unit is the first of a pair. -/
def isLeading (unit : Nat) : Bool := 0xd800 ≤ unit && unit < 0xdc00

/-- Whether a code unit is the second of a pair. -/
def isTrailing (unit : Nat) : Bool := 0xdc00 ≤ unit && unit < 0xe000

/-- The character that a pair of code units stands for. -/
def paired (leading trailing : Nat) : Char :=
  Char.ofNat (0x10000 + (leading - 0xd800) * 0x400 + (trailing - 0xdc00))

/-- Takes a whole code unit behind `leading`, or fails if the two cannot stand there. -/
def pushUnit? (rigour : Rigour) (leading : Option Nat) (unit : Nat) (quotation : Quotation) :
    Option Quotation :=
  match rigour, leading with
  | .lenient, _ =>
      some (quotation.push (if isLeading unit || isTrailing unit then '\ufffd' else .ofNat unit))
  | .strict, some first =>
      if isTrailing unit then some (quotation.push (paired first unit)) else none
  | .strict, none =>
      if isTrailing unit then none
      else if isLeading unit then some { quotation with phase := .leading unit }
      else some (quotation.push (.ofNat unit))

/-- What one more character does to a quotation. -/
inductive Step where
  /-- The character belongs to the quotation, which goes on. -/
  | more (quotation : Quotation)
  /-- The character is the closing quote. -/
  | closed
  /-- No quotation goes on like this. -/
  | malformed

/-- A step to the quotation, if there is one. -/
def Step.ofOption : Option Quotation → Step
  | some quotation => .more quotation
  | none => .malformed

/-- Reads one more character.  A code unit takes four bytes of the text, and is judged when it has
them all. -/
def step (rigour : Rigour) (character : Char) (quotation : Quotation) : Step :=
  match quotation.phase with
  | .plain =>
      if character = '\"' then .closed
      else if character = '\\' then .more { quotation with phase := .escape }
      else if character.toNat < 0x20 then .malformed
      else .more (quotation.push character)
  | .escape =>
      if character = 'u' then .more { quotation with phase := .unit none 0 (some 0) }
      else .ofOption ((escape? character).map quotation.push)
  | .unit leading bytes value =>
      let bytes := bytes + character.utf8Size
      let value := do return (← value) * 16 + (← hexDigit? character)
      if bytes < 4 then .more { quotation with phase := .unit leading bytes value }
      else .ofOption (value.bind fun unit => quotation.pushUnit? rigour leading unit)
  | .leading unit =>
      if character = '\\' then .more { quotation with phase := .leadingEscape unit }
      else .malformed
  | .leadingEscape unit =>
      if character = 'u' then .more { quotation with phase := .unit (some unit) 0 (some 0) }
      else .malformed

end Quotation
end Json
end GCode
