import GCode.Decimal.Shortest

/-!
# JSON values

A number is an integer or a real: it is a real when it is written with a point or an exponent, or
lies outside the 64-bit words.  `Json.compact` writes a value on one line without blanks.
-/

namespace GCode

/-- A JSON value.  The members of an object keep the order of their text, and a name may repeat. -/
inductive Json where
  | null
  | bool (value : Bool)
  | integer (value : Int)
  | real (value : Float)
  | string (text : String)
  | array (items : List Json)
  | object (members : List (String × Json))

namespace Json

/-- The value of a name, which is the last one if the name repeats. -/
def member? (name : String) (members : List (String × Json)) : Option Json :=
  members.foldl (fun found entry => if entry.1 = name then some entry.2 else found) none

/-- The value of a name in an object. -/
def get? (name : String) : Json → Option Json
  | object members => member? name members
  | _ => none

/-! ## Real numbers

The fewest digits that read back.  The first digit stands up to fifteen places before the ones or
up to five places behind them in positional writing; otherwise a power of ten follows.
-/

/-- A power of ten behind its mark, always with a sign. -/
def exponentText (power : Int) : String :=
  "e" ++ (if power < 0 then "-" else "+") ++ power.natAbs.repr

/-- The text of a positive decimal. -/
def decimalText (decimal : Decimal) : String :=
  let digits := Nat.toDigits 10 decimal.digits
  let point : Int := digits.length + decimal.exponent
  if 0 < point ∧ point ≤ 16 then
    let whole := digits.take point.toNat
    let zeros := List.replicate (point.toNat - digits.length) '0'
    let fraction := digits.drop point.toNat
    String.ofList (whole ++ zeros ++ ['.'] ++ if fraction.isEmpty then ['0'] else fraction)
  else if -5 < point ∧ point ≤ 0 then
    String.ofList (['0', '.'] ++ List.replicate (-point).toNat '0' ++ digits)
  else
    match digits with
    | [] => ""
    | [digit] => digit.toString ++ exponentText (point - 1)
    | digit :: rest => String.ofList (digit :: '.' :: rest) ++ exponentText (point - 1)

/-- The text of a finite real number.  Zero keeps its sign. -/
def realText (value : Float) : String :=
  let sign := if value.toBits.toNat / Nat.pow 2 63 = 0 then "" else "-"
  sign ++ if value == 0 then "0.0" else decimalText (Decimal.ofFloat value)

/-! ## Writing -/

/-- Two hexadecimal digits. -/
def hexPair (number : Nat) : List Char :=
  [Nat.digitChar (number / 16 % 16), Nat.digitChar (number % 16)]

/-- The characters that stand for one character inside a string. -/
def escaped (character : Char) : List Char :=
  match character with
  | '\"' => ['\\', '\"']
  | '\\' => ['\\', '\\']
  | '\x08' => ['\\', 'b']
  | '\x0c' => ['\\', 'f']
  | '\n' => ['\\', 'n']
  | '\r' => ['\\', 'r']
  | '\t' => ['\\', 't']
  | _ =>
      if character.toNat < 0x20 then
        ['\\', 'u', '0', '0'] ++ hexPair character.toNat
      else
        [character]

/-- A text between quotes. -/
def compactString (text : String) : String :=
  String.ofList (['\"'] ++ text.toList.flatMap escaped ++ ['\"'])

mutual

/-- The text of a value without blanks. -/
def compact : Json → String
  | null => "null"
  | bool value => if value then "true" else "false"
  | integer value => value.repr
  | real value => realText value
  | string text => compactString text
  | array items => "[" ++ ",".intercalate (compactItems items) ++ "]"
  | object members => "\x7b" ++ ",".intercalate (compactMembers members) ++ "\x7d"

/-- The texts of items. -/
def compactItems : List Json → List String
  | [] => []
  | item :: rest => compact item :: compactItems rest

/-- The texts of members. -/
def compactMembers : List (String × Json) → List String
  | [] => []
  | entry :: rest => compactMember entry :: compactMembers rest

/-- The text of a member. -/
def compactMember : String × Json → String
  | (name, value) => compactString name ++ ":" ++ compact value

end

end Json
end GCode
