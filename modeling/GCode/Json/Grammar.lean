import GCode.Json.Basic

/-!
# JSON text

The grammar of JSON text as relations on lists of characters, apart from any reader.  A string may
hold any code units, also a surrogate without its partner; `Spells` is the narrower relation between
what stands between quotes and the text that it means, where surrogates come in pairs.
`ObjectText` gives the members of an object in their order, each with its name and the text of its
value.
-/

namespace GCode
namespace Json

/-- Characters that may stand between the parts of a text. -/
def Blank (text : List Char) : Prop := ∀ character ∈ text, character ∈ [' ', '\t', '\n', '\r']

instance : DecidablePred Blank := fun text =>
  List.decidableBAll (fun character => character ∈ [' ', '\t', '\n', '\r']) text

theorem blank_nil : Blank [] := nofun

/-- A character that may stand behind a value. -/
def Follows (character : Char) : Prop :=
  character ∈ [' ', '\t', '\n', '\r', ',', ']', '\x7d']

/-! ## Numbers -/

/-- Decimal digits, at least one. -/
inductive Digits : List Char → Prop where
  | intro {first : Char} {rest : List Char} (first_isDigit : first.isDigit = true)
      (rest_isDigit : ∀ digit ∈ rest, digit.isDigit = true) : Digits (first :: rest)

/-- The whole part of a number.  No zero stands before another digit. -/
inductive WholePart : List Char → Prop where
  | zero : WholePart ['0']
  | digits {first : Char} {rest : List Char} (notZero : first ≠ '0')
      (digits : Digits (first :: rest)) : WholePart (first :: rest)

/-- The fraction of a number, which may be missing. -/
inductive FractionPart : List Char → Prop where
  | missing : FractionPart []
  | digits {text : List Char} (digits : Digits text) : FractionPart ('.' :: text)

/-- The exponent of a number, which may be missing. -/
inductive ExponentPart : List Char → Prop where
  | missing : ExponentPart []
  | digits {mark : Char} {sign text : List Char} (mark_mem : mark ∈ ['e', 'E'])
      (sign_mem : sign ∈ [[], ['+'], ['-']]) (digits : Digits text) :
      ExponentPart (mark :: (sign ++ text))

/-- A number. -/
inductive NumberText : List Char → Prop where
  | intro {sign whole fraction exponent : List Char} (sign_mem : sign ∈ [[], ['-']])
      (wholePart : WholePart whole) (fractionPart : FractionPart fraction)
      (exponentPart : ExponentPart exponent) :
      NumberText (sign ++ (whole ++ (fraction ++ exponent)))

/-! ## Strings -/

/-- A hexadecimal digit in either case, with its value. -/
def HexDigit (digit : Char) (value : Nat) : Prop :=
  "0123456789abcdef".toList[value]? = some digit ∨ "0123456789ABCDEF".toList[value]? = some digit

/-- The four digits of a code unit, with its value. -/
inductive CodeUnit : List Char → Nat → Prop where
  | intro {a b c d : Char} {first second third fourth : Nat} (a_value : HexDigit a first)
      (b_value : HexDigit b second) (c_value : HexDigit c third) (d_value : HexDigit d fourth) :
      CodeUnit [a, b, c, d] (((first * 16 + second) * 16 + third) * 16 + fourth)

/-- The letters that stand behind a backslash, with the characters that they mean there. -/
def shortEscapes : List (Char × Char) :=
  [('\"', '\"'), ('\\', '\\'), ('/', '/'), ('b', '\x08'), ('f', '\x0c'), ('n', '\n'), ('r', '\r'),
    ('t', '\t')]

/-- A character that stands for itself between quotes. -/
def IsPlain (character : Char) : Prop :=
  character ≠ '\"' ∧ character ≠ '\\' ∧ 0x20 ≤ character.toNat

instance : DecidablePred IsPlain := fun _ => inferInstanceAs (Decidable (_ ∧ _ ∧ _))

/-- What may stand between quotes. -/
inductive Quotable : List Char → Prop where
  | nil : Quotable []
  | plain {character : Char} {rest : List Char} (isPlain : IsPlain character)
      (quotable : Quotable rest) : Quotable (character :: rest)
  | escape {letter meaning : Char} {rest : List Char} (escapes : (letter, meaning) ∈ shortEscapes)
      (quotable : Quotable rest) : Quotable ('\\' :: letter :: rest)
  | unit {digits rest : List Char} {value : Nat} (unit : CodeUnit digits value)
      (quotable : Quotable rest) : Quotable ('\\' :: 'u' :: (digits ++ rest))

/-- What stands between quotes, and the text that it means. -/
inductive Spells : List Char → List Char → Prop where
  | nil : Spells [] []
  | plain {character : Char} {rest text : List Char} (isPlain : IsPlain character)
      (spells : Spells rest text) : Spells (character :: rest) (character :: text)
  | escape {letter meaning : Char} {rest text : List Char}
      (escapes : (letter, meaning) ∈ shortEscapes) (spells : Spells rest text) :
      Spells ('\\' :: letter :: rest) (meaning :: text)
  /-- A code unit that is no surrogate. -/
  | unit {digits rest text : List Char} {value : Nat} (unit : CodeUnit digits value)
      (noSurrogate : value < 0xd800 ∨ 0xe000 ≤ value) (spells : Spells rest text) :
      Spells ('\\' :: 'u' :: (digits ++ rest)) (.ofNat value :: text)
  /-- A leading surrogate and its trailing one. -/
  | pair {digits others rest text : List Char} {leading trailing : Nat}
      (first : CodeUnit digits leading) (second : CodeUnit others trailing)
      (isLeading : 0xd800 ≤ leading ∧ leading < 0xdc00)
      (isTrailing : 0xdc00 ≤ trailing ∧ trailing < 0xe000) (spells : Spells rest text) :
      Spells ('\\' :: 'u' :: (digits ++ '\\' :: 'u' :: (others ++ rest)))
        (.ofNat (0x10000 + (leading - 0xd800) * 0x400 + (trailing - 0xdc00)) :: text)

/-- Characters that stand for themselves spell their own text. -/
theorem spells_of_isPlain {text : List Char}
    (plain : text.all (fun character => decide (IsPlain character)) = true) : Spells text text := by
  induction text with
  | nil => exact .nil
  | cons character rest ih =>
      rw [List.all_cons, Bool.and_eq_true, decide_eq_true_iff] at plain
      exact .plain plain.1 (ih plain.2)

theorem Spells.quotable {quoted text : List Char} (spells : Spells quoted text) :
    Quotable quoted := by
  induction spells with
  | nil => exact .nil
  | plain isPlain _ ih => exact .plain isPlain ih
  | escape escapes _ ih => exact .escape escapes ih
  | unit unit _ _ ih => exact .unit unit ih
  | pair first second _ _ _ ih => exact .unit first (.unit second ih)

/-! ## Values -/

/-- The word for a boolean. -/
def boolWord : Bool → List Char
  | true => "true".toList
  | false => "false".toList

/-- The sorts of text that a value is made of. -/
inductive Part where
  | value
  /-- A value and the blanks around it. -/
  | element
  /-- The elements of an array. -/
  | elements
  /-- A name, a colon and an element. -/
  | member
  /-- The members of an object. -/
  | members

/-- The text of each part of a value. -/
inductive Written : Part → List Char → Prop where
  | word {word : String} (word_mem : word ∈ ["null", "true", "false"]) :
      Written .value word.toList
  | number {text : List Char} (number : NumberText text) : Written .value text
  | string {text : List Char} (quotable : Quotable text) :
      Written .value ('\"' :: (text ++ ['\"']))
  | emptyArray {blanks : List Char} (blank : Blank blanks) :
      Written .value ('[' :: (blanks ++ [']']))
  | array {text : List Char} (elements : Written .elements text) :
      Written .value ('[' :: (text ++ [']']))
  | emptyObject {blanks : List Char} (blank : Blank blanks) :
      Written .value ('\x7b' :: (blanks ++ ['\x7d']))
  | object {text : List Char} (members : Written .members text) :
      Written .value ('\x7b' :: (text ++ ['\x7d']))
  | element {before text after : List Char} (blankBefore : Blank before)
      (value : Written .value text) (blankAfter : Blank after) :
      Written .element (before ++ (text ++ after))
  | oneElement {text : List Char} (element : Written .element text) : Written .elements text
  | moreElements {text rest : List Char} (element : Written .element text)
      (elements : Written .elements rest) : Written .elements (text ++ ',' :: rest)
  | member {before name between text : List Char} (blankBefore : Blank before)
      (quotable : Quotable name) (blankBetween : Blank between) (element : Written .element text) :
      Written .member (before ++ '\"' :: (name ++ '\"' :: (between ++ ':' :: text)))
  | oneMember {text : List Char} (member : Written .member text) : Written .members text
  | moreMembers {text rest : List Char} (member : Written .member text)
      (members : Written .members rest) : Written .members (text ++ ',' :: rest)

/-! ## Objects with their members -/

/-- The text of a member, with its name and the text of its value. -/
inductive MemberText : List Char → String × List Char → Prop where
  | intro {before quoted name between left value right : List Char} (blankBefore : Blank before)
      (spells : Spells quoted name) (blankBetween : Blank between) (blankLeft : Blank left)
      (value_written : Written .value value) (blankRight : Blank right) :
      MemberText
        (before ++ '\"' :: (quoted ++ '\"' :: (between ++ ':' :: (left ++ (value ++ right)))))
        (String.ofList name, value)

/-- The text of the members of an object, with their names and the texts of their values. -/
inductive MembersText : List Char → List (String × List Char) → Prop where
  | one {text : List Char} {entry : String × List Char} (member : MemberText text entry) :
      MembersText text [entry]
  | more {text rest : List Char} {entry : String × List Char} {entries : List (String × List Char)}
      (member : MemberText text entry) (members : MembersText rest entries) :
      MembersText (text ++ ',' :: rest) (entry :: entries)

/-- The text of an object, with the names of its members and the texts of their values. -/
inductive ObjectText : List Char → List (String × List Char) → Prop where
  | empty {before inside after : List Char} (blankBefore : Blank before)
      (blankInside : Blank inside) (blankAfter : Blank after) :
      ObjectText (before ++ '\x7b' :: (inside ++ '\x7d' :: after)) []
  | members {before text after : List Char} {entries : List (String × List Char)}
      (blankBefore : Blank before) (members : MembersText text entries) (blankAfter : Blank after) :
      ObjectText (before ++ '\x7b' :: (text ++ '\x7d' :: after)) entries

end Json
end GCode
