import GCode.Json.Grammar
import GCode.Json.Scalar
import Mathlib.Tactic.IntervalCases

/-!
# Reading numbers and strings

Every character of a number or of a quoted text is taken as one that belongs to it, and in the end
the number may end and the quotation may be closed.
-/

namespace GCode
namespace Json

/-! ## Numbers -/

namespace Numeral

/-- The numeral after one more character that belongs to it. -/
def more? (numeral : Numeral) (character : Char) : Option Numeral :=
  match numeral.step character with
  | .more numeral => some numeral
  | _ => none

theorem step_of_more? {numeral next : Numeral} {character : Char}
    (more : numeral.more? character = some next) : numeral.step character = .more next := by
  rw [more?] at more
  split at more
  · rename_i taken
    rw [taken, Option.some.inj more]
  · contradiction

/-- A text goes on with a numeral and leaves it in one of some phases. -/
def Goes (text : List Char) (before : Numeral) (phases : List NumeralPhase) : Prop :=
  ∃ after, text.foldlM more? before = some after ∧ after.phase ∈ phases

theorem Goes.append {text rest : List Char} {before : Numeral} {middle phases : List NumeralPhase}
    (first : Goes text before middle)
    (second : ∀ numeral : Numeral, numeral.phase ∈ middle → Goes rest numeral phases) :
    Goes (text ++ rest) before phases := by
  obtain ⟨numeral, read, arrived⟩ := first
  obtain ⟨after, others, left⟩ := second numeral arrived
  refine ⟨after, ?_, left⟩
  rw [List.foldlM_append, read]
  exact others

theorem Goes.cons {character : Char} {rest : List Char} {before next : Numeral}
    {phases : List NumeralPhase} (first : before.more? character = some next)
    (others : Goes rest next phases) : Goes (character :: rest) before phases := by
  obtain ⟨after, read, left⟩ := others
  refine ⟨after, ?_, left⟩
  rw [List.foldlM_cons, first]
  exact read

theorem Goes.nil {before : Numeral} {phases : List NumeralPhase} (stands : before.phase ∈ phases) :
    Goes [] before phases :=
  ⟨before, rfl, stands⟩

theorem Goes.mono {text : List Char} {before : Numeral} {phases others : List NumeralPhase}
    (goes : Goes text before phases) (within : phases ⊆ others) : Goes text before others := by
  obtain ⟨after, read, left⟩ := goes
  exact ⟨after, read, within left⟩

/-- The phase behind a digit, if a numeral can go on with one. -/
def afterDigit? : NumeralPhase → Option NumeralPhase
  | .whole => some .whole
  | .point | .fraction => some .fraction
  | .mark | .markSign | .exponent => some .exponent
  | .sign | .zero => none

theorem phase_pushWhole (digit : Nat) (numeral : Numeral) :
    (numeral.pushWhole digit).phase = .whole := by
  rw [pushWhole]
  split <;> rfl

theorem phase_pushFraction (digit : Nat) (numeral : Numeral) :
    (numeral.pushFraction digit).phase = .fraction := by
  rw [pushFraction]
  split <;> rfl

theorem exists_more?_digit {numeral : Numeral} {phase : NumeralPhase} {digit : Char}
    (takes : afterDigit? numeral.phase = some phase) (isDigit : digit.isDigit = true) :
    ∃ next, numeral.more? digit = some next ∧ next.phase = phase := by
  cases stands : numeral.phase <;> rw [stands] at takes <;> cases takes <;>
    simp [more?, step, stands, isDigit, phase_pushWhole, phase_pushFraction, pushExponent]

theorem goes_of_isDigit {before : Numeral} {text : List Char}
    (stays : afterDigit? before.phase = some before.phase)
    (digits : ∀ digit ∈ text, digit.isDigit = true) : Goes text before [before.phase] := by
  induction text generalizing before with
  | nil => exact .nil (by simp)
  | cons digit rest ih =>
      rw [List.forall_mem_cons] at digits
      obtain ⟨next, read, same⟩ := exists_more?_digit stays digits.1
      rw [← same] at stays ⊢
      exact .cons read (ih stays digits.2)

theorem goes_digits {before : Numeral} {text : List Char} {phase : NumeralPhase}
    (digits : Digits text) (takes : afterDigit? before.phase = some phase)
    (stays : afterDigit? phase = some phase) : Goes text before [phase] := by
  cases digits with
  | intro first rest =>
      obtain ⟨next, read, rfl⟩ := exists_more?_digit takes first
      exact .cons read (goes_of_isDigit stays rest)

theorem goes_fraction {before : Numeral} {text : List Char} (fraction : FractionPart text)
    (stands : before.phase ∈ [.zero, .whole]) : Goes text before [.zero, .whole, .fraction] := by
  cases fraction with
  | missing => exact Goes.mono (.nil stands) (by simp)
  | digits digits =>
      have point : before.more? '.' = some before.pushPoint := by
        rcases List.mem_cons.mp stands with stands | stands
        · simp [more?, step, stands]
        · simp [more?, step, List.mem_singleton.mp stands]
      exact .cons point ((goes_digits digits rfl rfl).mono (by simp))

theorem goes_exponent {before : Numeral} {text : List Char} (exponent : ExponentPart text)
    (stands : before.phase ∈ [.zero, .whole, .fraction]) :
    Goes text before [.zero, .whole, .fraction, .exponent] := by
  cases exponent with
  | missing => exact Goes.mono (.nil stands) (by simp)
  | @digits mark sign text mark_mem sign_mem digits =>
      have marked : before.more? mark = some before.pushMark := by
        simp only [List.mem_cons, List.not_mem_nil, or_false] at mark_mem stands
        rcases mark_mem with rfl | rfl <;> rcases stands with stands | stands | stands <;>
          simp [more?, step, stands]
      have signed : Goes sign before.pushMark [.mark, .markSign] := by
        simp only [List.mem_cons, List.not_mem_nil, or_false] at sign_mem
        rcases sign_mem with rfl | rfl | rfl
        · exact .nil (by simp [pushMark])
        · exact .cons rfl (.nil (by simp [pushMarkSign]))
        · exact .cons rfl (.nil (by simp [pushMarkSign]))
      refine .cons marked (signed.append fun numeral stands => ?_)
      have takes : afterDigit? numeral.phase = some .exponent := by
        rcases List.mem_cons.mp stands with stands | stands
        · rw [stands, afterDigit?]
        · rw [List.mem_singleton.mp stands, afterDigit?]
      exact (goes_digits digits takes rfl).mono (by simp)

/-- The whole part of a number behind its first character, which may be a digit or a sign. -/
theorem exists_begin?_whole {sign whole : List Char} (sign_mem : sign ∈ [[], ['-']])
    (wholePart : WholePart whole) :
    ∃ first rest numeral, sign ++ whole = first :: rest ∧ begin? first = some numeral ∧
      Goes rest numeral [.zero, .whole] := by
  simp only [List.mem_cons, List.not_mem_nil, or_false] at sign_mem
  rcases sign_mem with rfl | rfl
  · cases wholePart with
    | zero => exact ⟨'0', [], _, rfl, rfl, .nil (by simp)⟩
    | @digits first rest notZero digits =>
        cases digits with
        | intro isDigit others =>
            have noSign : first ≠ '-' := by
              rintro rfl
              simp [Char.isDigit] at isDigit
            refine ⟨first, rest, { phase := .whole, significand := first.toNat - '0'.toNat }, rfl,
              ?_, (goes_of_isDigit rfl others).mono (by simp)⟩
            simp [begin?, noSign, notZero, isDigit]
  · refine ⟨'-', whole, { phase := .sign, negative := true }, rfl, rfl, ?_⟩
    cases wholePart with
    | zero => exact .cons rfl (.nil (by simp))
    | @digits first rest notZero digits =>
        cases digits with
        | intro isDigit others =>
            let signed : Numeral := { phase := .sign, negative := true }
            have read : signed.more? first = some (signed.pushWhole (first.toNat - '0'.toNat)) := by
              simp [more?, step, signed, notZero, isDigit]
            refine .cons read ((goes_of_isDigit ?_ others).mono ?_) <;>
              simp [phase_pushWhole, afterDigit?]

/-- A number has a first character that starts a numeral, which goes on to the end of the number and
may end there. -/
theorem exists_begin? {text : List Char} (number : NumberText text) :
    ∃ first rest numeral, text = first :: rest ∧ begin? first = some numeral ∧
      Goes rest numeral [.zero, .whole, .fraction, .exponent] := by
  cases number with
  | intro sign_mem wholePart fractionPart exponentPart =>
      obtain ⟨first, rest, numeral, text, begins, whole⟩ := exists_begin?_whole sign_mem wholePart
      refine ⟨first, _, numeral, ?_, begins, whole.append fun numeral stands =>
        (goes_fraction fractionPart stands).append fun numeral stands =>
          goes_exponent exponentPart stands⟩
      rw [← List.append_assoc, text, List.cons_append]

/-- A numeral starts with none of the characters that mean something else before a value. -/
theorem not_mem_of_begin? {first : Char} {numeral : Numeral}
    (begins : begin? first = some numeral) :
    first ∉ [' ', '\t', '\n', '\r', '[', ']', '\x7b', '\x7d', '\"', 'n', 't', 'f'] := by
  intro other
  simp only [List.mem_cons, List.not_mem_nil, or_false] at other
  rcases other with rfl | rfl | rfl | rfl | rfl | rfl | rfl | rfl | rfl | rfl | rfl | rfl <;>
    cases begins

/-- A numeral that may end does so before whatever may follow a value. -/
theorem step_of_follows {numeral : Numeral} {next : Char}
    (stands : numeral.phase ∈ [.zero, .whole, .fraction, .exponent]) (follows : Follows next) :
    numeral.step next = .ended := by
  simp only [Follows, List.mem_cons, List.not_mem_nil, or_false] at follows stands
  rcases stands with stands | stands | stands | stands <;>
    rcases follows with rfl | rfl | rfl | rfl | rfl | rfl | rfl <;> simp [step, stands]

end Numeral

theorem Scalar.begin?_of_numeral {first : Char} {numeral : Numeral}
    (begins : Numeral.begin? first = some numeral) :
    Scalar.begin? first = some (.number numeral) := by
  have other := Numeral.not_mem_of_begin? begins
  simp only [List.mem_cons, List.not_mem_nil, or_false, not_or] at other
  simp [Scalar.begin?, begins, other]

/-! ## Quoted text -/

namespace Quotation

/-- The quotation after one more character that belongs to it. -/
def more? (rigour : Rigour) (quotation : Quotation) (character : Char) : Option Quotation :=
  match quotation.step rigour character with
  | .more quotation => some quotation
  | _ => none

theorem step_of_more? {rigour : Rigour} {quotation next : Quotation} {character : Char}
    (more : quotation.more? rigour character = some next) :
    quotation.step rigour character = .more next := by
  rw [more?] at more
  split at more
  · rename_i taken
    rw [taken, Option.some.inj more]
  · contradiction

theorem hexDigit_spec {digit : Char} {value : Nat} (hexDigit : HexDigit digit value) :
    hexDigit? digit = some value ∧ digit.utf8Size = 1 := by
  have within : value < 16 := by
    rcases hexDigit with found | found <;> exact (List.getElem?_eq_some_iff.mp found).1
  rcases hexDigit with found | found <;> interval_cases value <;> cases found <;> decide

variable {rigour : Rigour} {reversed : List Char}

theorem pushUnit?_of_phase (rigour : Rigour) (leading : Option Nat) (value : Nat)
    (phase : QuotationPhase) (reversed : List Char) :
    pushUnit? rigour leading value ⟨phase, reversed⟩ =
      pushUnit? rigour leading value ⟨.plain, reversed⟩ := by
  cases rigour <;> cases leading <;> rfl

/-- A digit of a code unit is collected, and the unit is judged behind its last digit. -/
theorem more?_of_hexDigit {digit : Char} {value : Nat} (hexDigit : HexDigit digit value)
    (rigour : Rigour) (leading : Option Nat) (bytes collected : Nat) (reversed : List Char) :
    more? rigour ⟨.unit leading bytes (some collected), reversed⟩ digit =
      if bytes + 1 < 4 then
        some ⟨.unit leading (bytes + 1) (some (collected * 16 + value)), reversed⟩
      else pushUnit? rigour leading (collected * 16 + value) ⟨.plain, reversed⟩ := by
  obtain ⟨found, size⟩ := hexDigit_spec hexDigit
  simp only [more?, step, found, size, Option.bind_eq_bind, Option.bind_some]
  by_cases goesOn : bytes + 1 < 4
  · simp only [if_pos goesOn]
    rfl
  · simp only [if_neg goesOn]
    rw [← pushUnit?_of_phase rigour leading _ (.unit leading bytes (some collected))]
    cases judged : pushUnit? rigour leading (collected * 16 + value)
      ⟨.unit leading bytes (some collected), reversed⟩ <;> simp [judged, Step.ofOption]

theorem foldlM_codeUnit {digits : List Char} {value : Nat} (unit : CodeUnit digits value)
    (rigour : Rigour) (leading : Option Nat) (reversed : List Char) :
    digits.foldlM (more? rigour) ⟨.unit leading 0 (some 0), reversed⟩ =
      pushUnit? rigour leading value ⟨.plain, reversed⟩ := by
  cases unit with
  | intro a b c d =>
      simp [more?_of_hexDigit a, more?_of_hexDigit b, more?_of_hexDigit c, more?_of_hexDigit d]

theorem more?_plain {character : Char} (isPlain : IsPlain character) :
    more? rigour ⟨.plain, reversed⟩ character = some ⟨.plain, character :: reversed⟩ := by
  obtain ⟨noQuote, noBackslash, visible⟩ := isPlain
  simp [more?, step, push, noQuote, noBackslash, Nat.not_lt.mpr visible]

theorem foldlM_escape {letter meaning : Char} (escapes : (letter, meaning) ∈ shortEscapes)
    (rest : List Char) :
    ('\\' :: letter :: rest).foldlM (more? rigour) ⟨.plain, reversed⟩ =
      rest.foldlM (more? rigour) ⟨.plain, meaning :: reversed⟩ := by
  simp only [shortEscapes, List.mem_cons, Prod.mk.injEq, List.not_mem_nil, or_false] at escapes
  rcases escapes with ⟨rfl, rfl⟩ | ⟨rfl, rfl⟩ | ⟨rfl, rfl⟩ | ⟨rfl, rfl⟩ | ⟨rfl, rfl⟩ | ⟨rfl, rfl⟩ |
    ⟨rfl, rfl⟩ | ⟨rfl, rfl⟩ <;> rfl

theorem foldlM_unit {digits : List Char} {value : Nat} (unit : CodeUnit digits value)
    (rest : List Char) :
    ('\\' :: 'u' :: (digits ++ rest)).foldlM (more? rigour) ⟨.plain, reversed⟩ =
      (pushUnit? rigour none value ⟨.plain, reversed⟩ >>= rest.foldlM (more? rigour)) := by
  rw [← foldlM_codeUnit unit, ← List.foldlM_append]
  rfl

theorem foldlM_trailing {digits : List Char} {value leading : Nat} (unit : CodeUnit digits value)
    (rest : List Char) :
    ('\\' :: 'u' :: (digits ++ rest)).foldlM (more? rigour) ⟨.leading leading, reversed⟩ =
      (pushUnit? rigour (some leading) value ⟨.plain, reversed⟩ >>=
        rest.foldlM (more? rigour)) := by
  rw [← foldlM_codeUnit unit, ← List.foldlM_append]
  rfl

/-- Quoted text is read as the text that it means. -/
theorem foldlM_spells {quoted text : List Char} (spells : Spells quoted text)
    (reversed : List Char) :
    quoted.foldlM (more? .strict) ⟨.plain, reversed⟩ = some ⟨.plain, text.reverse ++ reversed⟩ := by
  induction spells generalizing reversed with
  | nil => rfl
  | plain isPlain _ ih =>
      rw [List.foldlM_cons, more?_plain isPlain, List.reverse_cons, List.append_assoc]
      exact ih _
  | escape escapes _ ih =>
      rw [foldlM_escape escapes, ih, List.reverse_cons, List.append_assoc, List.singleton_append]
  | @unit digits rest text value unit noSurrogate _ ih =>
      have judged : pushUnit? .strict none value ⟨.plain, reversed⟩ =
          some ⟨.plain, .ofNat value :: reversed⟩ := by
        have noTrailing : isTrailing value = false := by simp [isTrailing]; omega
        have noLeading : isLeading value = false := by simp [isLeading]; omega
        simp [pushUnit?, noTrailing, noLeading, push]
      rw [foldlM_unit unit, judged, List.reverse_cons, List.append_assoc]
      exact ih _
  | @pair digits others rest text leading trailing first second leads trails _ ih =>
      have waits : pushUnit? .strict none leading ⟨.plain, reversed⟩ =
          some ⟨.leading leading, reversed⟩ := by
        have noTrailing : isTrailing leading = false := by simp [isTrailing]; omega
        have isLeading : isLeading leading = true := by simpa [isLeading] using leads
        simp [pushUnit?, noTrailing, isLeading]
      have judged : pushUnit? .strict (some leading) trailing ⟨.plain, reversed⟩ =
          some ⟨.plain, paired leading trailing :: reversed⟩ := by
        have isTrailing : isTrailing trailing = true := by simpa [isTrailing] using trails
        simp [pushUnit?, isTrailing, push]
      rw [foldlM_unit first, waits, Option.bind_eq_bind, Option.bind_some, foldlM_trailing second,
        judged, List.reverse_cons, List.append_assoc]
      exact ih _

/-- Any quoted text is read leniently. -/
theorem exists_foldlM_quotable {quoted : List Char} (quotable : Quotable quoted)
    (reversed : List Char) :
    ∃ after, quoted.foldlM (more? .lenient) ⟨.plain, reversed⟩ = some ⟨.plain, after⟩ := by
  induction quotable generalizing reversed with
  | nil => exact ⟨reversed, rfl⟩
  | plain isPlain _ ih =>
      rw [List.foldlM_cons, more?_plain isPlain]
      exact ih _
  | escape escapes _ ih =>
      rw [foldlM_escape escapes]
      exact ih _
  | unit unit _ ih =>
      rw [foldlM_unit unit]
      exact ih _

end Quotation
end Json
end GCode
