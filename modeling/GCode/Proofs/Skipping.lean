import GCode.Configuration.OfText
import GCode.Proofs.JsonScalars

/-!
# Skipping members

A member that holds no switch may hold any value.  Its characters are followed with a stack of the
arrays and objects around the present place, so that exactly the value is skipped, whatever stands
in it: `ConfigurationReader.skips_of_written`.
-/

namespace GCode
namespace ConfigurationReader

open Json

/-- Reads a text character by character. -/
def run (text : List Char) (reader : ConfigurationReader) : Result := text.foldlM step reader

@[simp] theorem run_nil (reader : ConfigurationReader) : run [] reader = .ok reader := rfl

theorem run_cons_of_ok {character : Char} {reader next : ConfigurationReader}
    (taken : reader.step character = .ok next) (rest : List Char) :
    run (character :: rest) reader = run rest next := by
  rw [run, List.foldlM_cons, taken]
  rfl

theorem run_append_of_ok {text : List Char} {reader next : ConfigurationReader}
    (taken : run text reader = .ok next) (rest : List Char) :
    run (text ++ rest) reader = run rest next := by
  rw [run] at taken
  rw [run, List.foldlM_append, taken]
  rfl

/-- Two readers that agree on a first character agree on a text that starts with it. -/
theorem run_cons_congr {character : Char} {reader other : ConfigurationReader}
    (same : reader.step character = other.step character) (rest : List Char) :
    run (character :: rest) reader = run (character :: rest) other := by
  rw [run, run, List.foldlM_cons, List.foldlM_cons, same]

theorem isBlank_of_mem {character : Char} (blank : character ∈ [' ', '\t', '\n', '\r']) :
    isBlank character = true := by
  simp only [List.mem_cons, List.not_mem_nil, or_false] at blank
  rcases blank with rfl | rfl | rfl | rfl <;> rfl

/-- Blanks change nothing where a single one changes nothing. -/
theorem run_blank {reader : ConfigurationReader} {blanks : List Char} (blank : Blank blanks)
    (stays : ∀ character, isBlank character = true → reader.step character = .ok reader) :
    run blanks reader = .ok reader := by
  induction blanks with
  | nil => rfl
  | cons first rest ih =>
      obtain ⟨here, others⟩ := List.forall_mem_cons.mp blank
      rw [run_cons_of_ok (stays first (isBlank_of_mem here)), ih others]

/-- What is read inside is read by the whole reader. -/
theorem run_of_foldlM {Inner : Type} {more? : Inner → Char → Option Inner}
    (within : Inner → ConfigurationReader)
    (follows : ∀ inner character next, more? inner character = some next →
      (within inner).step character = .ok (within next))
    {text : List Char} {before after : Inner} (read : text.foldlM more? before = some after) :
    run text (within before) = .ok (within after) := by
  induction text generalizing before with
  | nil => rw [run_nil, Option.some.inj read]
  | cons character rest ih =>
      rw [List.foldlM_cons, Option.bind_eq_bind, Option.bind_eq_some_iff] at read
      obtain ⟨next, taken, others⟩ := read
      rw [run_cons_of_ok (follows _ _ _ taken), ih others]

/-! ## Inside a member -/

/-- A reader inside a member that holds no switch. -/
def skipping (stack : List Frame) (phase : ReaderPhase) (reader : ConfigurationReader) :
    ConfigurationReader :=
  reader.awaiting (.skipped ⟨stack, phase⟩)

/-- A reader behind a value in a member that holds no switch, or behind the member. -/
def behind (stack : List Frame) (value : Json) (reader : ConfigurationReader) :
    ConfigurationReader :=
  match stack with
  | [] => reader.awaiting (.next .object)
  | frame :: outer => reader.skipping (frame.push value :: outer) .next

variable {reader : ConfigurationReader} {stack outer : List Frame} {phase other : ReaderPhase}
  {character : Char}

theorem step_skipping_of_more
    (taken : Reader.step .lenient character ⟨stack, phase⟩ = .more ⟨outer, other⟩) :
    (reader.skipping stack phase).step character = .ok (reader.skipping outer other) := by
  simp [skipping, awaiting, step, stepSkipped, taken]

theorem step_skipping_of_deliver {value : Json}
    (taken : Reader.step .lenient character ⟨stack, phase⟩ = Reader.deliver value outer) :
    (reader.skipping stack phase).step character = .ok (reader.behind outer value) := by
  cases outer <;> simp [skipping, awaiting, behind, step, stepSkipped, taken, Reader.deliver]

theorem step_skipping_congr
    (same : Reader.step .lenient character ⟨stack, phase⟩ =
      Reader.step .lenient character ⟨outer, other⟩) :
    (reader.skipping stack phase).step character =
      (reader.skipping outer other).step character := by
  simp [skipping, awaiting, step, stepSkipped, same]

/-- The phases in which blanks change nothing. -/
theorem run_blank_skipping {blanks : List Char} (blank : Blank blanks)
    (stays : ∀ character, isBlank character = true →
      Reader.step .lenient character ⟨stack, phase⟩ = .more ⟨stack, phase⟩) :
    run blanks (reader.skipping stack phase) = .ok (reader.skipping stack phase) :=
  run_blank blank fun character isBlank => step_skipping_of_more (stays character isBlank)

theorem run_blank_first {blanks : List Char} (blank : Blank blanks) (frame : Frame) :
    run blanks (reader.skipping (frame :: outer) .first) =
      .ok (reader.skipping (frame :: outer) .first) :=
  run_blank_skipping blank fun character isBlank => by
    simp [Reader.step, Reader.stepFirst, isBlank]

theorem run_blank_behind {blanks : List Char} (blank : Blank blanks) (value : Json) :
    run blanks (reader.behind stack value) = .ok (reader.behind stack value) := by
  cases stack with
  | nil =>
      refine run_blank blank fun character isBlank => ?_
      simp [behind, awaiting, step, stepNext, isBlank]
  | cons frame outer =>
      refine run_blank_skipping blank fun character isBlank => ?_
      simp [Reader.step, Reader.stepNext, isBlank]

/-! ## Scalars -/

theorem run_letters (value : Json) {letters : List Char} (some_letters : letters ≠ []) :
    run letters (reader.skipping stack (.scalar (.word value letters))) =
      .ok (reader.behind stack value) := by
  induction letters with
  | nil => contradiction
  | cons letter rest ih =>
      cases rest with
      | nil =>
          have taken : Reader.step .lenient letter ⟨stack, .scalar (.word value [letter])⟩ =
              Reader.deliver value stack := by
            simp [Reader.step, Scalar.step]
          rw [run_cons_of_ok (step_skipping_of_deliver taken), run_nil]
      | cons next rest =>
          have taken :
              Reader.step .lenient letter ⟨stack, .scalar (.word value (letter :: next :: rest))⟩ =
                .more ⟨stack, .scalar (.word value (next :: rest))⟩ := by
            simp [Reader.step, Scalar.step]
          rw [run_cons_of_ok (step_skipping_of_more taken)]
          exact ih (by simp)

theorem run_word {word : String} (word_mem : word ∈ ["null", "true", "false"]) :
    ∃ value, run word.toList (reader.skipping stack .value) = .ok (reader.behind stack value) := by
  simp only [List.mem_cons, List.not_mem_nil, or_false] at word_mem
  rcases word_mem with rfl | rfl | rfl
  · exact ⟨.null, run_letters .null (List.cons_ne_nil 'u' ['l', 'l'])⟩
  · exact ⟨.bool true, run_letters (.bool true) (List.cons_ne_nil 'r' ['u', 'e'])⟩
  · exact ⟨.bool false, run_letters (.bool false) (List.cons_ne_nil 'a' ['l', 's', 'e'])⟩

theorem step_skipping_number {numeral next : Numeral}
    (more : numeral.more? character = some next) :
    (reader.skipping stack (.scalar (.number numeral))).step character =
      .ok (reader.skipping stack (.scalar (.number next))) := by
  have taken := Numeral.step_of_more? more
  exact step_skipping_of_more (by simp [Reader.step, Scalar.step, taken])

/-- A number needs the character behind it, which is then read as one behind a value. -/
theorem step_skipping_ended {numeral : Numeral}
    (stands : numeral.phase ∈ [.zero, .whole, .fraction, .exponent]) (follows : Follows character) :
    (reader.skipping stack (.scalar (.number numeral))).step character =
      (reader.behind stack .null).step character := by
  have ended := Numeral.step_of_follows stands follows
  cases stack with
  | nil =>
      simp [skipping, behind, awaiting, step, stepSkipped, Reader.step, Scalar.step, ended,
        Scalar.numberValue?]
  | cons frame outer =>
      refine step_skipping_congr ?_
      simp [Reader.step, Scalar.step, ended, Scalar.numberValue?]

theorem step_skipping_string {quotation next : Quotation}
    (more : quotation.more? .lenient character = some next) :
    (reader.skipping stack (.scalar (.string quotation))).step character =
      .ok (reader.skipping stack (.scalar (.string next))) := by
  have taken := Quotation.step_of_more? more
  exact step_skipping_of_more (by simp [Reader.step, Scalar.step, taken])

theorem run_string {text : List Char} (quotable : Quotable text) :
    ∃ value, run ('\"' :: (text ++ ['\"'])) (reader.skipping stack .value) =
      .ok (reader.behind stack value) := by
  obtain ⟨after, read⟩ := Quotation.exists_foldlM_quotable quotable []
  have opened : (reader.skipping stack .value).step '\"' =
      .ok (reader.skipping stack (.scalar (.string {}))) := rfl
  have inside := run_of_foldlM
    (fun quotation => reader.skipping stack (.scalar (.string quotation)))
    (fun _ _ _ => step_skipping_string) read
  have closed : (reader.skipping stack (.scalar (.string ⟨.plain, after⟩))).step '\"' =
      .ok (reader.behind stack (.string (Quotation.text ⟨.plain, after⟩))) :=
    step_skipping_of_deliver rfl
  refine ⟨.string (Quotation.text ⟨.plain, after⟩), ?_⟩
  rw [run_cons_of_ok opened, run_append_of_ok inside, run_cons_of_ok closed, run_nil]

/-- The name of a member inside a member. -/
theorem step_skipping_name {quotation next : Quotation}
    (more : quotation.more? .lenient character = some next) :
    (reader.skipping stack (.nameText quotation)).step character =
      .ok (reader.skipping stack (.nameText next)) := by
  have taken := Quotation.step_of_more? more
  exact step_skipping_of_more (by simp [Reader.step, taken])

/-! ## Values -/

/-- A text leads from one reader to another, if what comes behind it may follow a value. -/
def Leads (text : List Char) (before after : ConfigurationReader) : Prop :=
  ∀ next rest, Follows next → run (text ++ next :: rest) before = run (next :: rest) after

section Leads

variable {text others : List Char} {before middle after : ConfigurationReader}

theorem Leads.of_run (taken : run text before = .ok after) : Leads text before after :=
  fun next rest _ => run_append_of_ok taken (next :: rest)

theorem Leads.run_append (taken : run others before = .ok middle)
    (leads : Leads text middle after) : Leads (others ++ text) before after :=
  fun next rest follows => by
    rw [List.append_assoc, run_append_of_ok taken, leads next rest follows]

theorem Leads.run_cons (taken : before.step character = .ok middle)
    (leads : Leads text middle after) : Leads (character :: text) before after :=
  fun next rest follows => by
    rw [List.cons_append, run_cons_of_ok taken, leads next rest follows]

/-- Blanks behind a value may follow it. -/
theorem Leads.append_blank (leads : Leads text before after) (blank : Blank others)
    (stays : run others after = .ok after) : Leads (text ++ others) before after := by
  intro next rest follows
  rw [List.append_assoc, ← run_append_of_ok stays (next :: rest)]
  cases others with
  | nil => exact leads next rest follows
  | cons first others =>
      have mem := List.mem_append_left [',', ']', '\x7d'] (blank first List.mem_cons_self)
      exact leads first (others ++ next :: rest) mem

/-- A text is left by a character that may follow a value. -/
theorem Leads.run_concat (leads : Leads text before middle) (follows : Follows character)
    (taken : middle.step character = .ok after) : run (text ++ [character]) before = .ok after := by
  rw [leads character [] follows, run_cons_of_ok taken, run_nil]

/-- A text is left by a character that may follow a value, and another text comes behind it. -/
theorem Leads.trans {last : ConfigurationReader} (leads : Leads text before middle)
    (follows : Follows character) (taken : middle.step character = .ok after)
    (behind : Leads others after last) : Leads (text ++ character :: others) before last := by
  intro next rest follows'
  rw [List.append_assoc, List.cons_append, leads character _ follows, run_cons_of_ok taken,
    behind next rest follows']

end Leads

theorem leads_number {text : List Char} (number : NumberText text) :
    Leads text (reader.skipping stack .value) (reader.behind stack .null) := by
  obtain ⟨first, rest, numeral, rfl, begins, after, read, stands⟩ := Numeral.exists_begin? number
  intro next others follows
  have opened : (reader.skipping stack .value).step first =
      .ok (reader.skipping stack (.scalar (.number numeral))) := by
    have other := Numeral.not_mem_of_begin? begins
    simp only [List.mem_cons, List.not_mem_nil, or_false, not_or] at other
    refine step_skipping_of_more ?_
    simp [Reader.step, Reader.stepValue, isBlank, Scalar.begin?_of_numeral begins, other]
  have inside := run_of_foldlM (fun numeral => reader.skipping stack (.scalar (.number numeral)))
    (fun _ _ _ => step_skipping_number) read
  rw [List.cons_append, run_cons_of_ok opened, run_append_of_ok inside,
    run_cons_congr (step_skipping_ended stands follows)]

/-- A text takes the parts of a value that it holds from their places to the places behind them. -/
def Skips (part : Part) (text : List Char) : Prop :=
  ∀ reader : ConfigurationReader, match part with
  | .value | .element => ∀ stack, ∃ value,
      Leads text (reader.skipping stack .value) (reader.behind stack value)
  | .elements => ∀ items outer, ∃ after,
      Leads text (reader.skipping (.array items :: outer) .value)
        (reader.skipping (.array after :: outer) .next)
  | .member | .members => ∀ members name outer, ∃ after last,
      Leads text (reader.skipping (.object members name :: outer) .name)
        (reader.skipping (.object after last :: outer) .next)

/-- Behind its blanks, no part of a value starts with a bracket that closes. -/
theorem starts_of_written {part : Part} {text : List Char} (written : Written part text) :
    ∃ blanks first rest, Blank blanks ∧ text = blanks ++ first :: rest ∧
      isBlank first = false ∧ first ≠ ']' ∧ first ≠ '\x7d' := by
  have here : ∀ {first : Char} {rest : List Char},
      isBlank first = false → first ≠ ']' → first ≠ '\x7d' →
      ∃ blanks first' rest', Blank blanks ∧ first :: rest = blanks ++ first' :: rest' ∧
        isBlank first' = false ∧ first' ≠ ']' ∧ first' ≠ '\x7d' :=
    fun solid array object => ⟨[], _, _, by simp [Blank], rfl, solid, array, object⟩
  induction written with
  | word word_mem =>
      simp only [List.mem_cons, List.not_mem_nil, or_false] at word_mem
      rcases word_mem with rfl | rfl | rfl <;> exact here (by decide) (by decide) (by decide)
  | number number =>
      obtain ⟨first, rest, numeral, rfl, begins, -⟩ := Numeral.exists_begin? number
      have other := Numeral.not_mem_of_begin? begins
      simp only [List.mem_cons, List.not_mem_nil, or_false, not_or] at other
      exact here (by simp [isBlank, other]) other.2.2.2.2.2.1 other.2.2.2.2.2.2.2.1
  | string _ => exact here (by decide) (by decide) (by decide)
  | emptyArray _ => exact here (by decide) (by decide) (by decide)
  | array _ _ => exact here (by decide) (by decide) (by decide)
  | emptyObject _ => exact here (by decide) (by decide) (by decide)
  | object _ _ => exact here (by decide) (by decide) (by decide)
  | @element before _ after blankBefore _ _ ih =>
      obtain ⟨blanks, first, rest, blank, rfl, starts⟩ := ih
      exact ⟨before ++ blanks, first, rest ++ after,
        List.forall_mem_append.mpr ⟨blankBefore, blank⟩, by simp, starts⟩
  | oneElement _ ih => exact ih
  | @moreElements _ others _ _ ih _ =>
      obtain ⟨blanks, first, rest, blank, rfl, starts⟩ := ih
      exact ⟨blanks, first, rest ++ ',' :: others, blank, by simp, starts⟩
  | member blankBefore _ _ _ _ =>
      exact ⟨_, '\"', _, blankBefore, rfl, by decide, by decide, by decide⟩
  | oneMember _ ih => exact ih
  | @moreMembers _ others _ _ ih _ =>
      obtain ⟨blanks, first, rest, blank, rfl, starts⟩ := ih
      exact ⟨blanks, first, rest ++ ',' :: others, blank, by simp, starts⟩

/-! ## Brackets -/

/-- What a container waits for behind a comma. -/
def partPhase : Frame → ReaderPhase
  | .array _ => .value
  | .object .. => .name

theorem run_blank_part {blanks : List Char} (blank : Blank blanks) (frame : Frame) :
    run blanks (reader.skipping (frame :: outer) (partPhase frame)) =
      .ok (reader.skipping (frame :: outer) (partPhase frame)) :=
  run_blank_skipping blank fun character isBlank => by
    cases frame <;> simp [partPhase, Reader.step, Reader.stepValue, Reader.stepName, isBlank]

/-- Right behind the opening bracket, the first part is read as one behind a comma. -/
theorem Leads.of_first {part : Part} {text : List Char} {frame : Frame} {outer : List Frame}
    {after : ConfigurationReader} (written : Written part text)
    (leads : Leads text (reader.skipping (frame :: outer) (partPhase frame)) after) :
    Leads text (reader.skipping (frame :: outer) .first) after := by
  obtain ⟨blanks, first, rest, blank, rfl, solid, noArray, noObject⟩ := starts_of_written written
  intro next others follows
  have opened : frame.isClosedBy first = false := by
    cases frame <;> simp [Frame.isClosedBy, noArray, noObject]
  have same : Reader.step .lenient first ⟨frame :: outer, .first⟩ =
      Reader.step .lenient first ⟨frame :: outer, partPhase frame⟩ := by
    cases frame <;>
      simp [partPhase, Reader.step, Reader.stepFirst, Reader.stepPart, solid, opened]
  rw [← leads next others follows, List.append_assoc,
    run_append_of_ok (run_blank_first blank frame), run_append_of_ok (run_blank_part blank frame)]
  exact run_cons_congr (step_skipping_congr same) _

theorem follows_of_isClosedBy {frame : Frame} (closes : frame.isClosedBy character = true) :
    Follows character := by
  cases frame <;> simp_all [Frame.isClosedBy, Follows]

theorem isBlank_of_isClosedBy {frame : Frame} (closes : frame.isClosedBy character = true) :
    isBlank character = false := by
  cases frame <;> obtain rfl := eq_of_beq closes <;> rfl

theorem step_skipping_of_isClosedBy {frame : Frame} (closes : frame.isClosedBy character = true)
    (waits : phase = .first ∨ phase = .next) :
    (reader.skipping (frame :: outer) phase).step character =
      .ok (reader.behind outer frame.close) := by
  have solid := isBlank_of_isClosedBy closes
  refine step_skipping_of_deliver ?_
  rcases waits with rfl | rfl
  · simp [Reader.step, Reader.stepFirst, Reader.close, solid, closes]
  · simp [Reader.step, Reader.stepNext, Reader.close, solid, closes]

theorem leads_of_blank {opening closing : Char} {frame : Frame} {blanks : List Char}
    (opens : (reader.skipping stack .value).step opening =
      .ok (reader.skipping (frame :: stack) .first)) (blank : Blank blanks)
    (closes : frame.isClosedBy closing = true) :
    Leads (opening :: (blanks ++ [closing])) (reader.skipping stack .value)
      (reader.behind stack frame.close) := by
  have closed : (reader.skipping (frame :: stack) .first).step closing =
      .ok (reader.behind stack frame.close) := step_skipping_of_isClosedBy closes (.inl rfl)
  refine .of_run ?_
  rw [run_cons_of_ok opens, run_append_of_ok (run_blank_first blank frame), run_cons_of_ok closed,
    run_nil]

/-- Brackets around parts are skipped if the parts are. -/
theorem Leads.brackets {part : Part} {opening closing : Char} {frame last : Frame}
    {text : List Char} (written : Written part text)
    (leads : Leads text (reader.skipping (frame :: stack) (partPhase frame))
      (reader.skipping (last :: stack) .next))
    (opens : (reader.skipping stack .value).step opening =
      .ok (reader.skipping (frame :: stack) .first))
    (closes : last.isClosedBy closing = true) :
    Leads (opening :: (text ++ [closing])) (reader.skipping stack .value)
      (reader.behind stack last.close) := by
  have inside := (leads.of_first written).run_concat (follows_of_isClosedBy closes)
    (step_skipping_of_isClosedBy closes (.inr rfl))
  exact .run_cons opens (.of_run inside)

/-! ## Parts -/

/-- The name of a member is skipped, and what leads on from behind it leads on from before it. -/
theorem exists_leads_name (reader : ConfigurationReader) {quoted : List Char}
    (quotable : Quotable quoted) (members : List (String × Json)) (name : String)
    (outer : List Frame) :
    ∃ key, ∀ {rest : List Char} {after : ConfigurationReader},
      Leads rest (reader.skipping (.object members key :: outer) .colon) after →
      Leads ('\"' :: (quoted ++ '\"' :: rest))
        (reader.skipping (.object members name :: outer) .name) after := by
  obtain ⟨reversed, read⟩ := Quotation.exists_foldlM_quotable quotable []
  have opened : (reader.skipping (.object members name :: outer) .name).step '\"' =
      .ok (reader.skipping (.object members name :: outer) (.nameText {})) :=
    step_skipping_of_more rfl
  have inside := run_of_foldlM
    (fun quotation => reader.skipping (.object members name :: outer) (.nameText quotation))
    (fun _ _ _ => step_skipping_name) read
  have closed : (reader.skipping (.object members name :: outer)
      (.nameText ⟨.plain, reversed⟩)).step '\"' =
      .ok (reader.skipping (.object members (Quotation.text ⟨.plain, reversed⟩) :: outer) .colon) :=
    step_skipping_of_more rfl
  exact ⟨_, fun leads => .run_cons opened (.run_append inside (.run_cons closed leads))⟩

/-- Every part of a value is skipped whole, also one that holds brackets and names in strings. -/
theorem skips_of_written {part : Part} {text : List Char} (written : Written part text) :
    Skips part text := by
  -- The parts are relations between places, so the stack below the place is free in each case.
  induction written with
  | word word_mem =>
      intro reader stack
      obtain ⟨value, taken⟩ := run_word word_mem
      exact ⟨value, .of_run taken⟩
  | number number => exact fun reader stack => ⟨.null, leads_number number⟩
  | string quotable =>
      intro reader stack
      obtain ⟨value, taken⟩ := run_string quotable
      exact ⟨value, .of_run taken⟩
  | emptyArray blank =>
      exact fun reader stack => ⟨_, leads_of_blank (step_skipping_of_more rfl) blank rfl⟩
  | array elements ih =>
      intro reader stack
      obtain ⟨items, leads⟩ := ih reader [] stack
      exact ⟨_, leads.brackets elements (step_skipping_of_more rfl) rfl⟩
  | emptyObject blank =>
      exact fun reader stack => ⟨_, leads_of_blank (step_skipping_of_more rfl) blank rfl⟩
  | object members ih =>
      intro reader stack
      obtain ⟨entries, last, leads⟩ := ih reader [] "" stack
      exact ⟨_, leads.brackets members (step_skipping_of_more rfl) rfl⟩
  | element blankBefore value blankAfter ih =>
      intro reader stack
      obtain ⟨result, leads⟩ := ih reader stack
      have before : run _ (reader.skipping stack .value) = .ok (reader.skipping stack .value) :=
        run_blank_skipping blankBefore fun character isBlank => by
          simp [Reader.step, Reader.stepValue, isBlank]
      have after := leads.append_blank blankAfter (run_blank_behind blankAfter result)
      exact ⟨result, .run_append before after⟩
  | oneElement element ih =>
      intro reader items outer
      obtain ⟨value, leads⟩ := ih reader (.array items :: outer)
      exact ⟨value :: items, leads⟩
  | moreElements element elements ih ihs =>
      intro reader items outer
      obtain ⟨value, leads⟩ := ih reader (.array items :: outer)
      obtain ⟨after, others⟩ := ihs reader (value :: items) outer
      exact ⟨after, leads.trans (by simp [Follows]) (step_skipping_of_more rfl) others⟩
  | @member before quoted between text blankBefore quotable blankBetween element ih =>
      intro reader members name outer
      obtain ⟨key, named⟩ := exists_leads_name reader quotable members name outer
      obtain ⟨value, leads⟩ := ih reader (.object members key :: outer)
      have left : run before (reader.skipping (.object members name :: outer) .name) =
          .ok (reader.skipping (.object members name :: outer) .name) :=
        run_blank_part blankBefore (.object members name)
      have right : run between (reader.skipping (.object members key :: outer) .colon) =
          .ok (reader.skipping (.object members key :: outer) .colon) :=
        run_blank_skipping blankBetween fun character isBlank => by simp [Reader.step, isBlank]
      have colon : (reader.skipping (.object members key :: outer) .colon).step ':' =
          .ok (reader.skipping (.object members key :: outer) .value) := step_skipping_of_more rfl
      have behindName := (leads.run_cons colon).run_append right
      exact ⟨(key, value) :: members, "", .run_append left (named behindName)⟩
  | oneMember member ih => exact ih
  | moreMembers member members ih ihs =>
      intro reader members name outer
      obtain ⟨entries, last, leads⟩ := ih reader members name outer
      obtain ⟨after, final, others⟩ := ihs reader entries last outer
      exact ⟨after, final, leads.trans (by simp [Follows]) (step_skipping_of_more rfl) others⟩

end ConfigurationReader
end GCode
