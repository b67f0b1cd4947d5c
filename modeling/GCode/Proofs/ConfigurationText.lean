import GCode.Proofs.BuiltIn

/-!
# Configurations in JSON text

The text of an object is a configuration if each switch stands in it at most once, and with a
boolean.  Only these members count, in whatever order and between whatever others they stand, and a
switch that stands in it twice is an error: `Library.ofText_of_objectText`.  All of this holds of
every library that reads texts as documented, one member after another.
-/

namespace GCode

namespace Json

/-- Where some members hold a switch, its value is a boolean. -/
def Boolean (entries : List (String × List Char)) : Prop :=
  ∀ switch value, (Switch.name switch, value) ∈ entries → ∃ state, value = boolWord state

theorem Boolean.head {entry : String × List Char} {entries : List (String × List Char)}
    (boolean : Boolean (entry :: entries)) (switch : Switch) (named : entry.1 = switch.name) :
    ∃ state, entry.2 = boolWord state :=
  boolean switch entry.2 (named ▸ List.mem_cons_self)

theorem Boolean.tail {entry : String × List Char} {entries : List (String × List Char)}
    (boolean : Boolean (entry :: entries)) : Boolean entries :=
  fun switch value member => boolean switch value (List.mem_cons_of_mem entry member)

/-- The members that hold a switch. -/
def settings {α : Type} (members : List (String × α)) : List (String × α) :=
  members.filter fun entry =>
    entry.1 == "normaliseWhitespace" || entry.1 == "removeAllComments"

end Json

namespace Given

open Json

/-- Notes a member, whose value is a boolean if it holds a switch. -/
def note (given : Given) (entry : String × List Char) : Except ConfigurationFault Given :=
  match Switch.ofName? entry.1 with
  | none => .ok given
  | some switch =>
      if (given.get switch).isSome then .error .misshapen
      else .ok (given.set switch (entry.2 == boolWord true))

variable {given : Given} {switch other : Switch}

@[simp] theorem get_set (state : Bool) : (given.set switch state).get switch = some state := by
  cases switch <;> rfl

theorem get_set_of_ne (differ : other ≠ switch) (state : Bool) :
    (given.set switch state).get other = given.get other := by
  cases switch <;> cases other <;> first | rfl | exact absurd rfl differ

theorem get_configuration (given : Given) (switch : Switch) :
    given.configuration.get switch =
      (given.get switch).getD (Configuration.standard.get switch) := by
  cases switch <;> rfl

/-! ## Noting members -/

/-- A member is noted unless it holds a switch that has been noted before. -/
theorem note_spec (given : Given) (entry : String × List Char) :
    (∃ next, given.note entry = .ok next ∧
      (∀ switch, next.get switch =
        if entry.1 = switch.name then some (entry.2 == boolWord true) else given.get switch) ∧
      ∀ switch, entry.1 = Switch.name switch → given.get switch = none) ∨
    (given.note entry = .error .misshapen ∧
      ∃ switch, entry.1 = Switch.name switch ∧ (given.get switch).isSome = true) := by
  rw [note]
  cases known : Switch.ofName? entry.1 with
  | none =>
      have differ : ∀ switch, entry.1 ≠ Switch.name switch := fun switch same => by
        rw [same, Switch.ofName?_name] at known
        contradiction
      exact .inl ⟨given, rfl, fun switch => (if_neg (differ switch)).symm,
        fun switch same => absurd same (differ switch)⟩
  | some switch =>
      have named := Switch.name_of_ofName?_eq_some known
      have only : ∀ other, entry.1 = Switch.name other → other = switch := fun other same => by
        rw [same, Switch.ofName?_name] at known
        exact Option.some.inj known
      by_cases before : (given.get switch).isSome = true
      · exact .inr ⟨if_pos before, switch, named, before⟩
      · refine .inl ⟨given.set switch (entry.2 == boolWord true), if_neg before, fun other => ?_,
          fun other same => ?_⟩
        · split
          · rename_i same
            rw [only other same, get_set]
          · rename_i differs
            refine get_set_of_ne (fun same => differs ?_) _
            rw [named, same]
        · rw [only other same]
          simpa using before

/-- How often a switch has been noted or stands in members that are still to be noted. -/
def times (given : Given) (entries : List (String × List Char)) (switch : Switch) :
    Nat :=
  (entries.map Prod.fst).count switch.name + (given.get switch).isSome.toNat

/-- Noting a member changes nothing in how often a switch is given. -/
theorem times_eq_of_noted {next : Given} {entry : String × List Char}
    (gets : ∀ switch, next.get switch =
      if entry.1 = switch.name then some (entry.2 == boolWord true) else given.get switch)
    (fresh : ∀ switch, entry.1 = Switch.name switch → given.get switch = none)
    (rest : List (String × List Char)) (switch : Switch) :
    next.times rest switch = given.times (entry :: rest) switch := by
  rw [times, times, gets, List.map_cons]
  by_cases same : entry.1 = switch.name
  · simp [same, fresh switch same]
  · rw [if_neg same, List.count_cons_of_ne same]

theorem foldlM_note_of_repeated {entries : List (String × List Char)}
    (repeated : 2 ≤ given.times entries switch) :
    entries.foldlM note given = .error .misshapen := by
  induction entries generalizing given with
  | nil =>
      have few := Bool.toNat_le (given.get switch).isSome
      simp only [times, List.map_nil, List.count_nil, Nat.zero_add] at repeated
      omega
  | cons entry rest ih =>
      rw [List.foldlM_cons]
      rcases given.note_spec entry with ⟨next, noted, gets, fresh⟩ | ⟨failed, -⟩
      · rw [noted]
        exact ih (by rwa [times_eq_of_noted gets fresh])
      · rw [failed]
        rfl

theorem foldlM_note_of_once {entries : List (String × List Char)}
    (once : ∀ switch, given.times entries switch ≤ 1) :
    ∃ noted, entries.foldlM note given = .ok noted ∧ ∀ switch : Switch,
      (∀ value, (switch.name, value) ∈ entries → noted.get switch = some (value == boolWord true)) ∧
        (switch.name ∉ entries.map Prod.fst → noted.get switch = given.get switch) := by
  induction entries generalizing given with
  | nil => exact ⟨given, rfl, fun switch => ⟨by simp, fun _ => rfl⟩⟩
  | cons entry rest ih =>
      rw [List.foldlM_cons]
      rcases given.note_spec entry with ⟨next, noted, gets, fresh⟩ | ⟨-, switch, named, before⟩
      · rw [noted]
        obtain ⟨last, others, reads⟩ := ih fun switch => by
          rw [times_eq_of_noted gets fresh]
          exact once switch
        refine ⟨last, others, fun switch => ⟨fun value member => ?_, fun absent => ?_⟩⟩
        · rcases List.mem_cons.mp member with rfl | later
          · have absent : switch.name ∉ rest.map Prod.fst := by
              have here := once switch
              rw [times, List.map_cons, List.count_cons_self] at here
              exact List.count_eq_zero.mp (by omega)
            rw [(reads switch).2 absent, gets, if_pos rfl]
          · exact (reads switch).1 value later
        · rw [List.map_cons, List.mem_cons, not_or] at absent
          rw [(reads switch).2 absent.2, gets, if_neg (Ne.symm absent.1)]
      · have twice := once switch
        simp [times, named, before] at twice

end Given

/-! ## Reading members -/

namespace Library

open Json

variable {library : Library} (reads : library.ReadsTexts)
include reads

/-- A member is read as it is noted, when whatever follows it is read as `onward`. -/
theorem ReadsTexts.member {text : List Char} {entry : String × List Char}
    (member : MemberText text entry)
    (boolean : ∀ switch, entry.1 = Switch.name switch → ∃ state, entry.2 = boolWord state)
    (first : Bool) (given : Given) {next : Char} (follows : Follows next) (rest : List Char)
    {onward : Given → Except ConfigurationFault Configuration}
    (goesOn : ∀ noted blanks, Blank blanks →
      library.visitText .next noted (blanks ++ next :: rest) = onward noted) :
    library.visitText (.member first) given (text ++ next :: rest) =
      (given.note entry >>= onward) := by
  cases member with
  | @intro before quoted name between left value right blankBefore spells blankBetween blankLeft
      written blankRight =>
      rw [List.append_assoc, List.cons_append, List.append_assoc, List.cons_append, Given.note]
      cases known : Switch.ofName? (String.ofList name) with
      | none =>
          have fresh : ∀ switch, Switch.ofName? (String.ofList name) = some switch →
              given.get switch = none := by
            simp [known]
          have element := Written.element blankLeft written blankRight
          rw [reads.name given first _ _ _ _ blankBefore spells fresh, known, List.append_assoc,
            List.cons_append, reads.ignored given _ _ _ rest blankBetween element follows]
          exact goesOn given [] blank_nil
      | some switch =>
          by_cases repeated : (given.get switch).isSome = true
          · rw [reads.repeated given first _ _ _ _ switch blankBefore spells known repeated]
            simp only [if_pos repeated]
            rfl
          · have fresh : ∀ other, Switch.ofName? (String.ofList name) = some other →
                given.get other = none := by
              intro other known'
              obtain rfl : switch = other := Option.some.inj (known.symm.trans known')
              simpa using repeated
            obtain ⟨state, rfl⟩ := boolean switch (Switch.name_of_ofName?_eq_some known)
            have noted : (boolWord state == boolWord true) = state := by
              cases state <;> decide
            rw [reads.name given first _ _ _ _ blankBefore spells fresh, known, List.append_assoc,
              List.cons_append, List.append_assoc, List.append_assoc,
              reads.boolean given switch _ _ state _ blankBetween blankLeft,
              goesOn _ right blankRight]
            simp only [if_neg repeated, noted]
            rfl

theorem ReadsTexts.members {text after : List Char} {entries : List (String × List Char)}
    (members : MembersText text entries) (boolean : Boolean entries) (blank : Blank after)
    (first : Bool) (given : Given) :
    library.visitText (.member first) given (text ++ '\x7d' :: after) =
      (entries.foldlM Given.note given).map Given.configuration := by
  induction members generalizing given first with
  | @one text entry member =>
      rw [reads.member member boolean.head first given (by simp [Follows]) after
        fun noted blanks blankBefore => reads.closing noted blanks after blankBefore blank,
        List.foldlM_cons]
      cases given.note entry <;> rfl
  | @more text others entry entries member members ih =>
      rw [List.append_assoc, List.cons_append,
        reads.member member boolean.head first given (by simp [Follows]) _
          fun noted blanks blankBefore => reads.comma noted blanks _ blankBefore,
        List.foldlM_cons]
      cases given.note entry with
      | error fault => rfl
      | ok noted => exact ih boolean.tail false noted

/-- The text of an object is read by noting its members in their order. -/
theorem ReadsTexts.ofText_eq_foldlM {text : String} {entries : List (String × List Char)}
    (object : ObjectText text.toList entries) (boolean : Boolean entries) :
    library.ofText text = (entries.foldlM Given.note {}).map Given.configuration := by
  rw [reads.ofText]
  generalize text.toList = characters at object
  cases object with
  | empty blankBefore blankInside blankAfter =>
      rw [reads.opening _ _ blankBefore, reads.empty {} _ _ blankInside blankAfter]
      rfl
  | members blankBefore members blankAfter =>
      rw [reads.opening _ _ blankBefore, reads.members members boolean blankAfter]

end Library

/-! ## What the members of an object say -/

namespace Configuration

open Json

/-- A configuration has the states that some members give to its switches, and otherwise the
standard ones. -/
def Obeys (configuration : Configuration) (entries : List (String × List Char)) : Prop :=
  ∀ switch : Switch,
    (∀ state, (switch.name, boolWord state) ∈ entries → configuration.get switch = state) ∧
      (switch.name ∉ entries.map Prod.fst → configuration.get switch = standard.get switch)

theorem ext_get {first second : Configuration}
    (same : ∀ switch, first.get switch = second.get switch) : first = second := by
  obtain ⟨normalise, remove⟩ := first
  obtain ⟨normalise', remove'⟩ := second
  have normaliseSame : normalise = normalise' := same .normaliseWhitespace
  have removeSame : remove = remove' := same .removeAllComments
  rw [normaliseSame, removeSame]

theorem mem_settings {switch : Switch} {value : List Char} {entries : List (String × List Char)} :
    (switch.name, value) ∈ settings entries ↔ (switch.name, value) ∈ entries := by
  cases switch <;> simp [settings, Switch.name]

/-- Members determine the configuration that obeys them, and only those that hold a switch count. -/
theorem Obeys.unique {first second : Configuration} {entries others : List (String × List Char)}
    (boolean : Boolean entries) (obeys : first.Obeys entries)
    (obeys' : second.Obeys others)
    (same : ∀ entry, entry ∈ settings others ↔ entry ∈ settings entries) : first = second := by
  have iff : ∀ (switch : Switch) value,
      (switch.name, value) ∈ others ↔ (switch.name, value) ∈ entries := fun switch value => by
    rw [← mem_settings, same, mem_settings]
  refine ext_get fun switch => ?_
  by_cases given : switch.name ∈ entries.map Prod.fst
  · obtain ⟨⟨name, value⟩, member, named⟩ := List.mem_map.mp given
    obtain rfl : name = switch.name := named
    obtain ⟨state, rfl⟩ := boolean switch value member
    rw [(obeys switch).1 state member, (obeys' switch).1 state ((iff switch _).mpr member)]
  · have given' : switch.name ∉ others.map Prod.fst := fun member => by
      obtain ⟨⟨name, value⟩, member, named⟩ := List.mem_map.mp member
      obtain rfl : name = switch.name := named
      exact given (List.mem_map_of_mem ((iff switch value).mp member))
    rw [(obeys switch).2 given, (obeys' switch).2 given']

theorem count_settings (switch : Switch) (entries : List (String × List Char)) :
    ((settings entries).map Prod.fst).count switch.name =
      (entries.map Prod.fst).count switch.name := by
  have names : (settings entries).map Prod.fst = (entries.map Prod.fst).filter
      fun name => name == "normaliseWhitespace" || name == "removeAllComments" := by
    rw [List.filter_map]
    rfl
  rw [names, List.count_filter]
  cases switch <;> rfl

end Configuration

/-! ## Reading an object -/

namespace Library

open Json GCode.Configuration

section

variable {library : Library} (reads : library.ReadsTexts)
include reads

theorem ofText_of_once {text : String} {entries : List (String × List Char)}
    (object : ObjectText text.toList entries) (boolean : Boolean entries)
    (once : ∀ switch : Switch, (entries.map Prod.fst).count switch.name ≤ 1) :
    ∃ configuration, library.ofText text = .ok configuration ∧ configuration.Obeys entries := by
  have fresh : ∀ switch, Given.times {} entries switch ≤ 1 := fun switch => by
    cases switch <;> exact once _
  obtain ⟨noted, read, gets⟩ := Given.foldlM_note_of_once fresh
  refine ⟨noted.configuration, ?_, fun switch => ⟨fun state member => ?_, fun absent => ?_⟩⟩
  · rw [reads.ofText_eq_foldlM object boolean, read]
    rfl
  · rw [Given.get_configuration, (gets switch).1 _ member, Option.getD_some]
    cases state <;> decide
  · rw [Given.get_configuration, (gets switch).2 absent]
    cases switch <;> rfl

theorem ofText_of_repeated {text : String} {entries : List (String × List Char)}
    (object : ObjectText text.toList entries) (boolean : Boolean entries)
    {switch : Switch} (repeated : 2 ≤ (entries.map Prod.fst).count switch.name) :
    library.ofText text = .error .misshapen := by
  have twice : 2 ≤ Given.times {} entries switch := repeated.trans (Nat.le_add_right _ _)
  rw [reads.ofText_eq_foldlM object boolean, Given.foldlM_note_of_repeated twice]
  rfl

/-! ## Other members and another order -/

theorem ofText_eq_of_perm {text other : String} {entries others : List (String × List Char)}
    (object : ObjectText text.toList entries) (boolean : Boolean entries)
    (object' : ObjectText other.toList others)
    (perm : (settings others).Perm (settings entries)) :
    library.ofText other = library.ofText text := by
  have boolean' : Boolean others := fun switch value member =>
    boolean switch value (mem_settings.mp (perm.mem_iff.mp (mem_settings.mpr member)))
  have counts : ∀ switch : Switch,
      (others.map Prod.fst).count switch.name = (entries.map Prod.fst).count switch.name :=
    fun switch => by
      rw [← count_settings, (perm.map Prod.fst).count_eq, count_settings]
  by_cases once : ∀ switch : Switch, (entries.map Prod.fst).count switch.name ≤ 1
  · have once' : ∀ switch : Switch, (others.map Prod.fst).count switch.name ≤ 1 :=
      fun switch => (counts switch).trans_le (once switch)
    obtain ⟨first, read, obeys⟩ := ofText_of_once reads object boolean once
    obtain ⟨second, read', obeys'⟩ := ofText_of_once reads object' boolean' once'
    rw [read, read', obeys.unique boolean obeys' fun entry => perm.mem_iff]
  · obtain ⟨switch, twice⟩ := not_forall.mp once
    have repeated : 2 ≤ (entries.map Prod.fst).count switch.name := Nat.not_le.mp twice
    rw [ofText_of_repeated reads object boolean repeated,
      ofText_of_repeated reads object' boolean' ((counts switch).symm ▸ repeated)]

end

/-- A library that reads texts as documented takes the text of an object whose switches hold
booleans for a configuration if each of them stands in it at most once, and the configuration has
the states that its members give.  It is an error of its contents if one stands in it twice,
whatever stands between.  Neither other members nor the order of the members make a difference. -/
theorem ofText_of_objectText {library : Library} (reads : library.ReadsTexts) {text : String}
    {entries : List (String × List Char)} (object : ObjectText text.toList entries)
    (boolean : Boolean entries) :
    ((∀ switch : Switch, (entries.map Prod.fst).count switch.name ≤ 1) →
        ∃ configuration, library.ofText text = .ok configuration ∧ configuration.Obeys entries) ∧
      (∀ switch : Switch, 2 ≤ (entries.map Prod.fst).count switch.name →
        library.ofText text = .error .misshapen) ∧
      ∀ (other : String) (others : List (String × List Char)), ObjectText other.toList others →
        (settings others).Perm (settings entries) → library.ofText other = library.ofText text :=
  ⟨ofText_of_once reads object boolean, fun _ => ofText_of_repeated reads object boolean,
    fun _ _ object' perm => ofText_eq_of_perm reads object boolean object' perm⟩

/-- The nested name and the quoted brace belong to the first member, and the second name is spelled
with an escape. -/
theorem ofText_of_objectText_nested :
    let text := " \x7b\"x\":[\x7b\"normaliseWhitespace\":0\x7d,\"\\\"\x7d\"]," ++
      "\"\\u0072emoveAllComments\": true\x7d"
    let entries := [("x", "[\x7b\"normaliseWhitespace\":0\x7d,\"\\\"\x7d\"]".toList),
      ("removeAllComments", boolWord true)]
    builtIn.ReadsTexts ∧ ObjectText text.toList entries ∧ Boolean entries ∧
      builtIn.ofText text = .ok ⟨true, true⟩ := by
  intro text entries
  have name : Quotable "normaliseWhitespace".toList := (spells_of_isPlain (by decide)).quotable
  have number : Written .value ['0'] :=
    .number (.intro (show [] ∈ [[], ['-']] by decide) .zero .missing .missing)
  have inner : Written .value "\x7b\"normaliseWhitespace\":0\x7d".toList :=
    .object (.oneMember (.member blank_nil name blank_nil (.element blank_nil number blank_nil)))
  have escapes : ('\"', '\"') ∈ shortEscapes := by decide
  have quoted : Written .value "\"\\\"\x7d\"".toList :=
    .string (.escape escapes (.plain (by decide) .nil))
  have array : Written .value "[\x7b\"normaliseWhitespace\":0\x7d,\"\\\"\x7d\"]".toList :=
    .array (.moreElements (.element blank_nil inner blank_nil)
      (.oneElement (.element blank_nil quoted blank_nil)))
  have unit : CodeUnit ['0', '0', '7', '2'] (((0 * 16 + 0) * 16 + 7) * 16 + 2) :=
    .intro (.inl rfl) (.inl rfl) (.inl rfl) (.inl rfl)
  have rest : Spells "emoveAllComments".toList "emoveAllComments".toList :=
    spells_of_isPlain (by decide)
  have spells : Spells "\\u0072emoveAllComments".toList "removeAllComments".toList :=
    .unit unit (by decide) rest
  have plain : Spells ['x'] ['x'] := spells_of_isPlain (by decide)
  have word : Written .value (boolWord true) := .word (by decide)
  have space : Blank [' '] := by decide
  have object : ObjectText text.toList entries := by
    have parts := ObjectText.members space
      (.more (.intro blank_nil plain blank_nil blank_nil array blank_nil)
        (.one (.intro blank_nil spells blank_nil space word blank_nil))) blank_nil
    simpa [text, entries, boolWord] using parts
  have boolean : Boolean entries := fun switch value member => by
    cases switch <;> simp [entries, Switch.name] at member
    exact ⟨true, member⟩
  obtain ⟨configuration, read, obeys⟩ :=
    (ofText_of_objectText builtIn_readsTexts object boolean).1 fun switch => by
      cases switch <;> decide
  have same : configuration = ⟨true, true⟩ := ext_get fun switch => by
    cases switch with
    | normaliseWhitespace => exact (obeys .normaliseWhitespace).2 (by decide)
    | removeAllComments => exact (obeys .removeAllComments).1 true (by decide)
  exact ⟨builtIn_readsTexts, object, boolean, same ▸ read⟩

end Library
end GCode
