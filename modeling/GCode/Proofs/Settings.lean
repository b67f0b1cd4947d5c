import GCode.Proofs.ConfigurationText

/-!
# Configurations in JSON values

A JSON value is a configuration exactly if it is an object whose switches are booleans, or an array
of at most two booleans.  Members that hold no switch make no difference.  Every other value has a
first offence, and the error is about that one.  What is written for a configuration reads back, as
a value and as a text.  All of this holds of every library that reads and writes as documented:
`Library.ofJson_outcome`.
-/

namespace GCode

/-- The place of a switch in an array. -/
def Switch.place : Switch → Nat
  | normaliseWhitespace => 0
  | removeAllComments => 1

namespace Json

/-- What a value holds for a switch: a member of an object, or an item of an array. -/
def given? (switch : Switch) : Json → Option Json
  | object members => member? switch.name members
  | array items => items[switch.place]?
  | _ => none

/-- A value gives a state to a switch, which is the standard one if it holds nothing for it. -/
def Gives (value : Json) (switch : Switch) (state : Bool) : Prop :=
  value.given? switch = some (.bool state) ∨
    value.given? switch = none ∧ state = Configuration.standard.get switch

/-- A value is an object whose switches are booleans, or an array of at most two booleans. -/
def Configures : Json → Prop
  | object members => ∀ switch found, member? (Switch.name switch) members = some found →
      found.IsBool
  | array items => items.length ≤ 2 ∧ ∀ item ∈ items, item.IsBool
  | _ => False

/-- The first offence of a value that is no configuration. -/
inductive Offends : Json → ConfigurationError → Prop where
  /-- The first switch is no boolean. -/
  | normaliseWhitespace {value found : Json}
      (given : value.given? .normaliseWhitespace = some found) (wrong : ¬found.IsBool) :
      Offends value (.notBoolean found)
  /-- The first switch is a boolean if it is there, and the second one is none. -/
  | removeAllComments {value found : Json}
      (right : ∀ first, value.given? .normaliseWhitespace = some first → first.IsBool)
      (given : value.given? .removeAllComments = some found) (wrong : ¬found.IsBool) :
      Offends value (.notBoolean found)
  /-- Both switches are booleans, and more items follow. -/
  | tooManyItems {items : List Json} (right : ∀ item ∈ items.take 2, item.IsBool)
      (long : 2 < items.length) : Offends (.array items) (.tooManyItems items.length)
  /-- The value holds nothing. -/
  | notConfiguration {value : Json} (noObject : ∀ members, value ≠ .object members)
      (noArray : ∀ items, value ≠ .array items) : Offends value (.notConfiguration value)

end Json

namespace Configuration

/-- The configuration that comes from setting switches one after another. -/
def built (calls : List (Switch × Bool)) : Configuration :=
  calls.foldl (fun configuration call => configuration.set call.1 call.2) standard

end Configuration

namespace Json

/-! ## Members -/

/-- Members under other names make no difference. -/
theorem member?_settings (switch : Switch) (members : List (String × Json)) :
    member? switch.name (settings members) = member? switch.name members := by
  induction members using List.reverseRecOn with
  | nil => rfl
  | append_singleton members last ih =>
      rw [member?_concat, settings, List.filter_append, List.filter_cons]
      split
      · rw [List.filter_nil, member?_concat, ← settings, ih]
      · rename_i other
        have differs : last.1 ≠ switch.name := by
          rintro same
          cases switch <;> simp [same, Switch.name] at other
        rw [List.filter_nil, List.append_nil, if_neg differs, ← settings, ih]

end Json

namespace Configuration

open Json

variable {value : Json}

/-! ## Reading a switch -/

theorem readSwitch_of_right {switch : Switch} {given : Option Json}
    (right : ∀ found, given = some found → found.IsBool) :
    ∃ state, readSwitch switch given = .ok state ∧
      (given = some (.bool state) ∨ given = none ∧ state = standard.get switch) := by
  cases given with
  | none => exact ⟨standard.get switch, rfl, .inr ⟨rfl, rfl⟩⟩
  | some found =>
      obtain ⟨state, rfl⟩ := right found rfl
      exact ⟨state, rfl, .inl rfl⟩

/-! ## Reading both switches -/

/-- What a value holds for its switches are booleans. -/
def Right (value : Json) : Prop :=
  ∀ switch found, value.given? switch = some found → found.IsBool

/-- Reads both switches in their order. -/
def readBoth (value : Json) : Except ConfigurationError Configuration := do
  let normalise ← readSwitch .normaliseWhitespace (value.given? .normaliseWhitespace)
  let remove ← readSwitch .removeAllComments (value.given? .removeAllComments)
  return ⟨normalise, remove⟩

theorem ofJson_object (members : List (String × Json)) :
    ofJson (.object members) = readBoth (.object members) := rfl

theorem ofJson_array (items : List Json) :
    ofJson (.array items) =
      (readBoth (.array items) >>= fun configuration =>
        if 2 < items.length then .error (.tooManyItems items.length) else .ok configuration) := by
  simp only [ofJson, readBoth, given?, Switch.place]
  cases readSwitch .normaliseWhitespace items[0]? with
  | error error => rfl
  | ok normalise =>
      cases readSwitch .removeAllComments items[1]? with
      | error error => rfl
      | ok remove =>
          by_cases long : 2 < items.length
          · simp only [if_pos long]; rfl
          · simp only [if_neg long]; rfl

theorem readBoth_of_right (right : Right value) :
    ∃ configuration, readBoth value = .ok configuration ∧
      ∀ switch, value.Gives switch (configuration.get switch) := by
  obtain ⟨normalise, first, givesFirst⟩ := readSwitch_of_right (right .normaliseWhitespace)
  obtain ⟨remove, second, givesSecond⟩ := readSwitch_of_right (right .removeAllComments)
  refine ⟨⟨normalise, remove⟩, ?_, fun switch => ?_⟩
  · rw [readBoth, first, second]
    rfl
  · cases switch
    · exact givesFirst
    · exact givesSecond

theorem readBoth_of_first {found : Json} (given : value.given? .normaliseWhitespace = some found)
    (wrong : ¬found.IsBool) : readBoth value = .error (.notBoolean found) := by
  rw [readBoth, given, readSwitch_of_wrong _ wrong]
  rfl

theorem readBoth_of_second {found : Json}
    (right : ∀ first, value.given? .normaliseWhitespace = some first → first.IsBool)
    (given : value.given? .removeAllComments = some found) (wrong : ¬found.IsBool) :
    readBoth value = .error (.notBoolean found) := by
  obtain ⟨normalise, first, -⟩ := readSwitch_of_right right
  rw [readBoth, first, given, readSwitch_of_wrong _ wrong]
  rfl

/-! ## Reading a value -/

/-- A value that holds something wrong for a switch is an object or an array, and what reading both
switches says of it counts. -/
theorem ofJson_of_readBoth_eq_error {switch : Switch} {found : Json} {error : ConfigurationError}
    (given : value.given? switch = some found) (failed : readBoth value = .error error) :
    ofJson value = .error error := by
  cases value with
  | object members => rw [ofJson_object, failed]
  | array items =>
      rw [ofJson_array, failed]
      rfl
  | _ => contradiction

theorem right_array_iff {items : List Json} :
    Right (.array items) ↔ ∀ item ∈ items.take 2, item.IsBool := by
  constructor
  · intro right item member
    obtain ⟨place, found⟩ := List.mem_iff_getElem?.mp member
    rw [List.getElem?_take] at found
    match place with
    | 0 => exact right .normaliseWhitespace item found
    | 1 => exact right .removeAllComments item found
    | later + 2 => simp [show ¬later + 2 < 2 by omega] at found
  · intro booleans switch found given
    have early : (items.take 2)[switch.place]? = some found := by
      cases switch <;> exact (List.getElem?_take_of_lt (by decide)).trans given
    exact booleans found (List.mem_of_getElem? early)

theorem ofJson_of_offends {error : ConfigurationError} (offends : value.Offends error) :
    ofJson value = .error error := by
  cases offends with
  | normaliseWhitespace given wrong =>
      exact ofJson_of_readBoth_eq_error given (readBoth_of_first given wrong)
  | removeAllComments right given wrong =>
      exact ofJson_of_readBoth_eq_error given (readBoth_of_second right given wrong)
  | tooManyItems right long =>
      obtain ⟨configuration, read, -⟩ := readBoth_of_right (right_array_iff.mpr right)
      rw [ofJson_array, read]
      exact if_pos long
  | notConfiguration noObject noArray =>
      cases value with
      | object members => exact absurd rfl (noObject members)
      | array items => exact absurd rfl (noArray items)
      | _ => rfl

theorem ofJson_of_configures (configures : value.Configures) :
    ∃ configuration, ofJson value = .ok configuration ∧
      ∀ switch, value.Gives switch (configuration.get switch) := by
  cases value with
  | object members =>
      have right : Right (.object members) := configures
      exact readBoth_of_right right
  | array items =>
      obtain ⟨short, booleans⟩ := configures
      have right : Right (.array items) :=
        right_array_iff.mpr fun item member => booleans item (List.mem_of_mem_take member)
      obtain ⟨configuration, read, gives⟩ := readBoth_of_right right
      refine ⟨configuration, ?_, gives⟩
      rw [ofJson_array, read]
      exact if_neg (Nat.not_lt.mpr short)
  | _ => exact configures.elim

theorem exists_offends_of_not_right (fails : ¬Right value) : ∃ error, value.Offends error := by
  by_cases right : ∀ found, value.given? .normaliseWhitespace = some found → found.IsBool
  · simp only [Right, not_forall] at fails
    obtain ⟨switch, found, given, wrong⟩ := fails
    cases switch with
    | normaliseWhitespace => exact absurd (right found given) wrong
    | removeAllComments => exact ⟨_, .removeAllComments right given wrong⟩
  · simp only [not_forall] at right
    obtain ⟨found, given, wrong⟩ := right
    exact ⟨_, .normaliseWhitespace given wrong⟩

/-- A value that is no configuration has a first offence. -/
theorem exists_offends_of_not_configures (fails : ¬value.Configures) :
    ∃ error, value.Offends error := by
  cases value with
  | object members => exact exists_offends_of_not_right fails
  | array items =>
      by_cases right : Right (.array items)
      · have booleans := right_array_iff.mp right
        have long : 2 < items.length := by
          by_contra short
          have all : items.take 2 = items := List.take_of_length_le (Nat.not_lt.mp short)
          exact fails ⟨Nat.not_lt.mp short, all ▸ booleans⟩
        exact ⟨_, .tooManyItems booleans long⟩
      · exact exists_offends_of_not_right right
  | _ => exact ⟨_, .notConfiguration nofun nofun⟩

theorem configures_of_ofJson_eq_ok {configuration : Configuration}
    (read : ofJson value = .ok configuration) :
    value.Configures ∧ ∀ switch, value.Gives switch (configuration.get switch) := by
  by_cases configures : value.Configures
  · obtain ⟨other, same, gives⟩ := ofJson_of_configures configures
    obtain rfl := Except.ok.inj (read.symm.trans same)
    exact ⟨configures, gives⟩
  · obtain ⟨error, offends⟩ := exists_offends_of_not_configures configures
    exact nomatch read.symm.trans (ofJson_of_offends offends)

theorem offends_of_ofJson_eq_error {error : ConfigurationError}
    (failed : ofJson value = .error error) : value.Offends error := by
  have fails : ¬value.Configures := fun configures => by
    obtain ⟨configuration, read, -⟩ := ofJson_of_configures configures
    exact nomatch failed.symm.trans read
  obtain ⟨other, offends⟩ := exists_offends_of_not_configures fails
  obtain rfl := Except.error.inj (failed.symm.trans (ofJson_of_offends offends))
  exact offends

theorem ofJson_settings (members : List (String × Json)) :
    ofJson (.object (settings members)) = ofJson (.object members) := by
  have given : ∀ switch, Json.given? switch (.object (settings members)) =
      Json.given? switch (.object members) := fun switch => member?_settings switch members
  rw [ofJson_object, ofJson_object, readBoth, readBoth, given, given]

end Configuration

/-! ## Libraries -/

namespace Library

open Json GCode.Configuration

/-- What a library writes as a text, a library reads back. -/
theorem ofText_toText {library : Library} (reads : library.ReadsTexts) (writes : library.Writes)
    (configuration : Configuration) :
    library.ofText (library.toText configuration) = .ok configuration := by
  have boolean : Boolean (Switch.all.map fun switch =>
      (switch.name, boolWord (configuration.get switch))) := by
    intro switch value member
    obtain ⟨other, -, same⟩ := List.mem_map.mp member
    exact ⟨configuration.get other, (congrArg Prod.snd same).symm⟩
  have once : ∀ switch, (Switch.all.map Switch.name).count (Switch.name switch) ≤ 1 :=
    fun switch => by cases switch <;> decide
  obtain ⟨found, read, obeys⟩ := ofText_of_once reads (writes.toText configuration) boolean once
  have same : found = configuration := ext_get fun switch =>
    (obeys switch).1 (configuration.get switch)
      (List.mem_map.mpr ⟨switch, by cases switch <;> decide, rfl⟩)
  rw [read, same]

/-- What a library writes as a value, it reads back. -/
theorem ofJson_toJson {library : Library} (reads : library.ReadsValues) (writes : library.Writes)
    (configuration : Configuration) :
    library.ofJson (library.toJson configuration) = .ok configuration := by
  rw [reads.ofJson_eq, writes.toJson]
  rfl

/-- A library that reads and writes as documented takes a value for a configuration exactly if it is
an object whose switches are booleans, or an array of at most two booleans.  Each switch has the
state that the value gives to it, or else its standard one.  The error of any other value is about
its first offence.  Only the members that hold a switch count, and a configuration that is written
reads back. -/
theorem ofJson_outcome {library : Library} (values : library.ReadsValues)
    (texts : library.ReadsTexts) (writes : library.Writes) (value : Json) :
    ((∃ configuration, library.ofJson value = .ok configuration) ↔ value.Configures) ∧
      (∀ configuration, library.ofJson value = .ok configuration →
        ∀ switch, value.Gives switch (configuration.get switch)) ∧
      (∀ error, library.ofJson value = .error error ↔ value.Offends error) ∧
      (∀ members others : List (String × Json), settings members = settings others →
        library.ofJson (.object members) = library.ofJson (.object others)) ∧
      ∀ calls, library.ofJson (library.toJson (built calls)) = .ok (built calls) ∧
        library.ofText (library.toText (built calls)) = .ok (built calls) := by
  simp only [values.ofJson_eq value]
  refine ⟨⟨?_, ?_⟩, ?_, ?_, ?_, ?_⟩
  · rintro ⟨configuration, read⟩
    exact (configures_of_ofJson_eq_ok read).1
  · intro configures
    obtain ⟨configuration, read, -⟩ := ofJson_of_configures configures
    exact ⟨configuration, read⟩
  · exact fun configuration read => (configures_of_ofJson_eq_ok read).2
  · exact fun error => ⟨offends_of_ofJson_eq_error, ofJson_of_offends⟩
  · intro members others same
    rw [values.ofJson_eq, values.ofJson_eq, ← ofJson_settings members, same, ofJson_settings]
  · exact fun calls => ⟨ofJson_toJson values writes (built calls),
      ofText_toText texts writes (built calls)⟩

/-- Only the wrong switch counts, among a member of another name and a switch that is right. -/
theorem ofJson_outcome_wrong_switch :
    let value := Json.object [("removeAllComments", .integer 1), ("x", .null),
      ("normaliseWhitespace", .bool false)]
    builtIn.ReadsValues ∧ builtIn.ReadsTexts ∧ builtIn.Writes ∧
      builtIn.ofJson value = .error (.notBoolean (.integer 1)) := by
  intro value
  have outcome := ofJson_outcome builtIn_readsValues builtIn_readsTexts builtIn_writes value
  have right : ∀ first, value.given? .normaliseWhitespace = some first → first.IsBool := by
    intro first given
    exact ⟨false, (Option.some.inj given).symm⟩
  have wrong : ¬(Json.integer 1).IsBool := by
    rintro ⟨state, same⟩
    contradiction
  exact ⟨builtIn_readsValues, builtIn_readsTexts, builtIn_writes,
    (outcome.2.2.1 _).mpr (.removeAllComments right rfl wrong)⟩

end Library
end GCode
