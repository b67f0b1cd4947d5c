import GCode.Configuration.OfJson
import Mathlib.Data.Finset.Sort
import Mathlib.Data.String.Basic

/-!
# Visiting what a value holds

The code that is derived for configurations takes the entries of a map in the order of their names,
and the items of an array in theirs.  Either way it judges the switches in the order of their
declaration, so it reads a value as looking the switches up does: `Library.ReadsValues.ofJson_eq`.
-/

namespace GCode

namespace Switch

theorem ofName?_name (switch : Switch) : ofName? switch.name = some switch := by
  cases switch <;> rfl

theorem name_of_ofName?_eq_some {name : String} {switch : Switch}
    (known : ofName? name = some switch) : name = switch.name := by
  rw [ofName?] at known
  split at known
  · rename_i same
    rw [same, Option.some.inj known]
  · split at known
    · rename_i same
      rw [same, Option.some.inj known]
    · contradiction

theorem ofName?_eq_none {entry : String} (first : entry ≠ name normaliseWhitespace)
    (second : entry ≠ name removeAllComments) : ofName? entry = none := by
  rw [ofName?, if_neg first, if_neg second]

theorem name_lt_name : name normaliseWhitespace < name removeAllComments := by decide

end Switch

/-- A switch that has not been given may as well be given its standard state. -/
theorem Given.configuration_set_standard {given : Given} {switch : Switch}
    (fresh : given.get switch = none) :
    (given.set switch (Configuration.standard.get switch)).configuration = given.configuration := by
  obtain ⟨normalise, remove⟩ := given
  cases switch <;> subst fresh <;> rfl

namespace Json

theorem member?_concat (name : String) (members : List (String × Json)) (last : String × Json) :
    member? name (members ++ [last]) =
      if last.1 = name then some last.2 else member? name members := by
  rw [member?, List.foldl_append]
  rfl

theorem mem_names_of_member? {name : String} {value : Json} {members : List (String × Json)}
    (found : member? name members = some value) : name ∈ members.map Prod.fst := by
  induction members using List.reverseRecOn with
  | nil => contradiction
  | append_singleton members last ih =>
      rw [List.map_append, List.mem_append]
      rw [member?_concat] at found
      split at found
      · rename_i same
        exact .inr (by simp [same])
      · exact .inl (ih found)

/-- Every object has the entries of a map. -/
theorem exists_entries (members : List (String × Json)) : ∃ entries, Entries members entries := by
  let names := (members.map Prod.fst).toFinset.sort
  refine ⟨names.filterMap fun name => (member? name members).map fun value => (name, value),
    ?_, ?_⟩
  · have sorted : names.Pairwise (· < ·) := (Finset.sortedLT_sort _).pairwise
    refine sorted.filterMap _ fun first second less entry held other held' => ?_
    obtain ⟨_, -, rfl⟩ := Option.map_eq_some_iff.mp held
    obtain ⟨_, -, rfl⟩ := Option.map_eq_some_iff.mp held'
    exact less
  · intro name value
    simp only [List.mem_filterMap, Option.map_eq_some_iff, Prod.mk.injEq]
    constructor
    · rintro ⟨_, -, _, found, rfl, rfl⟩
      exact found
    · intro found
      have among : name ∈ names := by
        simpa [names] using mem_names_of_member? found
      exact ⟨name, among, value, found, rfl, rfl⟩

/-- The entries before an entry have smaller names, and those behind it have greater ones. -/
theorem exists_split_of_mem {entries : List (String × Json)}
    (ascending : entries.Pairwise fun first second => first.1 < second.1) {name : String}
    {value : Json} (member : (name, value) ∈ entries) :
    ∃ before after, entries = before ++ (name, value) :: after ∧
      (∀ entry ∈ before, entry.1 < name) ∧ ∀ entry ∈ after, name < entry.1 := by
  obtain ⟨before, after, rfl⟩ := List.append_of_mem member
  obtain ⟨-, behind, across⟩ := List.pairwise_append.mp ascending
  exact ⟨before, after, rfl, fun entry earlier => across entry earlier _ List.mem_cons_self,
    fun entry later => (List.pairwise_cons.mp behind).1 entry later⟩

end Json

theorem Configuration.readSwitch_of_wrong (switch : Switch) {found : Json}
    (wrong : ¬found.IsBool) : readSwitch switch (some found) = .error (.notBoolean found) := by
  cases found with
  | bool state => exact absurd ⟨state, rfl⟩ wrong
  | _ => rfl

/-! ## Entries -/

namespace VisitsMembers

variable {visit : Given → List (String × Json) → Except ConfigurationError Configuration}
  (visits : VisitsMembers visit)
include visits

theorem append {before : List (String × Json)}
    (unknown : ∀ entry ∈ before, Switch.ofName? entry.1 = none) (given : Given)
    (rest : List (String × Json)) : visit given (before ++ rest) = visit given rest := by
  induction before with
  | nil => rfl
  | cons entry before ih =>
      rw [List.forall_mem_cons] at unknown
      rw [List.cons_append, visits.unknown given entry.1 entry.2 _ unknown.1, ih unknown.2]

theorem of_unknown {entries : List (String × Json)}
    (unknown : ∀ entry ∈ entries, Switch.ofName? entry.1 = none) (given : Given) :
    visit given entries = .ok given.configuration := by
  rw [← List.append_nil entries, visits.append unknown, visits.nil]

/-- An entry of a switch is judged, and the rest is visited if it is right. -/
theorem cons {given : Given} {switch : Switch} (fresh : given.get switch = none) (value : Json)
    (rest : List (String × Json)) :
    visit given ((switch.name, value) :: rest) =
      (Configuration.readSwitch switch (some value) >>= fun state =>
        visit (given.set switch state) rest) := by
  by_cases right : value.IsBool
  · obtain ⟨state, rfl⟩ := right
    exact visits.bool given switch state rest fresh
  · rw [visits.notBoolean given switch value rest fresh right,
      Configuration.readSwitch_of_wrong switch right]
    rfl

/-- Among entries that hold nothing for the first switch, the second one alone is judged. -/
theorem of_second {given : Given} {entries : List (String × Json)} {found : Option Json}
    (ascending : entries.Pairwise fun first second => first.1 < second.1)
    (others : ∀ entry ∈ entries, entry.1 ≠ Switch.name .normaliseWhitespace)
    (mem_iff : ∀ value, (Switch.name .removeAllComments, value) ∈ entries ↔ found = some value)
    (fresh : given.get .removeAllComments = none) :
    visit given entries =
      (Configuration.readSwitch .removeAllComments found >>= fun state =>
        .ok (given.set .removeAllComments state).configuration) := by
  cases found with
  | none =>
      have unknown : ∀ entry ∈ entries, Switch.ofName? entry.1 = none := by
        intro entry member
        refine Switch.ofName?_eq_none (others entry member) fun same => ?_
        have held : (Switch.name .removeAllComments, entry.2) ∈ entries := same ▸ member
        have := (mem_iff entry.2).mp held
        contradiction
      rw [visits.of_unknown unknown, ← Given.configuration_set_standard fresh]
      rfl
  | some value =>
      obtain ⟨before, after, rfl, smaller, greater⟩ :=
        Json.exists_split_of_mem ascending ((mem_iff value).mpr rfl)
      rw [List.forall_mem_append, List.forall_mem_cons] at others
      have unknownBefore : ∀ entry ∈ before, Switch.ofName? entry.1 = none := fun entry member =>
        Switch.ofName?_eq_none (others.1 entry member) (smaller entry member).ne
      have unknownAfter : ∀ entry ∈ after, Switch.ofName? entry.1 = none := fun entry member =>
        Switch.ofName?_eq_none (others.2.2 entry member) (greater entry member).ne'
      rw [visits.append unknownBefore, visits.cons fresh]
      exact bind_congr fun state => visits.of_unknown unknownAfter _

/-- However the entries of a map are visited, both switches are judged in their order. -/
theorem of_entries {members entries : List (String × Json)}
    (sorted : Json.Entries members entries) :
    visit {} entries = Configuration.ofJson (.object members) := by
  rw [Configuration.ofJson]
  cases first : Json.member? (Switch.name .normaliseWhitespace) members with
  | none =>
      have others : ∀ entry ∈ entries, entry.1 ≠ Switch.name .normaliseWhitespace := by
        intro entry member same
        have held := (sorted.mem_iff entry.1 entry.2).mp member
        rw [same, first] at held
        contradiction
      exact visits.of_second sorted.ascending others (sorted.mem_iff _) rfl
  | some value =>
      obtain ⟨before, after, rfl, smaller, greater⟩ :=
        Json.exists_split_of_mem sorted.ascending ((sorted.mem_iff _ value).mpr first)
      have less := Switch.name_lt_name
      have unknown : ∀ entry ∈ before, Switch.ofName? entry.1 = none := fun entry member =>
        Switch.ofName?_eq_none (smaller entry member).ne ((smaller entry member).trans less).ne
      have others : ∀ entry ∈ after, entry.1 ≠ Switch.name .normaliseWhitespace :=
        fun entry member => (greater entry member).ne'
      have mem_iff : ∀ found, (Switch.name .removeAllComments, found) ∈ after ↔
          Json.member? (Switch.name .removeAllComments) members = some found := by
        intro found
        rw [← sorted.mem_iff, List.mem_append, List.mem_cons]
        have notBefore : (Switch.name .removeAllComments, found) ∉ before := fun member =>
          lt_asymm less (smaller _ member)
        have notHere : (Switch.name .removeAllComments, found) ≠
            (Switch.name .normaliseWhitespace, value) := fun same =>
          less.ne' (congrArg Prod.fst same)
        simp only [notBefore, notHere, false_or]
      rw [visits.append unknown, visits.cons rfl]
      have ascending := (List.pairwise_append.mp sorted.ascending).2.1.tail
      exact bind_congr fun state => visits.of_second ascending others mem_iff rfl

end VisitsMembers

/-! ## Items -/

namespace VisitsItems

variable {visit : List Switch → Given → List Json →
    Except ConfigurationError (Configuration × List Json)} (visits : VisitsItems visit)
include visits

/-- The item of a switch is judged, and the rest is visited if it is right. -/
theorem cons (switch : Switch) (switches : List Switch) (given : Given) (value : Json)
    (items : List Json) :
    visit (switch :: switches) given (value :: items) =
      (Configuration.readSwitch switch (some value) >>= fun state =>
        visit switches (given.set switch state) items) := by
  by_cases right : value.IsBool
  · obtain ⟨state, rfl⟩ := right
    exact visits.bool switch switches given state items
  · rw [visits.notBoolean switch switches given value items right,
      Configuration.readSwitch_of_wrong switch right]
    rfl

/-- However the items of an array are visited, both switches are judged before its length. -/
theorem of_items (items : List Json) :
    (do
      let (configuration, rest) ← visit Switch.all {} items
      if rest.isEmpty then return configuration else throw (.tooManyItems items.length)) =
      Configuration.ofJson (.array items) := by
  match items with
  | [] =>
      rw [visits.nil]
      rfl
  | [first] =>
      rw [Switch.all, visits.cons, bind_assoc, Configuration.ofJson]
      refine bind_congr fun normalise => ?_
      rw [visits.nil]
      rfl
  | first :: second :: rest =>
      rw [Switch.all, visits.cons, bind_assoc, Configuration.ofJson]
      refine bind_congr fun normalise => ?_
      rw [visits.cons, bind_assoc]
      refine bind_congr fun remove => ?_
      rw [visits.done]
      cases rest with
      | nil => rfl
      | cons third rest => rfl

end VisitsItems

/-! ## Values -/

/-- A library that reads values as documented looks the switches up. -/
theorem Library.ReadsValues.ofJson_eq {library : Library} (reads : library.ReadsValues)
    (value : Json) : library.ofJson value = Configuration.ofJson value := by
  cases value with
  | object members =>
      obtain ⟨entries, sorted⟩ := Json.exists_entries members
      rw [reads.object members entries sorted, reads.members.of_entries sorted]
  | array items => rw [reads.array, reads.items.of_items]
  | _ => exact reads.other _ nofun nofun

end GCode
