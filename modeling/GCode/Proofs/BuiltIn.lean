import GCode.Proofs.Skipping
import GCode.Proofs.Visiting

/-!
# The built-in library

The library that the program runs with obeys the laws of libraries.  It visits entries and items as
derived code does, reads a text from one place to the next, and writes an object with a member for
each switch: `Library.builtIn_readsValues`, `Library.builtIn_readsTexts`, `Library.builtIn_writes`.
-/

namespace GCode

/-! ## Values -/

namespace Configuration

theorem visitsMembers : VisitsMembers visitMembers where
  nil _ := rfl
  unknown given name value rest other := by
    simp only [visitMembers, other]
  bool given switch state rest _ := by
    simp only [visitMembers, Switch.ofName?_name]
  notBoolean given switch value rest _ wrong := by
    cases value with
    | bool state => exact absurd ⟨state, rfl⟩ wrong
    | _ => simp only [visitMembers, Switch.ofName?_name]

theorem visitsItems : VisitsItems visitItems where
  nil switches given := by
    cases switches <;> rfl
  done given items := by
    cases items <;> rfl
  bool _ _ _ _ _ := rfl
  notBoolean switch switches given value items wrong := by
    cases value with
    | bool state => exact absurd ⟨state, rfl⟩ wrong
    | _ => rfl

end Configuration

/-- The built-in library reads values as documented. -/
theorem Library.builtIn_readsValues : builtIn.ReadsValues where
  members := Configuration.visitsMembers
  items := Configuration.visitsItems
  object _ _ sorted := (Configuration.visitsMembers.of_entries sorted).symm
  array items := (Configuration.visitsItems.of_items items).symm
  other value noObject noArray := by
    cases value with
    | object members => exact absurd rfl (noObject members)
    | array items => exact absurd rfl (noArray items)
    | _ => rfl

/-! ## Texts -/

namespace ConfigurationReader

open Json

variable {given : Given} {switch : Switch} {blanks : List Char}

theorem run_blank_member (blank : Blank blanks) (first : Bool) :
    run blanks ⟨.member first, given⟩ = .ok ⟨.member first, given⟩ :=
  run_blank blank fun character isBlank => by simp [step, stepMember, isBlank]

theorem run_blank_colon (blank : Blank blanks) (holds : Option Switch) :
    run blanks ⟨.colon holds, given⟩ = .ok ⟨.colon holds, given⟩ :=
  run_blank blank fun character isBlank => by simp [step, stepColon, isBlank]

theorem run_blank_next (blank : Blank blanks) :
    run blanks ⟨.next .object, given⟩ = .ok ⟨.next .object, given⟩ :=
  run_blank blank fun character isBlank => by simp [step, stepNext, isBlank]

theorem run_blank_done (blank : Blank blanks) :
    run blanks ⟨.done, given⟩ = .ok ⟨.done, given⟩ :=
  run_blank blank fun character isBlank => by simp [step, isBlank]

theorem step_name {quotation next : Quotation} {character : Char}
    (more : quotation.more? .strict character = some next) :
    step ⟨.name quotation, given⟩ character = .ok ⟨.name next, given⟩ := by
  have taken := Quotation.step_of_more? more
  simp [awaiting, step, stepName, taken]

theorem takeName_of_fresh {name : String} {phase : ConfigurationPhase}
    (fresh : ∀ switch, Switch.ofName? name = some switch → given.get switch = none) :
    takeName name ⟨phase, given⟩ = .ok ⟨.colon (Switch.ofName? name), given⟩ := by
  rw [takeName]
  cases known : Switch.ofName? name with
  | none => rfl
  | some switch =>
      have notGiven : ¬(given.get switch).isSome = true := by simp [fresh switch known]
      exact if_neg notGiven

theorem takeName_of_repeated {name : String} {phase : ConfigurationPhase}
    (known : Switch.ofName? name = some switch) (repeated : (given.get switch).isSome = true) :
    takeName name ⟨phase, given⟩ = .error .misshapen := by
  rw [takeName, known]
  exact if_pos repeated

/-- A quoted name is taken as the text that it spells. -/
theorem run_quotedName {quoted name : List Char} (blank : Blank blanks)
    (spells : Spells quoted name) (first : Bool) (rest : List Char) :
    run (blanks ++ '\"' :: (quoted ++ '\"' :: rest)) ⟨.member first, given⟩ =
      (takeName (String.ofList name) ⟨.name ⟨.plain, name.reverse ++ []⟩, given⟩ >>= run rest) := by
  have opened : step ⟨.member first, given⟩ '\"' = .ok ⟨.name {}, given⟩ := rfl
  have inside := run_of_foldlM (fun quotation => ConfigurationReader.mk (.name quotation) given)
    (fun _ _ _ => step_name) (Quotation.foldlM_spells spells [])
  have closed : step ⟨.name ⟨.plain, name.reverse ++ []⟩, given⟩ '\"' =
      takeName (String.ofList name) ⟨.name ⟨.plain, name.reverse ++ []⟩, given⟩ := by
    have text : Quotation.text ⟨.plain, name.reverse ++ []⟩ = String.ofList name := by
      simp [Quotation.text]
    rw [← text]
    rfl
  rw [run_append_of_ok (run_blank_member blank first), run_cons_of_ok opened,
    run_append_of_ok inside, run, List.foldlM_cons, closed]
  rfl

/-- The value of a member that holds no switch is skipped. -/
theorem run_ignored {between text : List Char} (blank : Blank between)
    (written : Written .element text) {next : Char} (follows : Follows next) (rest : List Char) :
    run (between ++ ':' :: (text ++ next :: rest)) ⟨.colon none, given⟩ =
      run (next :: rest) ⟨.next .object, given⟩ := by
  obtain ⟨value, leads⟩ := skips_of_written written ⟨.colon none, given⟩ []
  have colon : step ⟨.colon none, given⟩ ':' = .ok (skipping [] .value ⟨.colon none, given⟩) := rfl
  rw [run_append_of_ok (run_blank_colon blank none), run_cons_of_ok colon, leads next rest follows]
  rfl

/-- The word of a switch gives it a state. -/
theorem run_state {between left : List Char} (blankBetween : Blank between)
    (blankLeft : Blank left) (state : Bool) (rest : List Char) :
    run (between ++ ':' :: (left ++ (boolWord state ++ rest))) ⟨.colon (some switch), given⟩ =
      run rest ⟨.next .object, given.set switch state⟩ := by
  have colon : step ⟨.colon (some switch), given⟩ ':' = .ok ⟨.value switch, given⟩ := rfl
  have waits : run left ⟨.value switch, given⟩ = .ok ⟨.value switch, given⟩ :=
    run_blank blankLeft fun character isBlank => by simp [step, isBlank]
  have word : run (boolWord state) ⟨.value switch, given⟩ =
      .ok ⟨.next .object, given.set switch state⟩ := by
    cases state <;> rfl
  rw [run_append_of_ok (run_blank_colon blankBetween (some switch)), run_cons_of_ok colon,
    run_append_of_ok waits, run_append_of_ok word]

end ConfigurationReader

namespace Configuration

open ConfigurationReader

/-- Readers that come to the same read the same configuration. -/
theorem visitText_congr (place later : TextPlace) {given after : Given} {text rest : List Char}
    (same : run text ⟨place.phase, given⟩ = run rest ⟨later.phase, after⟩) :
    visitText place given text = visitText later after rest :=
  congrArg (· >>= finish) same

theorem visitText_of_done (place : TextPlace) {given after : Given} {text : List Char}
    (taken : run text ⟨place.phase, given⟩ = .ok ⟨.done, after⟩) :
    visitText place given text = .ok after.configuration :=
  congrArg (· >>= finish) taken

theorem visitText_of_error (place : TextPlace) {given : Given} {text : List Char}
    {fault : ConfigurationFault} (failed : run text ⟨place.phase, given⟩ = .error fault) :
    visitText place given text = .error fault :=
  congrArg (· >>= finish) failed

end Configuration

open Json ConfigurationReader GCode.Configuration in
/-- The built-in library reads texts as documented. -/
theorem Library.builtIn_readsTexts : builtIn.ReadsTexts where
  ofText _ := rfl
  opening blanks rest blank := by
    have stays : run blanks {} = .ok {} :=
      run_blank blank fun character isBlank => by simp [step, stepStart, isBlank]
    have opened : step {} '\x7b' = .ok ⟨.member true, {}⟩ := rfl
    refine visitText_congr .start (.member true) ?_
    exact (run_append_of_ok stays _).trans (run_cons_of_ok opened rest)
  name given first blanks quoted name rest blank spells fresh := by
    refine visitText_congr (.member first) (.value _) ?_
    refine (run_quotedName blank spells first rest).trans ?_
    rw [takeName_of_fresh fresh]
    rfl
  repeated given first blanks quoted name rest switch blank spells known repeated := by
    refine visitText_of_error (.member first) ((run_quotedName blank spells first rest).trans ?_)
    rw [takeName_of_repeated known repeated]
    rfl
  ignored given between text next rest blank written follows :=
    visitText_congr (.value none) .next (run_ignored blank written follows rest)
  boolean given switch between left state rest blankBetween blankLeft :=
    visitText_congr (.value (some switch)) .next
      (run_state blankBetween blankLeft state rest)
  comma given blanks rest blank := by
    have comma : step ⟨.next .object, given⟩ ',' = .ok ⟨.member false, given⟩ := rfl
    refine visitText_congr .next (.member false) ?_
    exact (run_append_of_ok (run_blank_next blank) _).trans (run_cons_of_ok comma rest)
  closing given before after blankBefore blankAfter := by
    have closed : step ⟨.next .object, given⟩ '\x7d' = .ok ⟨.done, given⟩ := rfl
    refine visitText_of_done .next ?_
    exact (run_append_of_ok (run_blank_next blankBefore) _).trans
      ((run_cons_of_ok closed after).trans (run_blank_done blankAfter))
  empty given before after blankBefore blankAfter := by
    have closed : step ⟨.member true, given⟩ '\x7d' = .ok ⟨.done, given⟩ := rfl
    refine visitText_of_done (.member true) ?_
    exact (run_append_of_ok (run_blank_member blankBefore true) _).trans
      ((run_cons_of_ok closed after).trans (run_blank_done blankAfter))

/-! ## Writing -/

open Json

/-- The text of a member is written as its name and its word. -/
theorem memberText_compactMember (switch : Switch) (state : Bool) :
    MemberText (compactMember (switch.name, .bool state)).toList
      (switch.name, boolWord state) := by
  have plain : Spells switch.name.toList switch.name.toList := by
    cases switch <;> exact spells_of_isPlain (by decide)
  have word : Written .value (boolWord state) := by
    cases state <;> exact .word (by decide)
  have quoted : switch.name.toList.flatMap escaped = switch.name.toList := by
    cases switch <;> rfl
  have compacted : (compact (.bool state)).toList = boolWord state := by
    cases state <;> rw [compact] <;> rfl
  have member := MemberText.intro blank_nil plain blank_nil blank_nil word blank_nil
  simpa [compactMember, compactString, quoted, compacted] using member

/-- The built-in library writes configurations as documented. -/
theorem Library.builtIn_writes : builtIn.Writes where
  toJson _ := rfl
  toText configuration := by
    have text : builtIn.toText configuration =
        "\x7b" ++ (compactMember (Switch.name .normaliseWhitespace,
            .bool (configuration.get .normaliseWhitespace)) ++ "," ++
          compactMember (Switch.name .removeAllComments,
            .bool (configuration.get .removeAllComments))) ++ "\x7d" := by
      simp only [builtIn, Configuration.toText, Configuration.toJson, compact, compactMembers]
      rfl
    have normalise := memberText_compactMember .normaliseWhitespace
      (configuration.get .normaliseWhitespace)
    have remove := memberText_compactMember .removeAllComments
      (configuration.get .removeAllComments)
    have object := ObjectText.members blank_nil (.more normalise (.one remove)) blank_nil
    rw [text]
    simpa [Switch.all] using object

end GCode
