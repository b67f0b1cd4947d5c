import GCode.Proofs.Words

/-!
# Building instructions

An instruction is built from its tokens exactly if each has the kind that its place wants.
Otherwise the error is about the first token that has not: `Instruction.build_outcome`.
-/

namespace GCode
namespace Instruction

/-- At a position stands the first token of the wrong kind, where `wants` gives the kind that each
position wants. -/
structure FirstMisplaced (wants : Nat → TokenKind) (tokens : List Token) (position : Nat)
    (expected found : TokenKind) : Prop where
  /-- The kind that was expected is the one that the position wants. -/
  expected_eq : expected = wants position
  /-- The kind that was found is the one of the token there. -/
  found_eq : tokens[position]?.map Token.kind = some found
  /-- The token is out of place. -/
  differ : expected ≠ found
  /-- All tokens before it are in their places. -/
  least : ∀ earlier < position, tokens[earlier]?.map Token.kind = some (wants earlier)

section FirstMisplaced

variable {wants : Nat → TokenKind} {token : Token} {rest : List Token} {position : Nat}
  {expected found : TokenKind}

/-- Behind a token in its place, the search goes on. -/
theorem firstMisplaced_cons_of_right (right : token.kind = wants 0) :
    FirstMisplaced wants (token :: rest) position expected found ↔
      ∃ later, position = later + 1 ∧
        FirstMisplaced (fun index => wants (index + 1)) rest later expected found := by
  constructor
  · intro first
    cases position with
    | zero =>
        have same : token.kind = found := Option.some.inj first.found_eq
        exact absurd (first.expected_eq.trans (right.symm.trans same)) first.differ
    | succ later =>
        have least : ∀ earlier < later,
            rest[earlier]?.map Token.kind = some (wants (earlier + 1)) :=
          fun earlier before => first.least (earlier + 1) (Nat.succ_lt_succ before)
        exact ⟨later, rfl, first.expected_eq, first.found_eq, first.differ, least⟩
  · rintro ⟨later, rfl, first⟩
    refine ⟨first.expected_eq, first.found_eq, first.differ, fun earlier before => ?_⟩
    cases earlier with
    | zero => exact congrArg some right
    | succ earlier => exact first.least earlier (Nat.lt_of_succ_lt_succ before)

/-- At a token out of its place, the search ends. -/
theorem firstMisplaced_cons_of_wrong (wrong : token.kind ≠ wants 0) :
    FirstMisplaced wants (token :: rest) position expected found ↔
      position = 0 ∧ expected = wants 0 ∧ found = token.kind := by
  constructor
  · intro first
    cases position with
    | zero => exact ⟨rfl, first.expected_eq, (Option.some.inj first.found_eq).symm⟩
    | succ later => exact absurd (Option.some.inj (first.least 0 (Nat.succ_pos later))) wrong
  · rintro ⟨rfl, rfl, rfl⟩
    exact ⟨rfl, rfl, wrong.symm, fun earlier before => absurd before (Nat.not_lt_zero earlier)⟩

end FirstMisplaced

/-- The search through the arguments finds the first token that is none. -/
theorem find?_zipIdx_eq_some_iff {arguments : List Token} {argument : Token} {index : Nat} :
    (arguments.zipIdx.find? fun entry => entry.1.kind ≠ .argument) = some (argument, index) ↔
      arguments[index]? = some argument ∧
        FirstMisplaced (fun _ => .argument) arguments index .argument argument.kind := by
  simp only [List.find?_eq_some_iff_getElem, List.getElem_zipIdx, List.length_zipIdx,
    Prod.mk.injEq, Nat.zero_add, Bool.not_eq_true', decide_eq_true_eq, decide_eq_false_iff_not,
    not_not]
  constructor
  · rintro ⟨differ, place, within, ⟨rfl, rfl⟩, least⟩
    refine ⟨List.getElem?_eq_getElem within, rfl, ?_, Ne.symm differ, fun earlier before => ?_⟩
    · rw [List.getElem?_eq_getElem within, Option.map_some]
    · rw [List.getElem?_eq_getElem (Nat.lt_trans before within), Option.map_some,
        least earlier before]
  · rintro ⟨found, first⟩
    obtain ⟨within, rfl⟩ := List.getElem?_eq_some_iff.mp found
    refine ⟨Ne.symm first.differ, index, within, ⟨rfl, rfl⟩, fun earlier before => ?_⟩
    have right := first.least earlier before
    rw [List.getElem?_eq_getElem (Nat.lt_trans before within), Option.map_some] at right
    exact Option.some.inj right

theorem find?_zipIdx_eq_none_iff {arguments : List Token} :
    (arguments.zipIdx.find? fun entry => entry.1.kind ≠ .argument) = none ↔
      ∀ argument ∈ arguments, argument.kind = .argument := by
  rw [List.find?_eq_none]
  constructor
  · intro none argument member
    obtain ⟨place, found⟩ := List.mem_iff_getElem?.mp member
    simpa using none (argument, place) (List.mk_mem_zipIdx_iff_getElem?.mpr found)
  · intro right entry member
    simpa using right entry.1 (List.fst_mem_of_mem_zipIdx member)

theorem build_eq_ok_iff {command : Token} {arguments : List Token} {content : Instruction} :
    build command arguments = .ok content ↔
      WellKinded ⟨command, arguments⟩ ∧ content = ⟨command, arguments⟩ := by
  rw [build, WellKinded, ← find?_zipIdx_eq_none_iff]
  split
  · rename_i wrong
    exact iff_of_false (by simp) fun right => wrong right.1.1
  · rename_i right
    cases arguments.zipIdx.find? fun entry => entry.1.kind ≠ .argument <;>
      simp [not_not.mp right, eq_comm]

theorem wellKinded_of_build_eq_ok {command : Token} {arguments : List Token}
    {content : Instruction} (built : build command arguments = .ok content) :
    content.WellKinded := by
  obtain ⟨wellKinded, rfl⟩ := build_eq_ok_iff.mp built
  exact wellKinded

theorem WellKinded.build_eq_ok {content : Instruction} (wellKinded : content.WellKinded) :
    build content.command content.arguments = .ok content :=
  build_eq_ok_iff.mpr ⟨wellKinded, rfl⟩

theorem build_eq_error_iff_of_ne {command : Token} {arguments : List Token} {error : BuildError}
    (wrong : command.kind ≠ .command) :
    build command arguments = .error error ↔ error = .misplacedToken 0 .command command.kind := by
  rw [build, if_pos wrong, Except.error.injEq, eq_comm]

theorem build_eq_error_iff_of_eq {command : Token} {arguments : List Token} {error : BuildError}
    (right : command.kind = .command) :
    build command arguments = .error error ↔ ∃ argument index,
      (arguments.zipIdx.find? fun entry => entry.1.kind ≠ .argument) = some (argument, index) ∧
        error = .misplacedToken (index + 1) .argument argument.kind := by
  rw [build, if_neg (not_not.mpr right)]
  cases arguments.zipIdx.find? fun entry => entry.1.kind ≠ .argument with
  | none => simp
  | some entry =>
      obtain ⟨argument, index⟩ := entry
      simp [eq_comm]

/-- Building succeeds exactly if a command stands first and only arguments follow, and then the
tokens are those that were given.  It fails exactly with the error about the first token of the
wrong kind, with its position, the kind expected there and the other kind that was found. -/
theorem build_outcome (command : Token) (arguments : List Token) :
    (∀ content, build command arguments = .ok content ↔
        command.kind = .command ∧ (∀ argument ∈ arguments, argument.kind = .argument) ∧
          content.tokens = command :: arguments) ∧
      ∀ error, build command arguments = .error error ↔
        ∃ position expected found, error = .misplacedToken position expected found ∧
          FirstMisplaced (fun index => if index = 0 then .command else .argument)
            (command :: arguments) position expected found := by
  constructor
  · intro content
    have given : content = ⟨command, arguments⟩ ↔ content.tokens = command :: arguments :=
      ⟨congrArg tokens, fun same => tokens_injective same⟩
    rw [build_eq_ok_iff, given, WellKinded, and_assoc]
  · intro error
    by_cases right : command.kind = .command
    · rw [build_eq_error_iff_of_eq right]
      constructor
      · rintro ⟨argument, index, found, rfl⟩
        have first := (find?_zipIdx_eq_some_iff.mp found).2
        exact ⟨_, _, _, rfl, (firstMisplaced_cons_of_right right).mpr ⟨index, rfl, first⟩⟩
      · rintro ⟨position, expected, found, rfl, first⟩
        obtain ⟨index, rfl, behind⟩ := (firstMisplaced_cons_of_right right).mp first
        obtain ⟨argument, stands, rfl⟩ := Option.map_eq_some_iff.mp behind.found_eq
        obtain rfl : expected = .argument := behind.expected_eq
        exact ⟨argument, index, find?_zipIdx_eq_some_iff.mpr ⟨stands, behind⟩, rfl⟩
    · rw [build_eq_error_iff_of_ne right]
      constructor
      · rintro rfl
        exact ⟨0, _, _, rfl, (firstMisplaced_cons_of_wrong right).mpr ⟨rfl, rfl, rfl⟩⟩
      · rintro ⟨position, expected, found, rfl, first⟩
        obtain ⟨rfl, rfl, rfl⟩ := (firstMisplaced_cons_of_wrong right).mp first
        rfl

end Instruction
end GCode
