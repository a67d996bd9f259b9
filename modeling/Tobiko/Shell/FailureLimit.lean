import Tobiko.Foundation.Json

/-!
Contract: the check that logs of JSON lines hold no more failures than a limit allows.

Owns: the collection of the failed lines of a log, the comparison of their number with the limit, the
message of a failure, and exactly when a list of logs fails because the limit is exceeded.

Does not own: what a failed line is, and the files the logs are read from.
-/

namespace Tobiko.Shell

open Tobiko.Foundation

inductive LogError where
  | jsonDecodeError
  | access (error : Json.AccessError)
  | indexError
  /-- `tobiko.fail`: the failures, and what the last one names. -/
  | failure (count : Nat) (name : Json)
  /-- `tobiko.fail`: No ping log files found. -/
  | noLogFiles
  deriving DecidableEq

/-- Adds the line to the failures where it is one. -/
abbrev LineCheck : Type := List Json → Text → Except LogError (List Json)

/-- The check of one log: its lines, their failures, and what the message says of the last one. -/
def checkLog (checkLine : LineCheck) (nameKey : Text) (failureLimit : Int) (lines : List Text) :
    Except LogError Unit := do
  let failures ← lines.foldlM checkLine []
  if failureLimit ≤ failures.length then
    match failures.getLast? with
    | none => .error .indexError
    | some last =>
        let name ← last.getItem .access nameKey
        .error (.failure failures.length name)
  else .ok ()

/-! ### What a log that is well formed amounts to -/

section Entries

variable {checkLine : LineCheck} {nameKey : Text}

/-- A line of which the check knows whether it failed, with a name where it did. -/
def Entry (checkLine : LineCheck) (nameKey : Text) (line : Text) (failed : Bool) : Prop :=
  ∃ value, (∀ failures, checkLine failures line =
      .ok (if failed then failures ++ [value] else failures)) ∧
    ∃ name, value.getItem LogError.access nameKey = .ok name

/-- The lines of a log, of which so many failed. -/
def Logged (checkLine : LineCheck) (nameKey : Text) (lines : List Text) (count : Nat) : Prop :=
  ∃ failed, List.Forall₂ (Entry checkLine nameKey) lines failed ∧ failed.count true = count

theorem foldlM_entries {lines : List Text} {failed : List Bool}
    (entries : List.Forall₂ (Entry checkLine nameKey) lines failed) (failures : List Json) :
    ∃ others, lines.foldlM checkLine failures = .ok (failures ++ others) ∧
      others.length = failed.count true ∧
      ∀ value ∈ others, ∃ name, value.getItem LogError.access nameKey = .ok name := by
  induction entries generalizing failures with
  | nil => exact ⟨[], by rw [List.append_nil]; rfl, rfl, fun _ member => (by cases member)⟩
  | @cons line isFailed lines failed entry _ inductionHypothesis =>
      obtain ⟨value, checked, named⟩ := entry
      rw [List.foldlM_cons, checked]
      cases isFailed with
      | false =>
          obtain ⟨others, folded, length, allNamed⟩ := inductionHypothesis failures
          refine ⟨others, folded, ?_, allNamed⟩
          rw [length, List.count_cons_of_ne (by decide)]
      | true =>
          obtain ⟨others, folded, length, allNamed⟩ := inductionHypothesis (failures ++ [value])
          refine ⟨value :: others, ?_, ?_, ?_⟩
          · change List.foldlM checkLine (failures ++ [value]) lines = _
            rw [folded, List.append_assoc, List.singleton_append]
          · rw [List.length_cons, length, List.count_cons_self]
          · intro other member
            rcases List.mem_cons.mp member with rfl | member
            · exact named
            · exact allNamed other member

/-- **A log fails from the limit on; the message of no failures is an `IndexError`.** -/
theorem checkLog_logged {failureLimit : Int} {lines : List Text} {count : Nat}
    (logged : Logged checkLine nameKey lines count) :
    (count < failureLimit → checkLog checkLine nameKey failureLimit lines = .ok ()) ∧
      (failureLimit ≤ count → count = 0 →
        checkLog checkLine nameKey failureLimit lines = .error .indexError) ∧
      (failureLimit ≤ count → count ≠ 0 →
        ∃ name, checkLog checkLine nameKey failureLimit lines = .error (.failure count name)) := by
  obtain ⟨failed, entries, rfl⟩ := logged
  obtain ⟨failures, folded, length, allNamed⟩ := foldlM_entries entries []
  rw [List.nil_append] at folded
  unfold checkLog
  rw [folded, ← length]
  dsimp only [bind, Except.bind]
  refine ⟨fun below => ?_, fun reached none_ => ?_, fun reached some_ => ?_⟩
  · rw [if_neg (not_le.mpr below)]
  · rw [if_pos reached, List.length_eq_zero_iff.mp none_]
    rfl
  · rw [if_pos reached]
    obtain ⟨last, isLast⟩ : ∃ last, failures.getLast? = some last := by
      have nonempty : failures ≠ [] := fun empty => some_ (by rw [empty]; rfl)
      exact ⟨_, List.getLast?_eq_some_getLast nonempty⟩
    obtain ⟨name, named⟩ := allNamed last (List.mem_of_getLast? isLast)
    rw [isLast]
    dsimp only
    rw [named]
    exact ⟨name, rfl⟩

end Entries

/-! ### A list of logs -/

def checkLogs {Log : Type} (check : Log → Except LogError Unit) : List Log → Except LogError Unit
  | [] => .ok ()
  | log :: logs => do
      check log
      checkLogs check logs

/-- Fails the test if and only if some log has more failures than the limit allows, and raises
nothing else. -/
structure FailsAbove (failureLimit : Int) (counts : List Nat) (result : Except LogError Unit) :
    Prop where
  fails : (∃ count name, result = .error (.failure count name)) ↔
    ∃ count ∈ counts, failureLimit < count
  nothingElse : ∀ error, result = .error error → ∃ count name, error = .failure count name

/-- No log has exactly as many failures as the limit allows, unless the test fails for a log that has
more: for a limit of zero that is the first one. -/
def BoundaryFree (failureLimit : Int) (counts : List Nat) : Prop :=
  (∀ count ∈ counts, (count : Int) ≠ failureLimit) ∨
    (0 < failureLimit ∧ ∃ count ∈ counts, failureLimit < count) ∨
    (failureLimit = 0 ∧ ∃ count, counts.head? = some count ∧ 0 < count)

section Logs

variable {Log : Type} {check : Log → Except LogError Unit} {failureLimit : Int}

/-- What `checkLog_logged` says of each log. -/
structure Limited (check : Log → Except LogError Unit) (failureLimit : Int) (log : Log)
    (count : Nat) : Prop where
  passes : count < failureLimit → check log = .ok ()
  raises : failureLimit ≤ count → count = 0 → check log = .error .indexError
  fails : failureLimit ≤ count → count ≠ 0 → ∃ name, check log = .error (.failure count name)

/-- The first log at or above the limit decides. -/
theorem checkLogs_cases {logs : List Log} {counts : List Nat}
    (limited : List.Forall₂ (Limited check failureLimit) logs counts) :
    ((∀ count ∈ counts, (count : Int) < failureLimit) ∧ checkLogs check logs = .ok ()) ∨
      (∃ count ∈ counts, failureLimit ≤ count ∧ count ≠ 0 ∧
        (0 < failureLimit ∨ counts.head? = some count) ∧
        ∃ name, checkLogs check logs = .error (.failure count name)) ∨
      (failureLimit ≤ 0 ∧ counts.head? = some 0 ∧ checkLogs check logs = .error .indexError) := by
  induction limited with
  | nil => exact .inl ⟨fun _ member => (by cases member), rfl⟩
  | @cons log count logs counts first _ inductionHypothesis =>
      unfold checkLogs
      by_cases below : (count : Int) < failureLimit
      · have positive : 0 < failureLimit := lt_of_le_of_lt (Int.natCast_nonneg count) below
        rw [first.passes below]
        rcases inductionHypothesis with ⟨allBelow, passed⟩ | ⟨other, member, reached, some_, -,
          failed⟩ | ⟨notPositive, -⟩
        · exact .inl ⟨List.forall_mem_cons.mpr ⟨below, allBelow⟩, passed⟩
        · exact .inr (.inl ⟨other, List.mem_cons_of_mem _ member, reached, some_, .inl positive,
            failed⟩)
        · omega
      · have reached := not_lt.mp below
        by_cases none_ : count = 0
        · subst none_
          rw [first.raises reached rfl]
          exact .inr (.inr ⟨reached, rfl, rfl⟩)
        · obtain ⟨name, failed⟩ := first.fails reached none_
          rw [failed]
          exact .inr (.inl ⟨count, List.mem_cons_self, reached, none_, .inr rfl, name, rfl⟩)

/-- **When a check of logs is the comparison with the limit that it means to be.** -/
theorem failsAbove_iff {logs : List Log} {counts : List Nat} (nonneg : 0 ≤ failureLimit)
    (limited : List.Forall₂ (Limited check failureLimit) logs counts) :
    FailsAbove failureLimit counts (checkLogs check logs) ↔ BoundaryFree failureLimit counts := by
  rcases checkLogs_cases limited with ⟨allBelow, passed⟩ | ⟨count, member, reached, some_, first,
    name, failed⟩ | ⟨notPositive, isFirst, raised⟩
  · rw [passed]
    refine ⟨fun _ => .inl fun count member => (allBelow count member).ne, fun _ => ⟨?_, ?_⟩⟩
    · refine ⟨fun ⟨_, _, failed⟩ => (by cases failed), fun ⟨count, member, above⟩ => ?_⟩
      exact absurd (allBelow count member) (not_lt.mpr above.le)
    · intro error raised
      cases raised
  · rw [failed]
    constructor
    · intro above
      obtain ⟨other, otherMember, exceeds⟩ := above.fails.mp ⟨count, name, rfl⟩
      rcases first with positive | isFirst
      · exact .inr (.inl ⟨positive, other, otherMember, exceeds⟩)
      · rcases nonneg.eq_or_lt with zero | positive
        · exact .inr (.inr ⟨zero.symm, count, isFirst, Nat.pos_of_ne_zero some_⟩)
        · exact .inr (.inl ⟨positive, other, otherMember, exceeds⟩)
    · intro free
      refine ⟨⟨fun _ => ?_, fun _ => ⟨count, name, rfl⟩⟩, fun error raised => ?_⟩
      · rcases free with noneEqual | ⟨-, other⟩ | ⟨zero, other, isFirst, positive⟩
        · exact ⟨count, member, lt_of_le_of_ne reached (noneEqual count member).symm⟩
        · exact other
        · refine ⟨other, List.mem_of_mem_head? isFirst, ?_⟩
          rw [zero]
          exact_mod_cast positive
      · cases raised
        exact ⟨count, name, rfl⟩
  · rw [raised]
    constructor
    · intro above
      obtain ⟨_, _, same⟩ := above.nothingElse _ rfl
      cases same
    · intro free
      exfalso
      rcases free with noneEqual | ⟨positive, -⟩ | ⟨-, other, isOther, positive⟩
      · exact noneEqual 0 (List.mem_of_mem_head? isFirst) (by
          rw [Nat.cast_zero]
          exact le_antisymm nonneg notPositive)
      · omega
      · rw [isFirst] at isOther
        cases isOther
        exact absurd positive (lt_irrefl _)

end Logs

end Tobiko.Shell
