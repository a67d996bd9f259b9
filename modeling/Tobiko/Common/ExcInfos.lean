import Tobiko.Foundation.FirstOccurrences
import Tobiko.Foundation.Worklist

/-!
Contract: exceptions that are collected in `testtools.MultipleExceptions`.

Owns: the equality of exceptions, `list_exc_infos`, `handle_multiple_exceptions`, and when
they lose a leaf of the tree of exceptions.

Does not own: the messages that are logged, and the formatting of an exception's message.
-/

namespace Tobiko.Common.ExcInfos

open Tobiko.Foundation

/-! ### Exception objects -/

/-- What `sys.exc_info()` returns while an exception is handled. -/
structure ExcInfo (Class Object Traceback : Type) where
  type : Class
  value : Object
  traceback : Traceback
  deriving DecidableEq

/-- The exception objects of a program. A `MultipleExceptions` refers to objects that were
created before it, and its class does not derive from `TobikoException`. -/
structure Exceptions (Class Object Traceback : Type) where
  type : Object → Class
  isTobiko : Class → Bool
  str : Object → String
  /-- `args` of the instances of `testtools.MultipleExceptions` -/
  multipleArgs : Object → Option (List (ExcInfo Class Object Traceback))
  created : Object → Nat
  args_created : ∀ object args, multipleArgs object = some args →
    ∀ info ∈ args, created info.value < created object
  multiple_plain : ∀ object args, multipleArgs object = some args →
    isTobiko (type object) = false

/-- What the equality and the hash of exceptions see of them. -/
inductive ExcKey (Class Object : Type) where
  | object (object : Object)
  | text (type : Class) (str : String)
  deriving DecidableEq

/-- How a call of `handle_exception` ends: it may raise a subclass of `Exception`, or
anything else. -/
inductive HandlerEnd (Class Object Traceback : Type) where
  | returns
  | raisesException (info : ExcInfo Class Object Traceback)
  | raisesOther (info : ExcInfo Class Object Traceback)
  deriving DecidableEq

/-- `handle_exception`, which may remember the calls before. -/
abbrev Handler (Class Object Traceback : Type) :=
  List (ExcInfo Class Object Traceback) → ExcInfo Class Object Traceback →
    HandlerEnd Class Object Traceback

/-- How the block `with handle_multiple_exceptions(...)` ends. -/
inductive BlockEnd (Class Object Traceback : Type) where
  | returns
  | reraises (info : ExcInfo Class Object Traceback)
  | handlerRaises (info : ExcInfo Class Object Traceback)
  deriving DecidableEq

structure Handled (Class Object Traceback : Type) where
  calls : List (ExcInfo Class Object Traceback)
  ended : BlockEnd Class Object Traceback
  deriving DecidableEq

section Exceptions

variable {Class Object Traceback : Type} [DecidableEq Class] [DecidableEq Object]

namespace Exceptions

variable (exceptions : Exceptions Class Object Traceback)

/-- `one == two`, which `TobikoException.__eq__` redefines -/
def eq (one two : Object) : Bool :=
  if exceptions.isTobiko (exceptions.type one) then
    decide (exceptions.type one = exceptions.type two) &&
      decide (exceptions.str one = exceptions.str two)
  else decide (one = two)

/-- The key of an object in a set, after `TobikoException.__hash__`. -/
def key (object : Object) : ExcKey Class Object :=
  if exceptions.isTobiko (exceptions.type object) then
    .text (exceptions.type object) (exceptions.str object)
  else .object object

omit [DecidableEq Class] [DecidableEq Object] in
theorem key_multiple {object : Object} {args : List (ExcInfo Class Object Traceback)}
    (multiple : exceptions.multipleArgs object = some args) :
    exceptions.key object = .object object := by
  have plain := exceptions.multiple_plain object args multiple
  unfold key
  rw [plain]
  rfl

theorem eq_iff_key {one two : Object} :
    exceptions.eq one two = true ↔ exceptions.key one = exceptions.key two := by
  unfold eq key
  cases oneTobiko : exceptions.isTobiko (exceptions.type one) with
  | true =>
      cases twoTobiko : exceptions.isTobiko (exceptions.type two) with
      | true => simp
      | false =>
          have apart : exceptions.type one ≠ exceptions.type two := by
            intro same
            rw [same, twoTobiko] at oneTobiko
            cases oneTobiko
          simp [apart]
  | false =>
      cases twoTobiko : exceptions.isTobiko (exceptions.type two) with
      | true =>
          have apart : one ≠ two := by
            intro same
            rw [same, twoTobiko] at oneTobiko
            cases oneTobiko
          simp [apart]
      | false => simp

/-! ### The functions -/

/-- One turn of the loop of `list_exc_infos`: what it pushes, and its result. -/
def visit (result : List (ExcInfo Class Object Traceback)) (_key : ExcKey Class Object)
    (info : ExcInfo Class Object Traceback) :
    List (ExcInfo Class Object Traceback) × List (ExcInfo Class Object Traceback) :=
  match exceptions.multipleArgs info.value with
  | some args => (args.reverse, result)
  | none => ([], result ++ [info])

def resolve (info : ExcInfo Class Object Traceback) :
    Option (ExcKey Class Object × ExcInfo Class Object Traceback) :=
  some (exceptions.key info.value, info)

/-- `list_exc_infos(exc_info)`, where `none` is what is false as an `ExceptionInfo`. -/
def listExcInfos (fuel : Nat)
    (excInfo sysExcInfo : Option (ExcInfo Class Object Traceback)) :
    Option (List (ExcInfo Class Object Traceback)) :=
  match excInfo.or sysExcInfo with
  | none => some []
  | some info => workThrough exceptions.resolve exceptions.visit fuel [info] [] []

end Exceptions

/-- `for info in exc_infos[1:]: ...` of `handle_multiple_exceptions`, with the calls that are
made and what escapes from them. -/
def handleOthers (handle : Handler Class Object Traceback) :
    List (ExcInfo Class Object Traceback) → List (ExcInfo Class Object Traceback) →
      List (ExcInfo Class Object Traceback) × Option (ExcInfo Class Object Traceback)
  | calls, [] => (calls, none)
  | calls, info :: infos =>
      match handle calls info with
      | .returns => handleOthers handle (calls ++ [info]) infos
      | .raisesException _ => handleOthers handle (calls ++ [info]) infos
      | .raisesOther other => (calls ++ [info], some other)

/-- What follows once `list_exc_infos()` has returned. -/
def handleExcInfos (handle : Handler Class Object Traceback) :
    List (ExcInfo Class Object Traceback) → Handled Class Object Traceback
  | [] => ⟨[], .returns⟩
  | first :: infos =>
      match handleOthers handle [] infos with
      | (calls, none) => ⟨calls, .reraises first⟩
      | (calls, some other) => ⟨calls, .handlerRaises other⟩

/-- The block `with handle_multiple_exceptions(handle_exception): ...` whose body returns or
raises. -/
def handleMultipleExceptions (exceptions : Exceptions Class Object Traceback) (fuel : Nat)
    (handle : Handler Class Object Traceback) :
    Option (ExcInfo Class Object Traceback) → Option (Handled Class Object Traceback)
  | none => some ⟨[], .returns⟩
  | some info =>
      match exceptions.multipleArgs info.value with
      | none => some ⟨[], .reraises info⟩
      | some _ => (exceptions.listExcInfos fuel none (some info)).map (handleExcInfos handle)

end Exceptions

/-! ### The leaves of a tree -/

section Leaves

variable {Class Object Traceback : Type}

namespace Exceptions

variable (exceptions : Exceptions Class Object Traceback)

/-- The leaves from left to right, each as often as it occurs. -/
def leaves (info : ExcInfo Class Object Traceback) : List (ExcInfo Class Object Traceback) :=
  match _ : exceptions.multipleArgs info.value with
  | none => [info]
  | some args => args.attach.flatMap fun arg => leaves arg.1
termination_by exceptions.created info.value
decreasing_by exact exceptions.args_created info.value args ‹_› arg.1 arg.2

theorem leaves_leaf {info : ExcInfo Class Object Traceback}
    (leaf : exceptions.multipleArgs info.value = none) : exceptions.leaves info = [info] := by
  rw [leaves]
  split
  · rfl
  · rename_i args multiple
    rw [leaf] at multiple
    cases multiple

theorem leaves_multiple {info : ExcInfo Class Object Traceback}
    {args : List (ExcInfo Class Object Traceback)}
    (multiple : exceptions.multipleArgs info.value = some args) :
    exceptions.leaves info = args.flatMap exceptions.leaves := by
  rw [leaves]
  split
  · rename_i leaf
    rw [leaf] at multiple
    cases multiple
  · rename_i found same
    rw [multiple] at same
    cases same
    rw [← List.flatMap_map, List.attach_map_subtype_val]

/-- Every distinct leaf object once, in the order of first occurrence. -/
def distinctLeaves [DecidableEq Object] (info : ExcInfo Class Object Traceback) :
    List (ExcInfo Class Object Traceback) :=
  firstOccurrences ExcInfo.value (exceptions.leaves info)

end Exceptions

end Leaves

/-! ### The course of `list_exc_infos` -/

section Listing

variable {Class Object Traceback : Type} [DecidableEq Class] [DecidableEq Object]
  (exceptions : Exceptions Class Object Traceback)

/-- The leaves of the visited objects that are older than `bound` have been visited too. -/
def Closed (bound : Nat) (visited : List (ExcKey Class Object)) : Prop :=
  ∀ info args, exceptions.multipleArgs info.value = some args →
    exceptions.created info.value < bound → exceptions.key info.value ∈ visited →
      ∀ leaf ∈ exceptions.leaves info, exceptions.key leaf.value ∈ visited

/-- What emptying the stack of `items` does, if only objects older than `bound` are on it:
the leaves have been visited, and of other objects only older ones. -/
structure Visits (bound : Nat) (items : List (ExcInfo Class Object Traceback))
    (visited after : List (ExcKey Class Object)) : Prop where
  closed : Closed exceptions bound after
  leaf_iff : ∀ leaf, exceptions.multipleArgs leaf = none →
    (exceptions.key leaf ∈ after ↔ exceptions.key leaf ∈ visited ∨
      exceptions.key leaf ∈ (items.flatMap exceptions.leaves).map
        fun info => exceptions.key info.value)
  multiple_old : ∀ multiple args, exceptions.multipleArgs multiple = some args →
    exceptions.key multiple ∈ after →
      exceptions.key multiple ∈ visited ∨ exceptions.created multiple < bound

/-- The loop gets past `items`, whatever is below them on the stack. -/
def GetsPast (bound : Nat) (items : List (ExcInfo Class Object Traceback))
    (visited : List (ExcKey Class Object)) : Prop :=
  ∃ after, Visits exceptions bound items visited after ∧
    ∀ result below visits last,
      WorksThrough exceptions.resolve exceptions.visit below after
        (result ++ unseen (fun info => exceptions.key info.value) visited
          (items.flatMap exceptions.leaves)) visits last →
      ∃ all, WorksThrough exceptions.resolve exceptions.visit (items ++ below) visited result
        all last

variable {exceptions} {bound : Nat} {info : ExcInfo Class Object Traceback}
  {items : List (ExcInfo Class Object Traceback)} {visited : List (ExcKey Class Object)}

omit [DecidableEq Class] [DecidableEq Object] in
theorem leaf_of_mem_leaves {leaf : ExcInfo Class Object Traceback}
    (member : leaf ∈ exceptions.leaves info) : exceptions.multipleArgs leaf.value = none := by
  induction age : exceptions.created info.value using Nat.strong_induction_on generalizing info with
  | _ age inductionHypothesis =>
      cases multiple : exceptions.multipleArgs info.value with
      | none =>
          rw [exceptions.leaves_leaf multiple, List.mem_singleton] at member
          rw [member]
          exact multiple
      | some args =>
          rw [exceptions.leaves_multiple multiple] at member
          obtain ⟨arg, argIn, inArg⟩ := List.mem_flatMap.mp member
          have older := exceptions.args_created info.value args multiple arg argIn
          rw [age] at older
          exact inductionHypothesis _ older inArg rfl

omit [DecidableEq Class] [DecidableEq Object] in
theorem visits_again (closed : Closed exceptions bound visited)
    (before : ∀ leaf ∈ items.flatMap exceptions.leaves, exceptions.key leaf.value ∈ visited) :
    Visits exceptions bound items visited visited where
  closed := closed
  leaf_iff := by
    intro leaf _
    refine ⟨.inl, ?_⟩
    rintro (old | new)
    · exact old
    · obtain ⟨other, otherIn, same⟩ := List.mem_map.mp new
      rw [← same]
      exact before other otherIn
  multiple_old := fun _ _ _ old => .inl old

theorem getsPast_nil (closed : Closed exceptions bound visited) :
    GetsPast exceptions bound [] visited := by
  refine ⟨visited, visits_again closed fun leaf member => (List.not_mem_nil member).elim, ?_⟩
  intro result below visits last works
  rw [List.flatMap_nil, unseen, List.append_nil] at works
  exact ⟨visits, works⟩

/-- An object that is in the set is skipped, with the leaves below it. -/
theorem getsPast_visited (closed : Closed exceptions bound visited)
    (old : exceptions.created info.value < bound)
    (before : exceptions.key info.value ∈ visited) :
    GetsPast exceptions bound [info] visited := by
  have leavesBefore : ∀ leaf ∈ [info].flatMap exceptions.leaves,
      exceptions.key leaf.value ∈ visited := by
    intro leaf member
    rw [List.flatMap_singleton] at member
    cases multiple : exceptions.multipleArgs info.value with
    | none =>
        rw [exceptions.leaves_leaf multiple, List.mem_singleton] at member
        rw [member]
        exact before
    | some args => exact closed info args multiple old before leaf member
  refine ⟨visited, visits_again closed leavesBefore, ?_⟩
  intro result below visits last works
  rw [unseen_eq_nil leavesBefore, List.append_nil] at works
  exact ⟨visits, .again info below visited result visits last _ _ rfl before works⟩

theorem getsPast_leaf (closed : Closed exceptions bound visited)
    (leaf : exceptions.multipleArgs info.value = none)
    (fresh : exceptions.key info.value ∉ visited) :
    GetsPast exceptions bound [info] visited := by
  have only : [info].flatMap exceptions.leaves = [info] := by
    rw [List.flatMap_singleton, exceptions.leaves_leaf leaf]
  -- A `MultipleExceptions` never has the key of a leaf.
  have apart : ∀ multiple args, exceptions.multipleArgs multiple = some args →
      exceptions.key multiple ∈ exceptions.key info.value :: visited →
        exceptions.key multiple ∈ visited := by
    intro multiple args isMultiple member
    rcases List.mem_cons.mp member with same | old
    · rw [exceptions.key_multiple isMultiple] at same
      unfold Exceptions.key at same
      split at same
      · cases same
      · cases same
        rw [leaf] at isMultiple
        cases isMultiple
    · exact old
  refine ⟨exceptions.key info.value :: visited, ⟨?_, ?_, ?_⟩, ?_⟩
  · intro multiple args isMultiple old member other inside
    exact List.mem_cons_of_mem _
      (closed multiple args isMultiple old (apart _ args isMultiple member) other inside)
  · intro other _
    rw [only, List.map_singleton, List.mem_singleton, List.mem_cons, or_comm]
  · intro multiple args isMultiple member
    exact .inl (apart multiple args isMultiple member)
  · intro result below visits last works
    rw [only, unseen_cons, if_neg fresh, unseen] at works
    refine ⟨_, .visit info below visited result visits last _ _ rfl fresh ?_⟩
    have turn : exceptions.visit result (exceptions.key info.value) info =
        ([], result ++ [info]) := by
      unfold Exceptions.visit
      rw [leaf]
    rw [turn]
    exact works

theorem getsPast_multiple {args : List (ExcInfo Class Object Traceback)}
    (closed : Closed exceptions bound visited)
    (multiple : exceptions.multipleArgs info.value = some args)
    (old : exceptions.created info.value < bound)
    (fresh : exceptions.key info.value ∉ visited)
    (inner : GetsPast exceptions (exceptions.created info.value) args
      (exceptions.key info.value :: visited)) :
    GetsPast exceptions bound [info] visited := by
  obtain ⟨after, ⟨innerClosed, leafIff, multipleOld⟩, courses⟩ := inner
  have only : [info].flatMap exceptions.leaves = args.flatMap exceptions.leaves := by
    rw [List.flatMap_singleton, exceptions.leaves_multiple multiple]
  have notLeaf : ∀ leaf, exceptions.multipleArgs leaf = none →
      exceptions.key leaf ≠ exceptions.key info.value := by
    intro leaf isLeaf same
    rw [exceptions.key_multiple multiple] at same
    unfold Exceptions.key at same
    split at same
    · cases same
    · cases same
      rw [isLeaf] at multiple
      cases multiple
  have leafAfter : ∀ leaf, exceptions.multipleArgs leaf = none →
      (exceptions.key leaf ∈ after ↔ exceptions.key leaf ∈ visited ∨
        exceptions.key leaf ∈ (args.flatMap exceptions.leaves).map
          fun info => exceptions.key info.value) := by
    intro leaf isLeaf
    rw [leafIff leaf isLeaf, List.mem_cons, or_iff_right (notLeaf leaf isLeaf)]
  refine ⟨after, ⟨?_, ?_, ?_⟩, ?_⟩
  · intro other otherArgs isMultiple otherOld member leaf inside
    have isLeaf := leaf_of_mem_leaves inside
    rcases multipleOld other.value otherArgs isMultiple member with known | older
    · rcases List.mem_cons.mp known with same | before
      · -- This is `info` itself, whose leaves are those of its arguments.
        rw [exceptions.key_multiple isMultiple, exceptions.key_multiple multiple,
          ExcKey.object.injEq] at same
        rw [leafAfter leaf.value isLeaf]
        rw [same, multiple] at isMultiple
        cases isMultiple
        rw [exceptions.leaves_multiple (by rw [same]; exact multiple)] at inside
        exact .inr (List.mem_map_of_mem inside)
      · rw [leafAfter leaf.value isLeaf]
        exact .inl (closed other otherArgs isMultiple otherOld before leaf inside)
    · exact innerClosed other otherArgs isMultiple older member leaf inside
  · intro leaf isLeaf
    rw [only]
    exact leafAfter leaf isLeaf
  · intro other otherArgs isMultiple member
    rcases multipleOld other otherArgs isMultiple member with known | older
    · rcases List.mem_cons.mp known with same | before
      · rw [exceptions.key_multiple isMultiple, exceptions.key_multiple multiple,
          ExcKey.object.injEq] at same
        rw [same]
        exact .inr old
      · exact .inl before
    · exact .inr (older.trans old)
  · intro result below visits last works
    have sameUnseen : unseen (fun info => exceptions.key info.value) visited
        ([info].flatMap exceptions.leaves) =
        unseen (fun info => exceptions.key info.value) (exceptions.key info.value :: visited)
          (args.flatMap exceptions.leaves) := by
      rw [only]
      refine unseen_congr fun leaf member => ?_
      obtain ⟨arg, _, inside⟩ := List.mem_flatMap.mp member
      rw [List.mem_cons, or_iff_right (notLeaf leaf.value (leaf_of_mem_leaves inside))]
    rw [sameUnseen] at works
    obtain ⟨all, course⟩ := courses result below visits last works
    refine ⟨_, .visit info below visited result all last _ _ rfl fresh ?_⟩
    have turn : exceptions.visit result (exceptions.key info.value) info =
        (args.reverse, result) := by
      unfold Exceptions.visit
      rw [multiple]
    rw [turn, List.reverse_reverse]
    exact course

theorem GetsPast.cons (head : GetsPast exceptions bound [info] visited)
    (tail : ∀ visited, Closed exceptions bound visited → GetsPast exceptions bound items visited) :
    GetsPast exceptions bound (info :: items) visited := by
  obtain ⟨middle, visitsHead, headCourses⟩ := head
  obtain ⟨after, visitsTail, tailCourses⟩ := tail middle visitsHead.closed
  have both : (info :: items).flatMap exceptions.leaves =
      [info].flatMap exceptions.leaves ++ items.flatMap exceptions.leaves := by
    rw [List.flatMap_singleton, List.flatMap_cons]
  refine ⟨after, ⟨visitsTail.closed, ?_, ?_⟩, ?_⟩
  · intro leaf isLeaf
    rw [both, List.map_append, List.mem_append, visitsTail.leaf_iff leaf isLeaf,
      visitsHead.leaf_iff leaf isLeaf, or_assoc]
  · intro multiple args isMultiple member
    rcases visitsTail.multiple_old multiple args isMultiple member with known | older
    · exact visitsHead.multiple_old multiple args isMultiple known
    · exact .inr older
  · intro result below visits last works
    have shown : ∀ leaf ∈ items.flatMap exceptions.leaves,
        exceptions.key leaf.value ∈ middle ↔ exceptions.key leaf.value ∈ visited ∨
          exceptions.key leaf.value ∈ ([info].flatMap exceptions.leaves).map
            fun info => exceptions.key info.value := by
      intro leaf member
      obtain ⟨item, _, inside⟩ := List.mem_flatMap.mp member
      exact visitsHead.leaf_iff leaf.value (leaf_of_mem_leaves inside)
    rw [both, unseen_append shown, ← List.append_assoc] at works
    obtain ⟨tailVisits, course⟩ := tailCourses _ below visits last works
    exact headCourses result (items ++ below) tailVisits last course

/-- The outer induction is on the age of what is on the stack, the inner one on the stack. -/
theorem getsPast (younger : ∀ item ∈ items, exceptions.created item.value < bound)
    (closed : Closed exceptions bound visited) : GetsPast exceptions bound items visited := by
  induction bound using Nat.strong_induction_on generalizing items visited with
  | _ bound outer =>
      induction items generalizing visited with
      | nil => exact getsPast_nil closed
      | cons info items inner =>
          have infoOld := younger info List.mem_cons_self
          refine GetsPast.cons ?_ fun visited closed =>
            inner (fun item member => younger item (List.mem_cons_of_mem _ member)) closed
          by_cases before : exceptions.key info.value ∈ visited
          · exact getsPast_visited closed infoOld before
          · cases multiple : exceptions.multipleArgs info.value with
            | none => exact getsPast_leaf closed multiple before
            | some args =>
                refine getsPast_multiple closed multiple infoOld before (outer _ infoOld
                  (exceptions.args_created info.value args multiple) ?_)
                intro other otherArgs isMultiple older member leaf inside
                rcases List.mem_cons.mp member with same | known
                · rw [exceptions.key_multiple isMultiple, exceptions.key_multiple multiple,
                    ExcKey.object.injEq] at same
                  rw [same] at older
                  exact (lt_irrefl _ older).elim
                · exact List.mem_cons_of_mem _ (closed other otherArgs isMultiple
                    (older.trans infoOld) known leaf inside)

end Listing

/-! ### What is listed and handled -/

section Handling

variable {Class Object Traceback : Type} [DecidableEq Class] [DecidableEq Object]
  (exceptions : Exceptions Class Object Traceback)

/-- The leaves that are told apart from the ones before them. -/
def keptLeaves (info : ExcInfo Class Object Traceback) : List (ExcInfo Class Object Traceback) :=
  firstOccurrences (fun leaf => exceptions.key leaf.value) (exceptions.leaves info)

/-- **`list_exc_infos` ends, and returns the first of any equal leaves.** -/
theorem listExcInfos_eq (info : ExcInfo Class Object Traceback) :
    ∃ bound, ∀ fuel, bound ≤ fuel → ∀ excInfo sysExcInfo, excInfo.or sysExcInfo = some info →
      exceptions.listExcInfos fuel excInfo sysExcInfo = some (keptLeaves exceptions info) := by
  have younger : ∀ item ∈ [info],
      exceptions.created item.value < exceptions.created info.value + 1 := by
    intro item member
    rw [List.mem_singleton.mp member]
    exact Nat.lt_succ_self _
  have closed : Closed exceptions (exceptions.created info.value + 1) [] :=
    fun _ _ _ _ member => (List.not_mem_nil member).elim
  obtain ⟨after, _, courses⟩ := getsPast younger closed
  obtain ⟨visits, works⟩ := courses [] [] [] _ (.done _ _)
  obtain ⟨bound, ends⟩ := works.workThrough_eq
  refine ⟨bound, fun fuel enough excInfo sysExcInfo given => ?_⟩
  have loop := ends fuel enough
  rw [List.append_nil, List.nil_append, List.flatMap_singleton] at loop
  unfold Exceptions.listExcInfos
  rw [given]
  exact loop

/-- Nothing but an `Exception` escapes from the calls of `handle_exception` for `infos`. -/
def RaisesExceptionsOnly (handle : Handler Class Object Traceback)
    (infos : List (ExcInfo Class Object Traceback)) : Prop :=
  ∀ before info after, infos = before ++ info :: after →
    ∀ other, handle before info ≠ .raisesOther other

/-- The block ends with the first of `infos`, if there is one. -/
def endOf : List (ExcInfo Class Object Traceback) → BlockEnd Class Object Traceback
  | [] => .returns
  | first :: _ => .reraises first

/-- Every distinct leaf below `info` is listed once, in order, and handled once. -/
structure NeitherLostNorRepeated (handle : Handler Class Object Traceback)
    (info : ExcInfo Class Object Traceback) : Prop where
  listed : ∃ bound, ∀ fuel, bound ≤ fuel →
    ∀ excInfo sysExcInfo, excInfo.or sysExcInfo = some info →
      exceptions.listExcInfos fuel excInfo sysExcInfo = some (exceptions.distinctLeaves info)
  handled : ∃ bound, ∀ fuel, bound ≤ fuel →
    handleMultipleExceptions exceptions fuel handle (some info) =
      some ⟨(exceptions.distinctLeaves info).tail, endOf (exceptions.distinctLeaves info)⟩

omit [DecidableEq Class] [DecidableEq Object] in
theorem raisesExceptionsOnly_cons {handle : Handler Class Object Traceback}
    {info : ExcInfo Class Object Traceback} {infos : List (ExcInfo Class Object Traceback)} :
    RaisesExceptionsOnly handle (info :: infos) ↔
      (∀ other, handle [] info ≠ .raisesOther other) ∧
        RaisesExceptionsOnly (fun before => handle (info :: before)) infos := by
  constructor
  · intro raises
    refine ⟨raises [] info infos rfl, fun before one after same => ?_⟩
    exact raises (info :: before) one after (by rw [same, List.cons_append])
  · rintro ⟨here, later⟩ before one after same
    cases before with
    | nil =>
        cases same
        exact here
    | cons first before =>
        cases same
        exact later before one after rfl

omit [DecidableEq Class] [DecidableEq Object] in
theorem handleOthers_eq_iff {handle : Handler Class Object Traceback}
    {calls infos : List (ExcInfo Class Object Traceback)} :
    handleOthers handle calls infos = (calls ++ infos, none) ↔
      RaisesExceptionsOnly (fun before => handle (calls ++ before)) infos := by
  induction infos generalizing calls with
  | nil =>
      rw [handleOthers, List.append_nil]
      exact iff_of_true rfl fun before one after none_ =>
        (List.append_ne_nil_of_right_ne_nil before (List.cons_ne_nil one after) none_.symm).elim
  | cons info infos inductionHypothesis =>
      have next : RaisesExceptionsOnly (fun before => handle (calls ++ info :: before)) infos ↔
          handleOthers handle (calls ++ [info]) infos = (calls ++ info :: infos, none) := by
        rw [List.append_cons calls info infos, inductionHypothesis]
        simp only [List.append_assoc, List.singleton_append]
      rw [raisesExceptionsOnly_cons, List.append_nil, next, handleOthers]
      cases ended : handle calls info with
      | returns => simp
      | raisesException error => simp
      | raisesOther other => simp

omit [DecidableEq Class] [DecidableEq Object] in
theorem handleExcInfos_eq_iff {handle : Handler Class Object Traceback}
    {infos : List (ExcInfo Class Object Traceback)} :
    handleExcInfos handle infos = ⟨infos.tail, endOf infos⟩ ↔
      RaisesExceptionsOnly handle infos.tail := by
  cases infos with
  | nil =>
      refine iff_of_true rfl fun before one after none_ => ?_
      exact (List.append_ne_nil_of_right_ne_nil before (List.cons_ne_nil one after) none_.symm).elim
  | cons first others =>
      have all : handleOthers handle [] others = (others, none) ↔
          RaisesExceptionsOnly handle others :=
        handleOthers_eq_iff
      rw [List.tail_cons, ← all, handleExcInfos, endOf]
      obtain ⟨calls, escaped⟩ := handleOthers handle [] others
      cases escaped with
      | none => simp
      | some other => simp

theorem keptLeaves_eq_iff {info : ExcInfo Class Object Traceback} :
    keptLeaves exceptions info = exceptions.distinctLeaves info ↔
      ∀ one ∈ exceptions.leaves info, ∀ two ∈ exceptions.leaves info,
        exceptions.eq one.value two.value = true → one.value = two.value := by
  unfold keptLeaves Exceptions.distinctLeaves
  rw [firstOccurrences_eq_iff fun one two same => by rw [same]]
  simp only [exceptions.eq_iff_key]

theorem handleMultipleExceptions_eq (handle : Handler Class Object Traceback)
    (info : ExcInfo Class Object Traceback) :
    ∃ bound, ∀ fuel, bound ≤ fuel →
      handleMultipleExceptions exceptions fuel handle (some info) =
        some (handleExcInfos handle (keptLeaves exceptions info)) := by
  cases multiple : exceptions.multipleArgs info.value with
  | none =>
      refine ⟨0, fun fuel _ => ?_⟩
      unfold handleMultipleExceptions keptLeaves
      simp only [multiple, exceptions.leaves_leaf multiple]
      rfl
  | some args =>
      obtain ⟨bound, lists⟩ := listExcInfos_eq exceptions info
      refine ⟨bound, fun fuel enough => ?_⟩
      unfold handleMultipleExceptions
      simp only [multiple, lists fuel enough none (some info) rfl, Option.map_some]

theorem listed_iff {info : ExcInfo Class Object Traceback}
    {expected : List (ExcInfo Class Object Traceback)} :
    (∃ bound, ∀ fuel, bound ≤ fuel →
      ∀ excInfo sysExcInfo, excInfo.or sysExcInfo = some info →
        exceptions.listExcInfos fuel excInfo sysExcInfo = some expected) ↔
      keptLeaves exceptions info = expected := by
  obtain ⟨enough, lists⟩ := listExcInfos_eq exceptions info
  constructor
  · rintro ⟨bound, returns⟩
    have one := returns (max bound enough) (le_max_left _ _) (some info) none rfl
    rw [lists _ (le_max_right _ _) (some info) none rfl] at one
    exact Option.some.inj one
  · rintro rfl
    exact ⟨enough, lists⟩

theorem handled_iff {handle : Handler Class Object Traceback}
    {info : ExcInfo Class Object Traceback} {expected : Handled Class Object Traceback} :
    (∃ bound, ∀ fuel, bound ≤ fuel →
      handleMultipleExceptions exceptions fuel handle (some info) = some expected) ↔
      handleExcInfos handle (keptLeaves exceptions info) = expected := by
  obtain ⟨enough, handles⟩ := handleMultipleExceptions_eq exceptions handle info
  constructor
  · rintro ⟨bound, returns⟩
    have one := returns (max bound enough) (le_max_left _ _)
    rw [handles _ (le_max_right _ _)] at one
    exact Option.some.inj one
  · rintro rfl
    exact ⟨enough, handles⟩

/-- **Exactly where different leaves are unequal, and no `handle_exception` is interrupted,
nested exceptions are neither lost nor repeated.** -/
theorem neither_lost_nor_repeated_iff (handle : Handler Class Object Traceback)
    (info : ExcInfo Class Object Traceback) :
    NeitherLostNorRepeated exceptions handle info ↔
      (∀ one ∈ exceptions.leaves info, ∀ two ∈ exceptions.leaves info,
        exceptions.eq one.value two.value = true → one.value = two.value) ∧
      RaisesExceptionsOnly handle (exceptions.distinctLeaves info).tail := by
  rw [← keptLeaves_eq_iff]
  constructor
  · rintro ⟨listed, handled⟩
    have all := (listed_iff exceptions).mp listed
    refine ⟨all, ?_⟩
    rw [handled_iff, all] at handled
    exact handleExcInfos_eq_iff.mp handled
  · rintro ⟨all, raises⟩
    refine ⟨(listed_iff exceptions).mpr all, (handled_iff exceptions).mpr ?_⟩
    rw [all]
    exact handleExcInfos_eq_iff.mpr raises

end Handling

/-! ### Two failures of the same text -/

/-- The object 2 collects the objects 0 and 1, which are instances of one class that derives
from `TobikoException`, and are created with the same message. -/
def twoTimeouts : Exceptions Bool Nat Unit where
  type := fun object => decide (object < 2)
  isTobiko := id
  str := fun _ => "timed out"
  multipleArgs := fun object => if object = 2 then some [⟨true, 0, ()⟩, ⟨true, 1, ()⟩] else none
  created := id
  args_created := by
    intro object args collected info member
    split at collected
    · rename_i isTwo
      cases collected
      rw [isTwo]
      rcases List.mem_pair.mp member with rfl | rfl
      · exact Nat.zero_lt_succ 1
      · exact Nat.lt_succ_self 1
    · cases collected
  multiple_plain := by
    intro object args collected
    split at collected
    · rename_i isTwo
      rw [isTwo]
      rfl
    · cases collected

/-- The second timeout is neither listed nor handled. -/
theorem second_timeout_lost :
    ¬NeitherLostNorRepeated twoTimeouts (fun _ _ => .returns) ⟨false, 2, ()⟩ := by
  rintro ⟨listed, _⟩
  have multiple : twoTimeouts.multipleArgs 2 = some [⟨true, 0, ()⟩, ⟨true, 1, ()⟩] := rfl
  have leaves : twoTimeouts.leaves ⟨false, 2, ()⟩ = [⟨true, 0, ()⟩, ⟨true, 1, ()⟩] := by
    rw [twoTimeouts.leaves_multiple multiple, List.flatMap_cons, List.flatMap_singleton,
      twoTimeouts.leaves_leaf rfl, twoTimeouts.leaves_leaf rfl]
    rfl
  have separates := (keptLeaves_eq_iff twoTimeouts).mp ((listed_iff twoTimeouts).mp listed)
  rw [leaves] at separates
  have same := separates ⟨true, 0, ()⟩ (by simp) ⟨true, 1, ()⟩ (by simp) (by decide)
  exact absurd same (by decide)

end Tobiko.Common.ExcInfos
