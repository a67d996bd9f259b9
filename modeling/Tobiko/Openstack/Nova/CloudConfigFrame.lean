import Tobiko.Openstack.Nova.CombinedConfigs

/-!
Contract: what combining cloud configurations leaves of them.

Owns: the mappings after the loop over the objects, and when they have their contents again.

Does not own: the combined configuration.

`packages` and `runcmd` are popped from the mappings of the caller, whereas other objects are
copied.
-/

namespace Tobiko.Openstack.Nova

open Tobiko.Foundation
open Tobiko.Foundation.Shlex (LexError)

section Frame

variable {Package Value Ref : Type} [DecidableEq Package] [DecidableEq Ref]
  {truthy : Package → Bool} {mappings : Mappings Package Value Ref}
  {obj : ConfigObject Package Value Ref} {objs : List (ConfigObject Package Value Ref)}

/-- `cloud_config(*args, **kwargs)`; the keyword arguments are a dictionary of their own. -/
def cloudConfig (truthy : Package → Bool) (args : List (ConfigObject Package Value Ref))
    (kwargs : CloudConfig Package Value) (mappings : Mappings Package Value Ref) :
    Except CombineError (CloudConfig Package Value) × Mappings Package Value Ref :=
  combineCloudConfigs truthy (args ++ [.pairs kwargs]) mappings

/-- `left + right`, for two configurations that the caller holds. -/
def addConfigs (truthy : Package → Bool) (left right : Ref)
    (mappings : Mappings Package Value Ref) :
    Except CombineError (CloudConfig Package Value) × Mappings Package Value Ref :=
  combineCloudConfigs truthy [.mapping left, .mapping right] mappings

/-! ### What is popped -/

/-- Nothing of the configuration is popped. -/
structure CloudConfig.Keyless (config : CloudConfig Package Value) : Prop where
  packages : config.packages = none
  runcmd : config.runcmd = none

omit [DecidableEq Package] in
theorem popped_eq_iff {config : CloudConfig Package Value} :
    config.popped = config ↔ config.Keyless := by
  constructor
  · intro same
    exact ⟨congrArg CloudConfig.packages same.symm, congrArg CloudConfig.runcmd same.symm⟩
  · intro keyless
    rw [CloudConfig.popped, ← keyless.packages, ← keyless.runcmd]

omit [DecidableEq Package] in
theorem pop_eq_iff :
    obj.pop mappings = mappings ↔ ∀ ref, obj = .mapping ref → (mappings ref).Keyless := by
  cases obj with
  | pairs config => exact ⟨fun _ ref same => (by cases same), fun _ => rfl⟩
  | mapping ref =>
      constructor
      · intro same other isMapping
        cases isMapping
        have here := congrFun same ref
        rw [ConfigObject.pop, Function.update_self] at here
        exact popped_eq_iff.mp here
      · intro keyless
        rw [ConfigObject.pop, popped_eq_iff.mpr (keyless ref rfl), Function.update_eq_self]

omit [DecidableEq Package] in
/-- What has been popped stays popped. -/
theorem keyless_pop {ref : Ref} (keyless : (mappings ref).Keyless) :
    (obj.pop mappings ref).Keyless := by
  cases obj with
  | pairs config => exact keyless
  | mapping other =>
      by_cases same : ref = other
      · rw [same, ConfigObject.pop, Function.update_self]
        exact ⟨rfl, rfl⟩
      · rw [ConfigObject.pop, Function.update_of_ne same]
        exact keyless

theorem add_error {merged : Merged Package Value} {config : CloudConfig Package Value}
    (notReadable : ¬config.Readable) : ∃ error, merged.add truthy config = .error error := by
  obtain ⟨error, fails⟩ := Merged.addCommands_error merged.runcmd notReadable
  exact ⟨error, by rw [Merged.add, fails]⟩

omit [DecidableEq Package] [DecidableEq Ref] in
theorem readable_of_isEmpty {config : CloudConfig Package Value} (empty : config.isEmpty = true) :
    config.Readable := by
  simp only [CloudConfig.isEmpty, Bool.and_eq_true, Option.isNone_iff_eq_none] at empty
  intro cmdline member
  rw [empty.1.2] at member
  exact absurd member List.not_mem_nil

/-! ### What the loop leaves -/

/-- Nothing is popped of the mappings up to the first object whose commands cannot be split. -/
def NothingPopped (mappings : Mappings Package Value Ref)
    (objs : List (ConfigObject Package Value Ref)) : Prop :=
  ∀ before ref after, objs = before ++ .mapping ref :: after →
    (∀ obj ∈ before, (obj.content mappings).Readable) → (mappings ref).Keyless

omit [DecidableEq Package] [DecidableEq Ref] in
theorem nothingPopped_cons : NothingPopped mappings (obj :: objs) ↔
    (∀ ref, obj = .mapping ref → (mappings ref).Keyless) ∧
      ((obj.content mappings).Readable → NothingPopped mappings objs) := by
  constructor
  · intro nothing
    constructor
    · intro ref same
      rw [same] at nothing
      exact nothing [] ref objs rfl fun _ member => absurd member List.not_mem_nil
    · intro readable before ref after same others
      apply nothing (obj :: before) ref after (by rw [same]; rfl)
      intro other member
      rcases List.mem_cons.mp member with isFirst | later
      · rw [isFirst]
        exact readable
      · exact others other later
  · intro both before ref after same readable
    cases before with
    | nil =>
        cases same
        exact both.1 ref rfl
    | cons first before =>
        obtain ⟨sameFirst, sameRest⟩ := List.cons.inj same
        have rest := both.2 (sameFirst ▸ readable first List.mem_cons_self)
        exact rest before ref after sameRest fun other member =>
          readable other (List.mem_cons_of_mem _ member)

theorem keyless_combineFrom {ref : Ref} (keyless : (mappings ref).Keyless)
    (merged : Merged Package Value) :
    ((combineFrom truthy objs merged mappings).2 ref).Keyless := by
  induction objs generalizing merged mappings with
  | nil => exact keyless
  | cons obj objs inductionHypothesis =>
      rw [combineFrom]
      split
      · exact inductionHypothesis keyless merged
      · split
        · exact keyless_pop keyless
        · rename_i next _
          exact inductionHypothesis (keyless_pop keyless) next

theorem combineFrom_untouched {ref : Ref} (other : .mapping ref ∉ objs)
    (merged : Merged Package Value) :
    (combineFrom truthy objs merged mappings).2 ref = mappings ref := by
  have popOther : ∀ {obj : ConfigObject Package Value Ref}
      (mappings : Mappings Package Value Ref), .mapping ref ≠ obj →
      obj.pop mappings ref = mappings ref := by
    intro obj mappings different
    cases obj with
    | pairs config => rfl
    | mapping another =>
        apply Function.update_of_ne
        intro same
        rw [same] at different
        exact different rfl
  induction objs generalizing merged mappings with
  | nil => rfl
  | cons obj objs inductionHypothesis =>
      obtain ⟨different, others⟩ := not_or.mp fun member => other (List.mem_cons.mpr member)
      rw [combineFrom]
      split
      · exact inductionHypothesis others merged
      · split
        · exact popOther mappings different
        · rename_i next _
          rw [inductionHypothesis others next, popOther mappings different]

/-- **The loop leaves the mappings as they were if and only if it pops nothing.** -/
theorem combineFrom_snd_iff (merged : Merged Package Value) :
    (combineFrom truthy objs merged mappings).2 = mappings ↔ NothingPopped mappings objs := by
  induction objs generalizing merged mappings with
  | nil =>
      refine ⟨fun _ before ref after same => ?_, fun _ => rfl⟩
      cases before <;> cases same
  | cons obj objs inductionHypothesis =>
      rw [nothingPopped_cons, combineFrom, ← pop_eq_iff]
      by_cases empty : (obj.content mappings).isEmpty = true
      · rw [if_pos empty, inductionHypothesis,
          and_iff_right (ConfigObject.pop_of_isEmpty empty)]
        exact ⟨fun nothing _ => nothing, fun nothing => nothing (readable_of_isEmpty empty)⟩
      · rw [if_neg empty]
        by_cases readable : (obj.content mappings).Readable
        · obtain ⟨next, added, -⟩ := Merged.add_eq truthy merged readable
          rw [added]
          dsimp only
          by_cases unpopped : obj.pop mappings = mappings
          · rw [unpopped, inductionHypothesis]
            exact ⟨fun nothing => ⟨rfl, fun _ => nothing⟩, fun both => both.2 readable⟩
          · -- A key that has been popped does not come back.
            apply iff_of_false
            · intro same
              apply unpopped
              rw [pop_eq_iff]
              intro ref isMapping
              have keyless : (obj.pop mappings ref).Keyless := by
                rw [isMapping, ConfigObject.pop, Function.update_self]
                exact ⟨rfl, rfl⟩
              have after := @keyless_combineFrom _ _ _ _ _ truthy _ objs ref keyless next
              rw [same] at after
              exact after
            · exact fun both => unpopped both.1
        · obtain ⟨error, failed⟩ := @add_error _ _ _ truthy merged _ readable
          rw [failed]
          dsimp only
          exact ⟨fun same => ⟨same, fun impossible => absurd impossible readable⟩, fun both => both.1⟩

theorem combineCloudConfigs_snd :
    (combineCloudConfigs truthy objs mappings).2 = (combineFrom truthy objs .init mappings).2 := by
  unfold combineCloudConfigs
  split
  · rename_i ends
    rw [ends]
  · rename_i ends
    rw [ends]

omit [DecidableEq Package] [DecidableEq Ref] in
/-- Keyword arguments have nothing that could be popped of the operands. -/
theorem nothingPopped_kwargs {args : List (ConfigObject Package Value Ref)}
    {kwargs : CloudConfig Package Value} :
    NothingPopped mappings (args ++ [.pairs kwargs]) ↔ NothingPopped mappings args := by
  induction args with
  | nil =>
      rw [List.nil_append, nothingPopped_cons]
      refine ⟨fun _ before ref after same => ?_, fun nothing => ⟨fun ref same => ?_, fun _ => nothing⟩⟩
      · cases before <;> cases same
      · cases same
  | cons obj args inductionHypothesis =>
      rw [List.cons_append, nothingPopped_cons, nothingPopped_cons, inductionHypothesis]

/-! ### The operands -/

/-- The operands keep their contents, and combining them again gives the same result. -/
structure LeavesOperands (combine : Mappings Package Value Ref →
      Except CombineError (CloudConfig Package Value) × Mappings Package Value Ref)
    (operands : List (ConfigObject Package Value Ref)) (mappings : Mappings Package Value Ref) :
    Prop where
  contents : ∀ obj ∈ operands, obj.content (combine mappings).2 = obj.content mappings
  again : (combine (combine mappings).2).1 = (combine mappings).1

theorem leavesOperands_iff {operands : List (ConfigObject Package Value Ref)}
    (all : ∀ ref, .mapping ref ∈ objs → .mapping ref ∈ operands) :
    LeavesOperands (combineCloudConfigs truthy objs) operands mappings ↔
      NothingPopped mappings objs := by
  rw [← @combineFrom_snd_iff _ _ _ _ _ truthy mappings objs Merged.init,
    ← combineCloudConfigs_snd]
  constructor
  · intro leaves
    funext ref
    by_cases member : .mapping ref ∈ objs
    · exact leaves.contents _ (all ref member)
    · rw [combineCloudConfigs_snd]
      exact combineFrom_untouched member _
  · intro same
    constructor
    case contents => exact fun obj _ => by rw [same]
    case again => rw [same]

/-- **Combining configurations leaves them unchanged if and only if none of the mappings that are
read has packages or commands.** -/
theorem combine_leaves_operands_iff (truthy : Package → Bool)
    (mappings : Mappings Package Value Ref) :
    (∀ objs, LeavesOperands (combineCloudConfigs truthy objs) objs mappings ↔
      NothingPopped mappings objs) ∧
    (∀ args kwargs, LeavesOperands (cloudConfig truthy args kwargs) args mappings ↔
      NothingPopped mappings args) ∧
    ∀ left right, LeavesOperands (addConfigs truthy left right) [.mapping left, .mapping right]
        mappings ↔ NothingPopped mappings [.mapping left, .mapping right] := by
  refine ⟨fun objs => leavesOperands_iff fun _ member => member, fun args kwargs => ?_,
    fun left right => leavesOperands_iff fun _ member => member⟩
  rw [← @nothingPopped_kwargs _ _ _ mappings args kwargs]
  apply leavesOperands_iff
  intro ref member
  rcases List.mem_append.mp member with given | isKwargs
  · exact given
  · cases List.mem_singleton.mp isKwargs

end Frame

/-! ### A configuration with a package -/

/-- `CloudConfig(packages=['curl'])` -/
def curlConfig : CloudConfig String Unit :=
  ⟨some ["curl"], none, .empty, by simp [OtherKeys]⟩

/-- The configuration loses its packages, and has none in the next combination. -/
theorem combine_pops_operands :
    ¬LeavesOperands (combineCloudConfigs (fun _ => true) [.mapping ()]) [.mapping ()]
      fun _ : Unit => curlConfig := by
  intro leaves
  have kept := congrArg CloudConfig.packages (leaves.contents (.mapping ()) List.mem_cons_self)
  revert kept
  decide

end Tobiko.Openstack.Nova
