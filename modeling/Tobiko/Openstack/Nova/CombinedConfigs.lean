import Mathlib.Data.List.Duplicate
import Tobiko.Openstack.Nova.CloudInit

/-!
Contract: what a combined cloud configuration has of the ones that were combined.

Owns: the packages, commands and other items of the combined configuration, that the files to
write are those of the last configuration alone, and when the combination is associative.

Does not own: the combination.
-/

namespace Tobiko.Openstack.Nova

open Tobiko.Foundation
open Tobiko.Foundation.Shlex (LexError)
open Tobiko.Shell.Sh
open Tobiko.Shell.Sh.Command (ShellCommandType shellCommand shellCommand_of_not_truthy)

section Configs

variable {Package Value Ref Entry : Type}

/-! ### What a configuration has -/

/-- The arguments of the commands that are not empty. -/
def nonEmptyCommands (cmdlines : List ShellCommandType) : List (List Command.Text) :=
  cmdlines.filterMap fun cmdline =>
    match shellCommand cmdline with
    | .ok command => if command.arguments = [] then none else some command.arguments
    | .error _ => none

namespace CloudConfig

def packageList (config : CloudConfig Package Value) : List Package := config.packages.getD []

def commands (config : CloudConfig Package Value) : List (List Command.Text) :=
  nonEmptyCommands (config.runcmd.getD [])

/-- All command lines can be split. -/
def Readable (config : CloudConfig Package Value) : Prop :=
  ∀ cmdline ∈ config.runcmd.getD [], ∃ command, shellCommand cmdline = .ok command

/-- The entries under `write_files`, where `entries` reads them. -/
def writeFiles (entries : Value → List Entry) (config : CloudConfig Package Value) : List Entry :=
  ((config.item "write_files").map entries).getD []

/-- Two equal dictionaries. -/
structure Same (left right : CloudConfig Package Value) : Prop where
  packages : left.packages = right.packages
  runcmd : left.runcmd = right.runcmd
  items : ∀ key, left.items.get? key = right.items.get? key

end CloudConfig

/-- The value of the key in the last dictionary that has it. -/
def lastValue (dicts : List (Dict String (Option Value))) (key : String) :
    Option (Option Value) :=
  dicts.reverse.findSome? fun dict => dict.get? key

theorem lastValue_cons {dict : Dict String (Option Value)}
    {dicts : List (Dict String (Option Value))} {key : String} :
    lastValue (dict :: dicts) key = (lastValue dicts key).or (dict.get? key) := by
  simp [lastValue, List.findSome?_append]

theorem lastValue_pair {first second : Dict String (Option Value)} {key : String} :
    lastValue [first, second] key = (second.get? key).or (first.get? key) := by
  rw [lastValue_cons]
  simp [lastValue]

/-! ### The loops -/

namespace Merged

theorem addPackages_eq [DecidableEq Package] {truthy : Package → Bool}
    (packages seen : List Package) :
    addPackages truthy packages seen = seen ++ unseen id seen (packages.filter truthy) := by
  induction packages generalizing seen with
  | nil => simp [addPackages, unseen]
  | cons package packages inductionHypothesis =>
      rw [addPackages, inductionHypothesis]
      cases present : truthy package with
      | false => simp [present]
      | true =>
          rw [List.filter_cons_of_pos present, unseen_cons]
          by_cases before : package ∈ seen
          · simp [before]
          · simp only [before, not_false_eq_true, and_self, if_true, id, if_false,
              List.append_assoc, List.singleton_append]
            congr 2
            exact unseen_congr fun other _ => by simp [or_comm]

theorem addCommands_eq {cmdlines : List ShellCommandType} (runcmd : List (List Command.Text))
    (readable : ∀ cmdline ∈ cmdlines, ∃ command, shellCommand cmdline = .ok command) :
    addCommands cmdlines runcmd = .ok (runcmd ++ nonEmptyCommands cmdlines) := by
  induction cmdlines generalizing runcmd with
  | nil => simp [addCommands, nonEmptyCommands]
  | cons cmdline cmdlines inductionHypothesis =>
      obtain ⟨⟨command, reads⟩, others⟩ := List.forall_mem_cons.mp readable
      have goesOn := fun runcmd => inductionHypothesis runcmd others
      cases truth : cmdline.truthy with
      | false =>
          rw [shellCommand_of_not_truthy truth] at reads
          cases reads
          simp [addCommands, truth, goesOn, nonEmptyCommands, shellCommand_of_not_truthy truth]
      | true =>
          simp only [addCommands, truth, if_true, reads, goesOn]
          by_cases empty : command.arguments = []
          · simp [nonEmptyCommands, reads, empty]
          · simp [nonEmptyCommands, reads, empty]

theorem addCommands_error {cmdlines : List ShellCommandType} (runcmd : List (List Command.Text))
    (notReadable : ¬∀ cmdline ∈ cmdlines, ∃ command, shellCommand cmdline = .ok command) :
    ∃ error, addCommands cmdlines runcmd = .error error := by
  induction cmdlines generalizing runcmd with
  | nil => exact absurd (List.forall_mem_nil _) notReadable
  | cons cmdline cmdlines inductionHypothesis =>
      rw [List.forall_mem_cons, not_and] at notReadable
      cases reads : shellCommand cmdline with
      | error error =>
          cases truth : cmdline.truthy with
          | false =>
              rw [shellCommand_of_not_truthy truth] at reads
              cases reads
          | true => exact ⟨error, by simp only [addCommands, truth, if_true, reads]⟩
      | ok command =>
          have goesOn := fun runcmd => inductionHypothesis runcmd (notReadable ⟨command, reads⟩)
          rw [addCommands]
          split
          · simp only [reads]
            exact goesOn _
          · exact goesOn _

variable [DecidableEq Package] {truthy : Package → Bool} {merged : Merged Package Value}
  {config : CloudConfig Package Value} {configs : List (CloudConfig Package Value)}

/-- A configuration without items adds nothing. -/
theorem add_of_isEmpty (empty : config.isEmpty = true) : merged.add truthy config = .ok merged := by
  simp only [CloudConfig.isEmpty, Bool.and_eq_true, Option.isNone_iff_eq_none, Dict.keys,
    List.isEmpty_iff, List.map_eq_nil_iff] at empty
  obtain ⟨⟨noPackages, noCommands⟩, noItems⟩ := empty
  simp [add, noPackages, noCommands, addCommands, addPackages, Dict.update, noItems]

/-- What has been merged of the configurations. -/
structure Has (truthy : Package → Bool) (merged after : Merged Package Value)
    (configs : List (CloudConfig Package Value)) : Prop where
  packages : after.packages = merged.packages ++
    unseen id merged.packages ((configs.flatMap CloudConfig.packageList).filter truthy)
  runcmd : after.runcmd = merged.runcmd ++ configs.flatMap CloudConfig.commands
  extraParams : ∀ key, after.extraParams.get? key =
    (lastValue (configs.map CloudConfig.items) key).or (merged.extraParams.get? key)
  keys : ∀ key, key ∈ after.extraParams.keys ↔
    key ∈ merged.extraParams.keys ∨ ∃ config ∈ configs, key ∈ config.items.keys

theorem add_eq (truthy : Package → Bool) (merged : Merged Package Value)
    (readable : config.Readable) :
    ∃ after, merged.add truthy config = .ok after ∧ Has truthy merged after [config] := by
  refine ⟨_, by simp only [add, addCommands_eq _ readable]; rfl, ?_, ?_, ?_, ?_⟩
  · rw [addPackages_eq]
    simp [CloudConfig.packageList]
  · simp [CloudConfig.commands]
  · intro key
    rw [Dict.get?_update]
    simp [lastValue]
  · intro key
    simp [Dict.mem_keys_update]

/-- Merging goes on after what has been merged. -/
theorem Has.append {middle after : Merged Package Value}
    {others : List (CloudConfig Package Value)} (first : Has truthy merged middle [config])
    (rest : Has truthy middle after others) : Has truthy merged after (config :: others) := by
  refine ⟨?_, ?_, fun key => ?_, fun key => ?_⟩
  · have headPackages : middle.packages = merged.packages ++
        unseen id merged.packages (config.packageList.filter truthy) := by
      simpa using first.packages
    have shown : ∀ package ∈ (others.flatMap CloudConfig.packageList).filter truthy,
        id package ∈ middle.packages ↔ id package ∈ merged.packages ∨
          id package ∈ (config.packageList.filter truthy).map id := by
      intro package _
      have fresh := @mem_keys_unseen Package Package _ id merged.packages
        (config.packageList.filter truthy) package
      rw [List.map_id, List.map_id] at fresh
      rw [headPackages, List.mem_append, id, fresh, List.map_id]
      by_cases before : package ∈ merged.packages
      · simp only [before, true_or]
      · simp only [before, false_or, not_false_eq_true, and_true]
    rw [rest.packages, List.flatMap_cons, List.filter_append, unseen_append shown, headPackages,
      List.append_assoc]
  · rw [rest.runcmd, first.runcmd, List.flatMap_cons, List.append_assoc]
    simp
  · have headItems : middle.extraParams.get? key =
        (config.items.get? key).or (merged.extraParams.get? key) := by
      simpa [lastValue] using first.extraParams key
    rw [rest.extraParams, headItems, List.map_cons, lastValue_cons, Option.or_assoc]
  · rw [rest.keys, first.keys]
    simp [or_assoc]

theorem foldlM_add (truthy : Package → Bool) (merged : Merged Package Value)
    (readable : ∀ config ∈ configs, config.Readable) :
    ∃ after, configs.foldlM (add truthy) merged = .ok after ∧ Has truthy merged after configs := by
  induction configs generalizing merged with
  | nil => exact ⟨merged, rfl, by simp [unseen], by simp, by simp [lastValue], by simp⟩
  | cons config configs inductionHypothesis =>
      obtain ⟨headReadable, othersReadable⟩ := List.forall_mem_cons.mp readable
      obtain ⟨middle, adds, first⟩ := add_eq truthy merged headReadable
      obtain ⟨after, goesOn, rest⟩ := inductionHypothesis middle othersReadable
      refine ⟨after, ?_, first.append rest⟩
      rw [List.foldlM_cons, adds]
      exact goesOn

theorem foldlM_add_error (truthy : Package → Bool) (merged : Merged Package Value)
    (notReadable : ¬∀ config ∈ configs, config.Readable) :
    ∃ error, configs.foldlM (add truthy) merged = .error error := by
  induction configs generalizing merged with
  | nil => exact absurd (List.forall_mem_nil _) notReadable
  | cons config configs inductionHypothesis =>
      rw [List.forall_mem_cons, not_and] at notReadable
      rw [List.foldlM_cons]
      by_cases readable : config.Readable
      · obtain ⟨middle, adds, -⟩ := add_eq truthy merged readable
        rw [adds]
        exact inductionHypothesis middle (notReadable readable)
      · obtain ⟨error, fails⟩ := addCommands_error merged.runcmd readable
        exact ⟨error, by simp only [add, fails]; rfl⟩

end Merged

/-! ### The objects that are read -/

section Objects

variable [DecidableEq Ref] {mappings : Mappings Package Value Ref}
  {obj : ConfigObject Package Value Ref} {objs : List (ConfigObject Package Value Ref)}

/-- The contents that the loop finds. A mapping that comes again has been popped. -/
def contents (mappings : Mappings Package Value Ref) :
    List (ConfigObject Package Value Ref) → List (CloudConfig Package Value)
  | [] => []
  | obj :: objs => obj.content mappings :: contents (obj.pop mappings) objs

namespace ConfigObject

theorem pop_of_isEmpty (empty : (obj.content mappings).isEmpty = true) :
    obj.pop mappings = mappings := by
  cases obj with
  | pairs config => rfl
  | mapping ref =>
      simp only [content, CloudConfig.isEmpty, Bool.and_eq_true, Option.isNone_iff_eq_none] at empty
      have same : (mappings ref).popped = mappings ref := by
        rw [CloudConfig.popped, ← empty.1.1, ← empty.1.2]
      rw [pop, same, Function.update_eq_self]

/-- Another object is untouched, and the same mapping is popped. -/
theorem content_pop (mappings : Mappings Package Value Ref)
    (obj other : ConfigObject Package Value Ref) :
    other.content (obj.pop mappings) = other.content mappings ∨
      other = obj ∧ other.content (obj.pop mappings) = (other.content mappings).popped := by
  cases obj with
  | pairs config => exact .inl rfl
  | mapping ref =>
      cases other with
      | pairs config => exact .inl rfl
      | mapping another =>
          by_cases same : another = ref
          · subst same
            exact .inr ⟨rfl, Function.update_self _ _ _⟩
          · exact .inl (Function.update_of_ne same _ _)

theorem items_content_pop (mappings : Mappings Package Value Ref)
    (obj other : ConfigObject Package Value Ref) :
    (other.content (obj.pop mappings)).items = (other.content mappings).items := by
  obtain untouched | ⟨-, popped⟩ := content_pop mappings obj other
  · rw [untouched]
  · rw [popped]
    rfl

end ConfigObject

theorem items_contents :
    (contents mappings objs).map CloudConfig.items =
      (objs.map (·.content mappings)).map CloudConfig.items := by
  induction objs generalizing mappings with
  | nil => rfl
  | cons obj objs inductionHypothesis =>
      rw [contents, List.map_cons, List.map_cons, List.map_cons, inductionHypothesis, List.map_map,
        List.map_map]
      congr 1
      exact List.map_congr_left fun other _ => ConfigObject.items_content_pop mappings obj other

/-- The first time that an object comes, its content is found. -/
theorem content_mem_contents {other : ConfigObject Package Value Ref} (member : other ∈ objs) :
    other.content mappings ∈ contents mappings objs := by
  induction objs generalizing mappings with
  | nil => cases member
  | cons obj objs inductionHypothesis =>
      obtain rfl | later := List.mem_cons.mp member
      · exact List.mem_cons_self
      · obtain untouched | ⟨rfl, -⟩ := ConfigObject.content_pop mappings obj other
        · rw [← untouched]
          exact List.mem_cons_of_mem _ (inductionHypothesis later)
        · exact List.mem_cons_self

theorem mem_contents {config : CloudConfig Package Value} (member : config ∈ contents mappings objs) :
    ∃ obj ∈ objs, config = obj.content mappings ∨ config = (obj.content mappings).popped := by
  induction objs generalizing mappings with
  | nil => cases member
  | cons obj objs inductionHypothesis =>
      obtain rfl | later := List.mem_cons.mp member
      · exact ⟨obj, List.mem_cons_self, .inl rfl⟩
      · obtain ⟨other, inObjs, found⟩ := inductionHypothesis later
        refine ⟨other, List.mem_cons_of_mem _ inObjs, ?_⟩
        obtain untouched | ⟨-, popped⟩ := ConfigObject.content_pop mappings obj other
        · rwa [untouched] at found
        · rw [popped] at found
          exact .inr (found.elim id id)

variable [DecidableEq Package] {truthy : Package → Bool}

theorem combineFrom_fst (merged : Merged Package Value) :
    (combineFrom truthy objs merged mappings).1 =
      (contents mappings objs).foldlM (Merged.add truthy) merged := by
  induction objs generalizing merged mappings with
  | nil => rfl
  | cons obj objs inductionHypothesis =>
      rw [combineFrom, contents, List.foldlM_cons]
      split
      · rename_i empty
        rw [Merged.add_of_isEmpty empty, ConfigObject.pop_of_isEmpty empty, inductionHypothesis]
        rfl
      · cases adds : merged.add truthy (obj.content mappings) with
        | error error => rfl
        | ok middle => exact inductionHypothesis middle

/-! ### The combined configuration -/

/-- It can be split into commands, and its keys can be arguments of `create`. -/
structure CloudConfig.Combinable (config : CloudConfig Package Value) : Prop where
  readable : config.Readable
  named : "cls" ∉ config.items.keys

/-- `values or None` -/
def orNone {Item : Type} (items : List Item) : Option (List Item) :=
  if items = [] then none else some items

theorem getD_orNone {Item : Type} (items : List Item) : (orNone items).getD [] = items := by
  unfold orNone
  split
  · rename_i empty
    rw [empty]
    rfl
  · rfl

structure IsCombined (truthy : Package → Bool) (configs : List (CloudConfig Package Value))
    (combined : CloudConfig Package Value) : Prop where
  packages : combined.packages = orNone (firstOccurrences id
    ((configs.flatMap CloudConfig.packageList).filter truthy))
  runcmd : combined.runcmd =
    orNone ((configs.flatMap CloudConfig.commands).map ShellCommandType.arguments)
  items : ∀ key, combined.items.get? key =
    (lastValue (configs.map CloudConfig.items) key).filter Option.isSome

theorem combineCloudConfigs_fst : (combineCloudConfigs truthy objs mappings).1 =
    match (contents mappings objs).foldlM (Merged.add truthy) Merged.init with
    | .error error => .error (.valueError error)
    | .ok merged => merged.create := by
  rw [combineCloudConfigs, ← combineFrom_fst]
  split
  · rename_i ends
    rw [ends]
  · rename_i ends
    rw [ends]

theorem combineCloudConfigs_of_combinable
    (combinable : ∀ config ∈ contents mappings objs, config.Combinable) :
    ∃ combined, (combineCloudConfigs truthy objs mappings).1 = .ok combined ∧
      IsCombined truthy (contents mappings objs) combined := by
  obtain ⟨merged, merges, has⟩ := Merged.foldlM_add truthy Merged.init
    fun config member => (combinable config member).readable
  have named : "cls" ∉ merged.extraParams.keys := by
    rw [has.keys]
    rintro (nothing | ⟨config, member, reserved⟩)
    · cases nothing
    · exact (combinable config member).named reserved
  simp only [combineCloudConfigs_fst, merges, Merged.create, named, if_false]
  refine ⟨_, rfl, ?_, ?_, fun key => ?_⟩
  · rw [has.packages]
    rfl
  · rw [has.runcmd, orNone]
    simp [Merged.init]
  · rw [Dict.get?_filter, has.extraParams]
    simp [Merged.init]

theorem combinable_of_ok {combined : CloudConfig Package Value}
    (ends : (combineCloudConfigs truthy objs mappings).1 = .ok combined) :
    ∀ config ∈ contents mappings objs, config.Combinable := by
  rw [combineCloudConfigs_fst] at ends
  by_cases readable : ∀ config ∈ contents mappings objs, config.Readable
  · obtain ⟨merged, merges, has⟩ := Merged.foldlM_add truthy Merged.init readable
    intro config member
    refine ⟨readable config member, fun reserved => ?_⟩
    have given : "cls" ∈ merged.extraParams.keys :=
      (has.keys _).mpr (.inr ⟨config, member, reserved⟩)
    simp only [merges, Merged.create, given, if_true] at ends
    cases ends
  · obtain ⟨error, fails⟩ :=
      Merged.foldlM_add_error truthy Merged.init readable
    rw [fails] at ends
    cases ends

omit [DecidableEq Package] in
theorem combinable_contents_iff : (∀ config ∈ contents mappings objs, config.Combinable) ↔
    ∀ obj ∈ objs, (obj.content mappings).Combinable := by
  constructor
  · exact fun combinable obj member => combinable _ (content_mem_contents member)
  · intro combinable config member
    obtain ⟨obj, inObjs, rfl | rfl⟩ := mem_contents member
    · exact combinable obj inObjs
    · exact ⟨List.forall_mem_nil _, (combinable obj inObjs).named⟩

/-! ### What popping does -/

/-- A mapping that has been popped has no packages, and these have been seen. -/
theorem unseen_contents {seen : List Package} {start : Mappings Package Value Ref}
    (popped : ∀ obj : ConfigObject Package Value Ref,
      obj.content mappings = obj.content start ∨ (obj.content mappings).packageList = [] ∧
        (obj.content start).packageList.filter truthy ⊆ seen) :
    unseen id seen (((contents mappings objs).flatMap CloudConfig.packageList).filter truthy) =
      unseen id seen
        (((objs.map (·.content start)).flatMap CloudConfig.packageList).filter truthy) := by
  induction objs generalizing mappings seen with
  | nil => rfl
  | cons obj objs inductionHypothesis =>
      rw [contents, List.map_cons, List.flatMap_cons, List.flatMap_cons, List.filter_append,
        List.filter_append]
      -- What is known of the mappings behind the first object.
      have behind : ∀ later : List Package, seen ⊆ later →
          (obj.content start).packageList.filter truthy ⊆ later →
            ∀ other : ConfigObject Package Value Ref,
              other.content (obj.pop mappings) = other.content start ∨
                (other.content (obj.pop mappings)).packageList = [] ∧
                  (other.content start).packageList.filter truthy ⊆ later := by
        intro later more shown other
        obtain untouched | ⟨rfl, isPopped⟩ := ConfigObject.content_pop mappings obj other
        · rw [untouched]
          exact (popped other).imp id fun before => ⟨before.1, List.Subset.trans before.2 more⟩
        · rw [isPopped]
          exact .inr ⟨rfl, shown⟩
      obtain same | ⟨empty, shown⟩ := popped obj
      · rw [same]
        have grown := fun item : Package => List.mem_append.trans
          (@or_comm (item ∈ (obj.content start).packageList.filter truthy) (item ∈ seen))
        rw [unseen_append fun item _ => by rw [List.map_id]; exact grown item,
          unseen_append fun item _ => by rw [List.map_id]; exact grown item]
        congr 1
        exact inductionHypothesis (behind _ (List.subset_append_right _ _)
          (List.subset_append_left _ _))
      · have nothing : unseen id seen ((obj.content start).packageList.filter truthy) = [] :=
          unseen_eq_nil fun item member => shown member
        rw [empty, List.filter_nil, List.nil_append, unseen_append fun item _ => ⟨.inl, ?_⟩,
          nothing, List.nil_append]
        · exact inductionHypothesis (behind seen (List.Subset.refl _) shown)
        · rintro (before | member)
          · exact before
          · rw [List.map_id] at member
            exact shown member

theorem packages_contents :
    firstOccurrences id (((contents mappings objs).flatMap CloudConfig.packageList).filter truthy) =
      firstOccurrences id
        (((objs.map (·.content mappings)).flatMap CloudConfig.packageList).filter truthy) :=
  unseen_contents fun _ => .inl rfl

end Objects

end Configs

end Tobiko.Openstack.Nova
