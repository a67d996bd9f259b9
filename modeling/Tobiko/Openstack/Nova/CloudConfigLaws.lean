import Mathlib.Data.List.Flatten
import Tobiko.Openstack.Nova.CombinedConfigs

/-!
Contract: when `combine_cloud_configs` loses nothing of the configurations, and when it is
associative.

Owns: the commands of mappings that come again, the files to write, the items of sums, and the
two conditions.

Does not own: the combined configuration.
-/

namespace Tobiko.Openstack.Nova

open Tobiko.Foundation
open Tobiko.Shell.Sh
open Tobiko.Shell.Sh.Command (ShellCommandType)

section Laws

variable {Package Value Ref Entry : Type}

/-! ### Commands of popped mappings -/

theorem flatMap_eq_flatMap_iff {Item Part : Type} {items : List Item} {less more : Item → List Part}
    (parts : ∀ item, (less item).Sublist (more item)) :
    items.flatMap less = items.flatMap more ↔ ∀ item ∈ items, less item = more item := by
  induction items with
  | nil => exact iff_of_true rfl (List.forall_mem_nil _)
  | cons item items inductionHypothesis =>
      rw [List.flatMap_cons, List.flatMap_cons, List.forall_mem_cons, ← inductionHypothesis]
      constructor
      · intro same
        have others : (items.flatMap less).Sublist (items.flatMap more) :=
          List.Sublist.flatMap_right items fun item _ => parts item
        have lengths := congrArg List.length same
        rw [List.length_append, List.length_append] at lengths
        have headLength := (parts item).length_le
        have othersLength := others.length_le
        exact ⟨(parts item).eq_of_length (by omega), others.eq_of_length (by omega)⟩
      · rintro ⟨head, others⟩
        rw [head, others]

section Objects

variable [DecidableEq Ref] {mappings : Mappings Package Value Ref}
  {obj : ConfigObject Package Value Ref} {objs : List (ConfigObject Package Value Ref)}

theorem commands_content_pop (mappings : Mappings Package Value Ref)
    (obj other : ConfigObject Package Value Ref) :
    (other.content (obj.pop mappings)).commands.Sublist (other.content mappings).commands := by
  obtain untouched | ⟨-, popped⟩ := ConfigObject.content_pop mappings obj other
  · rw [untouched]
  · rw [popped]
    exact List.nil_sublist _

theorem commands_contents_sublist :
    ((contents mappings objs).flatMap CloudConfig.commands).Sublist
      (objs.flatMap fun obj => (obj.content mappings).commands) := by
  induction objs generalizing mappings with
  | nil => exact List.Sublist.slnil
  | cons obj objs inductionHypothesis =>
      rw [contents, List.flatMap_cons, List.flatMap_cons]
      refine (List.Sublist.refl _).append (inductionHypothesis.trans ?_)
      exact List.Sublist.flatMap_right objs fun other _ => commands_content_pop mappings obj other

/-- All commands are there exactly when no mapping with commands comes again. -/
theorem commands_contents_iff :
    (contents mappings objs).flatMap CloudConfig.commands =
        objs.flatMap (fun obj => (obj.content mappings).commands) ↔
      ∀ ref, List.Duplicate (.mapping ref) objs → (mappings ref).commands = [] := by
  induction objs generalizing mappings with
  | nil => exact iff_of_true rfl fun ref again => absurd again (List.not_duplicate_nil _)
  | cons obj objs inductionHypothesis =>
      have shrinks := commands_content_pop mappings obj
      have later : ((contents (obj.pop mappings) objs).flatMap CloudConfig.commands =
            objs.flatMap fun obj => (obj.content mappings).commands) ↔
          (contents (obj.pop mappings) objs).flatMap CloudConfig.commands =
            objs.flatMap (fun other => (other.content (obj.pop mappings)).commands) ∧
          objs.flatMap (fun other => (other.content (obj.pop mappings)).commands) =
            objs.flatMap fun other => (other.content mappings).commands := by
        refine ⟨fun same => ?_, fun both => both.1.trans both.2⟩
        have first := @commands_contents_sublist _ _ _ _ (obj.pop mappings) objs
        have second := List.Sublist.flatMap_right objs fun other _ => shrinks other
        rw [same] at first
        have equal := first.antisymm second
        exact ⟨same.trans equal, equal.symm⟩
      rw [contents, List.flatMap_cons, List.flatMap_cons, List.append_cancel_left_eq, later,
        inductionHypothesis, flatMap_eq_flatMap_iff shrinks]
      constructor
      · rintro ⟨once, same⟩ ref again
        obtain ⟨isObj, member⟩ | others := List.duplicate_cons_iff.mp again
        · have popped := same _ member
          rw [isObj, ConfigObject.content, ConfigObject.pop, Function.update_self] at popped
          exact popped.symm
        · rw [← once ref others]
          exact (same _ others.mem).symm
      · intro once
        have same : ∀ other ∈ objs,
            (other.content (obj.pop mappings)).commands = (other.content mappings).commands := by
          intro other member
          obtain untouched | ⟨rfl, popped⟩ := ConfigObject.content_pop mappings obj other
          · rw [untouched]
          · cases other with
            | pairs config => rfl
            | mapping ref =>
                have none := once ref (List.duplicate_cons_iff.mpr (.inl ⟨rfl, member⟩))
                rw [popped]
                exact none.symm
        refine ⟨fun ref others => ?_, same⟩
        rw [← once ref (others.duplicate_cons _)]
        exact same _ others.mem

end Objects

/-! ### Files to write -/

/-- The entries under a key. -/
def entriesOf (entries : Value → List Entry) (value : Option (Option Value)) : List Entry :=
  (value.join.map entries).getD []

section Files

variable {entries : Value → List Entry} {dicts : List (Dict String (Option Value))} {key : String}

theorem length_entriesOf_lastValue :
    (entriesOf entries (lastValue dicts key)).length ≤
      (dicts.flatMap fun dict => entriesOf entries (dict.get? key)).length := by
  induction dicts with
  | nil => exact Nat.le_refl _
  | cons dict dicts inductionHypothesis =>
      rw [lastValue_cons, List.flatMap_cons, List.length_append]
      cases last : lastValue dicts key with
      | none => exact Nat.le_add_right _ _
      | some value =>
          rw [last] at inductionHypothesis
          exact Nat.le_trans inductionHypothesis (Nat.le_add_left _ _)

theorem lastValue_eq_none : lastValue dicts key = none ↔ ∀ dict ∈ dicts, dict.get? key = none := by
  simp [lastValue]

/-- The last value has all the entries exactly when no earlier one has any. -/
theorem entriesOf_lastValue_iff :
    entriesOf entries (lastValue dicts key) =
        dicts.flatMap (fun dict => entriesOf entries (dict.get? key)) ↔
      dicts.Pairwise fun dict later =>
        entriesOf entries (dict.get? key) ≠ [] → later.get? key = none := by
  induction dicts with
  | nil => exact iff_of_true rfl List.Pairwise.nil
  | cons dict dicts inductionHypothesis =>
      have short := @length_entriesOf_lastValue _ _ entries dicts key
      rw [lastValue_cons, List.flatMap_cons, List.pairwise_cons, ← inductionHypothesis]
      cases last : lastValue dicts key with
      | none =>
          have nowhere := lastValue_eq_none.mp last
          have nothing : dicts.flatMap (fun dict => entriesOf entries (dict.get? key)) = [] := by
            rw [List.flatMap_eq_nil_iff]
            intro later member
            rw [nowhere later member]
            rfl
          rw [nothing, Option.none_or, List.append_nil]
          exact iff_of_true rfl ⟨fun later member _ => nowhere later member, rfl⟩
      | some value =>
          rw [last] at short
          rw [Option.some_or]
          constructor
          · intro same
            have lengths := congrArg List.length same
            rw [List.length_append] at lengths
            have empty : entriesOf entries (dict.get? key) = [] :=
              List.length_eq_zero_iff.mp (by omega)
            rw [empty, List.nil_append] at same
            exact ⟨fun later member some => absurd empty some, same⟩
          · rintro ⟨lost, same⟩
            have empty : entriesOf entries (dict.get? key) = [] := by
              by_contra present
              have nowhere := lastValue_eq_none.mpr fun later member => lost later member present
              rw [last] at nowhere
              cases nowhere
            rw [empty, List.nil_append]
            exact same

end Files

/-! ### What is lost -/

variable [DecidableEq Package]

/-- What the combined configuration has of these. -/
structure LosesNothing (truthy : Package → Bool) (entries : Value → List Entry)
    (configs : List (CloudConfig Package Value)) (combined : CloudConfig Package Value) : Prop where
  packages : combined.packageList =
    firstOccurrences id ((configs.flatMap CloudConfig.packageList).filter truthy)
  runcmd : combined.runcmd.getD [] =
    (configs.flatMap CloudConfig.commands).map ShellCommandType.arguments
  writeFiles : combined.writeFiles entries = configs.flatMap (CloudConfig.writeFiles entries)
  items : ∀ key, key ≠ "write_files" →
    combined.item key = (lastValue (configs.map CloudConfig.items) key).join

/-- Only the last configuration with `write_files` has entries, and no mapping with commands
comes again. -/
structure Mergeable (entries : Value → List Entry) (mappings : Mappings Package Value Ref)
    (objs : List (ConfigObject Package Value Ref)) : Prop where
  combinable : ∀ obj ∈ objs, (obj.content mappings).Combinable
  filesLast : (objs.map (·.content mappings)).Pairwise fun config later =>
    config.writeFiles entries ≠ [] → "write_files" ∉ later.items.keys
  commandsOnce : ∀ ref, List.Duplicate (.mapping ref) objs → (mappings ref).commands = []

/-- The combination ends, and nothing is lost. -/
def CombinesAll [DecidableEq Ref] (truthy : Package → Bool) (entries : Value → List Entry)
    (mappings : Mappings Package Value Ref) (objs : List (ConfigObject Package Value Ref)) : Prop :=
  ∃ combined, (combineCloudConfigs truthy objs mappings).1 = .ok combined ∧
    LosesNothing truthy entries (objs.map (·.content mappings)) combined

section IsCombined

variable {truthy : Package → Bool} {configs : List (CloudConfig Package Value)}
  {combined : CloudConfig Package Value}

theorem IsCombined.item (isCombined : IsCombined truthy configs combined) (key : String) :
    combined.item key = (lastValue (configs.map CloudConfig.items) key).join := by
  rw [CloudConfig.item, isCombined.items]
  cases lastValue (configs.map CloudConfig.items) key with
  | none => rfl
  | some value =>
      cases value with
      | none => rfl
      | some value => rfl

theorem IsCombined.writeFiles_iff (isCombined : IsCombined truthy configs combined)
    (entries : Value → List Entry) {others : List (CloudConfig Package Value)}
    (same : configs.map CloudConfig.items = others.map CloudConfig.items) :
    combined.writeFiles entries = others.flatMap (CloudConfig.writeFiles entries) ↔
      others.Pairwise fun config later =>
        config.writeFiles entries ≠ [] → "write_files" ∉ later.items.keys := by
  have files := @entriesOf_lastValue_iff _ _ entries (others.map CloudConfig.items) "write_files"
  rw [List.flatMap_map, List.pairwise_map] at files
  rw [CloudConfig.writeFiles, isCombined.item, same]
  refine files.trans (iff_of_eq ?_)
  congr 1
  funext config later
  rw [← Dict.isSome_get?, Option.not_isSome_iff_eq_none]
  rfl

end IsCombined

theorem combinesAll_iff [DecidableEq Ref] {truthy : Package → Bool} {entries : Value → List Entry}
    {mappings : Mappings Package Value Ref} {objs : List (ConfigObject Package Value Ref)} :
    CombinesAll truthy entries mappings objs ↔ Mergeable entries mappings objs := by
  by_cases combinable : ∀ obj ∈ objs, (obj.content mappings).Combinable
  · obtain ⟨combined, ends, isCombined⟩ := @combineCloudConfigs_of_combinable _ _ _ _ mappings objs
      _ truthy (combinable_contents_iff.mpr combinable)
    have files := isCombined.writeFiles_iff entries (@items_contents _ _ _ _ mappings objs)
    have commands : combined.runcmd.getD [] = ((objs.map (·.content mappings)).flatMap
          CloudConfig.commands).map ShellCommandType.arguments ↔
        ∀ ref, List.Duplicate (.mapping ref) objs → (mappings ref).commands = [] := by
      rw [← commands_contents_iff, isCombined.runcmd, getD_orNone, List.flatMap_map]
      exact (List.map_injective_iff.mpr fun _ _ => ShellCommandType.arguments.inj).eq_iff
    constructor
    · rintro ⟨other, otherEnds, losesNothing⟩
      rw [ends] at otherEnds
      obtain rfl := Except.ok.inj otherEnds
      exact ⟨combinable, files.mp losesNothing.writeFiles, commands.mp losesNothing.runcmd⟩
    · intro mergeable
      refine ⟨combined, ends, ?_, commands.mpr mergeable.commandsOnce,
        files.mpr mergeable.filesLast, fun key _ => ?_⟩
      · rw [CloudConfig.packageList, isCombined.packages, getD_orNone, packages_contents]
      · rw [isCombined.item, items_contents]
  · refine iff_of_false ?_ fun mergeable => combinable mergeable.combinable
    rintro ⟨combined, ends, -⟩
    exact combinable (combinable_contents_iff.mp (combinable_of_ok ends))

/-! ### Sums -/

section Sums

variable {truthy : Package → Bool} {left right sum : CloudConfig Package Value}

theorem CloudConfig.add_of_combinable (truthy : Package → Bool) (leftCombinable : left.Combinable)
    (rightCombinable : right.Combinable) :
    ∃ sum, left.add truthy right = .ok sum ∧ IsCombined truthy [left, right] sum := by
  refine combineCloudConfigs_of_combinable fun config member => ?_
  have listed : config ∈ [left, right] := member
  have either : config = left ∨ config = right := by simpa using listed
  obtain rfl | rfl := either
  · exact leftCombinable
  · exact rightCombinable

theorem CloudConfig.combinable_of_add (adds : left.add truthy right = .ok sum) :
    left.Combinable ∧ right.Combinable := by
  have combinable := combinable_of_ok adds
  exact ⟨combinable left List.mem_cons_self,
    combinable right (List.mem_cons_of_mem _ List.mem_cons_self)⟩

theorem nonEmptyCommands_arguments {commands : List (List Command.Text)}
    (nonempty : ∀ command ∈ commands, command ≠ []) :
    nonEmptyCommands (commands.map .arguments) = commands := by
  induction commands with
  | nil => rfl
  | cons command commands inductionHypothesis =>
      obtain ⟨some, others⟩ := List.forall_mem_cons.mp nonempty
      have rest := inductionHypothesis others
      rw [nonEmptyCommands] at rest ⊢
      rw [List.map_cons, List.filterMap_cons, rest]
      simp [Tobiko.Shell.Sh.Command.shellCommand, some]

theorem ne_nil_of_mem_nonEmptyCommands {cmdlines : List ShellCommandType} {command : List Command.Text}
    (member : command ∈ nonEmptyCommands cmdlines) : command ≠ [] := by
  obtain ⟨cmdline, -, found⟩ := List.mem_filterMap.mp member
  split at found
  · split at found
    · cases found
    · rename_i some
      cases found
      exact some
  · cases found

namespace IsCombined

variable (isSum : IsCombined truthy [left, right] sum)
include isSum

/-- The packages of a sum are true. -/
theorem filter_packageList : sum.packageList.filter truthy =
    firstOccurrences id (left.packageList.filter truthy ++ right.packageList.filter truthy) := by
  have packages : sum.packageList =
      firstOccurrences id ((left.packageList ++ right.packageList).filter truthy) := by
    rw [CloudConfig.packageList, isSum.packages, getD_orNone]
    simp
  rw [packages, ← List.filter_append, List.filter_eq_self]
  intro package member
  exact (List.mem_filter.mp (unseen_sublist.subset member)).2

theorem commands_sum : sum.commands = left.commands ++ right.commands := by
  rw [CloudConfig.commands, isSum.runcmd, getD_orNone, nonEmptyCommands_arguments]
  · simp
  · intro command member
    obtain ⟨config, -, inConfig⟩ := List.mem_flatMap.mp member
    exact ne_nil_of_mem_nonEmptyCommands inConfig

theorem get?_sum (key : String) : sum.items.get? key =
    ((right.items.get? key).or (left.items.get? key)).filter Option.isSome := by
  rw [isSum.items]
  exact congrArg (Option.filter Option.isSome) lastValue_pair

theorem readable_sum : sum.Readable := by
  intro cmdline member
  rw [isSum.runcmd, getD_orNone] at member
  obtain ⟨command, -, rfl⟩ := List.mem_map.mp member
  exact ⟨⟨command⟩, rfl⟩

theorem combinable_sum (leftCombinable : left.Combinable) (rightCombinable : right.Combinable) :
    sum.Combinable := by
  refine ⟨isSum.readable_sum, fun member => ?_⟩
  rw [← Dict.isSome_get?, isSum.get?_sum] at member
  have absent : ∀ config : CloudConfig Package Value, config.Combinable →
      config.items.get? "cls" = none := by
    intro config combinable
    rw [← Option.not_isSome_iff_eq_none, Dict.isSome_get?]
    exact combinable.named
  rw [absent left leftCombinable, absent right rightCombinable] at member
  cases member

end IsCombined

end Sums

/-- `(first + second) + third == first + (second + third)` -/
def AddsAssociatively (truthy : Package → Bool) (first second third : CloudConfig Package Value) :
    Prop :=
  ∃ left right leftSum rightSum, first.add truthy second = .ok left ∧
    second.add truthy third = .ok right ∧ left.add truthy third = .ok leftSum ∧
      first.add truthy right = .ok rightSum ∧ leftSum.Same rightSum

section Associativity

variable {truthy : Package → Bool}
  {first second third left right leftSum rightSum : CloudConfig Package Value}

/-- A value that has been taken for `None` in a sum lets an earlier one through. -/
theorem filter_or_filter_iff (one two three : Option (Option Value)) :
    (three.or ((two.or one).filter Option.isSome)).filter Option.isSome =
        (((three.or two).filter Option.isSome).or one).filter Option.isSome ↔
      (three.or two = some none → one.join = none) := by
  rcases three with _ | _ | three
  · rcases two with _ | _ | two
    · rcases one with _ | _ | one
      all_goals simp [Option.filter]
    · rcases one with _ | _ | one
      all_goals simp [Option.filter]
    · simp [Option.filter]
  · rcases one with _ | _ | one
    all_goals simp [Option.filter]
  · simp [Option.filter]

theorem same_iff (isLeft : IsCombined truthy [first, second] left)
    (isRight : IsCombined truthy [second, third] right)
    (isLeftSum : IsCombined truthy [left, third] leftSum)
    (isRightSum : IsCombined truthy [first, right] rightSum) :
    leftSum.Same rightSum ↔
      ∀ key, lastValue [second.items, third.items] key = some none → first.item key = none := by
  have packages : leftSum.packages = rightSum.packages := by
    rw [isLeftSum.packages, isRightSum.packages]
    simp only [List.flatMap_cons, List.flatMap_nil, List.append_nil, List.filter_append,
      isLeft.filter_packageList, isRight.filter_packageList]
    rw [firstOccurrences_append_left, firstOccurrences_append_right, List.append_assoc]
  have runcmd : leftSum.runcmd = rightSum.runcmd := by
    rw [isLeftSum.runcmd, isRightSum.runcmd]
    simp [isLeft.commands_sum, isRight.commands_sum]
  have items : ∀ key, leftSum.items.get? key = rightSum.items.get? key ↔
      (lastValue [second.items, third.items] key = some none → first.item key = none) := by
    intro key
    rw [isLeftSum.get?_sum, isRightSum.get?_sum, isLeft.get?_sum, isRight.get?_sum,
      filter_or_filter_iff, lastValue_pair, CloudConfig.item]
  constructor
  · exact fun same key => (items key).mp (same.items key)
  · exact fun gone => ⟨packages, runcmd, fun key => (items key).mpr (gone key)⟩

theorem addsAssociatively_iff : AddsAssociatively truthy first second third ↔
    (∀ config ∈ [first, second, third], config.Combinable) ∧
      ∀ key, lastValue [second.items, third.items] key = some none → first.item key = none := by
  by_cases combinable : first.Combinable ∧ second.Combinable ∧ third.Combinable
  · obtain ⟨one, two, three⟩ := combinable
    obtain ⟨left, leftAdds, isLeft⟩ := CloudConfig.add_of_combinable truthy one two
    obtain ⟨right, rightAdds, isRight⟩ := CloudConfig.add_of_combinable truthy two three
    obtain ⟨leftSum, leftEnds, isLeftSum⟩ :=
      CloudConfig.add_of_combinable truthy (isLeft.combinable_sum one two) three
    obtain ⟨rightSum, rightEnds, isRightSum⟩ :=
      CloudConfig.add_of_combinable truthy one (isRight.combinable_sum two three)
    have all : ∀ config ∈ [first, second, third], config.Combinable := by simp [one, two, three]
    rw [and_iff_right all, ← same_iff isLeft isRight isLeftSum isRightSum]
    constructor
    · rintro ⟨otherLeft, otherRight, otherLeftSum, otherRightSum, adds, addsRight, ends, endsRight,
        same⟩
      rw [leftAdds] at adds
      obtain rfl := Except.ok.inj adds
      rw [rightAdds] at addsRight
      obtain rfl := Except.ok.inj addsRight
      rw [leftEnds] at ends
      obtain rfl := Except.ok.inj ends
      rw [rightEnds] at endsRight
      obtain rfl := Except.ok.inj endsRight
      exact same
    · exact fun same =>
        ⟨left, right, leftSum, rightSum, leftAdds, rightAdds, leftEnds, rightEnds, same⟩
  · refine iff_of_false ?_ fun both => combinable ?_
    · rintro ⟨left, right, leftSum, rightSum, adds, addsRight, -, -, -⟩
      obtain ⟨one, two⟩ := CloudConfig.combinable_of_add adds
      exact combinable ⟨one, two, (CloudConfig.combinable_of_add addsRight).2⟩
    · simpa using both.1

end Associativity

/-- **Nothing is lost of the combined configurations exactly when only the last one with
`write_files` has files to write and no mapping with commands comes twice. Sums are associative
except where `None` hides a value.** -/
theorem combine_loses_nothing_iff [DecidableEq Ref] (truthy : Package → Bool)
    (entries : Value → List Entry) :
    (∀ (mappings : Mappings Package Value Ref) objs,
        CombinesAll truthy entries mappings objs ↔ Mergeable entries mappings objs) ∧
      ∀ first second third : CloudConfig Package Value,
        AddsAssociatively truthy first second third ↔
          (∀ config ∈ [first, second, third], config.Combinable) ∧
            ∀ key, lastValue [second.items, third.items] key = some none →
              first.item key = none :=
  ⟨fun _ _ => combinesAll_iff, fun _ _ _ => addsAssociatively_iff⟩

end Laws

/-- A configuration with one file to write. -/
def oneFile (path : String) : CloudConfig String (List String) where
  packages := none
  runcmd := none
  items := .ofPairs [("write_files", some [path])]
  other := by simp [OtherKeys, Dict.mem_keys_ofPairs]

/-- The file of the first configuration is not written. -/
theorem firstFile_lost :
    ¬∀ objs : List (ConfigObject String (List String) Empty),
      (∀ obj ∈ objs, (obj.content fun ref => ref.elim).Combinable) →
        CombinesAll (fun _ => true) id (fun ref => ref.elim) objs := by
  intro claimed
  have combinable : ∀ path, (oneFile path).Combinable := by
    intro path
    exact ⟨List.forall_mem_nil _, by simp [oneFile, Dict.mem_keys_ofPairs]⟩
  have combines := claimed [.pairs (oneFile "/etc/motd"), .pairs (oneFile "/etc/hosts")]
    (by simp [ConfigObject.content, combinable])
  have files := (combinesAll_iff.mp combines).filesLast
  simp only [List.map_cons, List.map_nil, ConfigObject.content, List.pairwise_cons] at files
  refine files.1 (oneFile "/etc/hosts") List.mem_cons_self ?_ ?_
  · decide
  · decide

end Tobiko.Openstack.Nova
