import Tobiko.Foundation.Dictionary
import Tobiko.Foundation.FirstOccurrences
import Tobiko.Shell.Sh.Command

/-!
Contract: `combine_cloud_configs` and `CloudConfig` in `tobiko/openstack/nova/_cloud_init.py`.

Owns: the mappings that are combined and what is popped from them, the combined configuration,
and what it has of each of the combined ones.

Does not own: the YAML of a configuration, and how its lists are filled.
-/

namespace Tobiko.Openstack.Nova

open Tobiko.Foundation
open Tobiko.Foundation.Shlex (LexError)
open Tobiko.Shell.Sh
open Tobiko.Shell.Sh.Command (ShellCommandType shellCommand)

/-! ### Configurations -/

/-- Keys of items other than `packages` and `runcmd`. -/
def OtherKeys (keys : List String) : Prop := "packages" ∉ keys ∧ "runcmd" ∉ keys

/-- The lists under `packages` and `runcmd`, if these keys are there, and the other items, in
which `none` is `None`. -/
structure CloudConfig (Package Value : Type) where
  packages : Option (List Package)
  runcmd : Option (List ShellCommandType)
  items : Dict String (Option Value)
  other : OtherKeys items.keys

/-- The errors of `shell_command`, and of a keyword argument that `create` gets twice. -/
inductive CombineError where
  | valueError (error : LexError)
  | typeError (message : String)
  deriving DecidableEq

section Combine

variable {Package Value Ref : Type}

namespace CloudConfig

def empty : CloudConfig Package Value := ⟨none, none, .empty, by simp [OtherKeys]⟩

/-- `not obj` -/
def isEmpty (config : CloudConfig Package Value) : Bool :=
  config.packages.isNone && config.runcmd.isNone && config.items.keys.isEmpty

/-- What the two `obj.pop(...)` leave of a mapping. -/
def popped (config : CloudConfig Package Value) : CloudConfig Package Value :=
  { config with packages := none, runcmd := none }

/-- `config.get(key)`, for the other keys. -/
def item (config : CloudConfig Package Value) (key : String) : Option Value :=
  (config.items.get? key).join

end CloudConfig

/-- `packages`, `runcmd` and `extra_params`. -/
structure Merged (Package Value : Type) where
  packages : List Package
  runcmd : List (List Command.Text)
  extraParams : Dict String (Option Value)
  other : OtherKeys extraParams.keys

namespace Merged

def init : Merged Package Value := ⟨[], [], .empty, by simp [OtherKeys]⟩

/-- The loop over the packages of a configuration. -/
def addPackages [DecidableEq Package] (truthy : Package → Bool) :
    List Package → List Package → List Package
  | [], packages => packages
  | package :: others, packages =>
      addPackages truthy others
        (if truthy package ∧ package ∉ packages then packages ++ [package] else packages)

/-- The loop over the command lines of a configuration. -/
def addCommands : List ShellCommandType → List (List Command.Text) → Except LexError (List (List Command.Text))
  | [], runcmd => .ok runcmd
  | cmdline :: others, runcmd =>
      if cmdline.truthy then
        match shellCommand cmdline with
        | .error error => .error error
        | .ok command =>
            addCommands others
              (if command.arguments ≠ [] then runcmd ++ [command.arguments] else runcmd)
      else addCommands others runcmd

theorem other_update {left right : Dict String (Option Value)} (leftOther : OtherKeys left.keys)
    (rightOther : OtherKeys right.keys) : OtherKeys (left.update right).keys := by
  constructor
  · rw [Dict.mem_keys_update, not_or]
    exact ⟨leftOther.1, rightOther.1⟩
  · rw [Dict.mem_keys_update, not_or]
    exact ⟨leftOther.2, rightOther.2⟩

/-- The body of the loop, for a configuration with this content. -/
def add [DecidableEq Package] (truthy : Package → Bool) (merged : Merged Package Value)
    (config : CloudConfig Package Value) : Except LexError (Merged Package Value) :=
  match addCommands (config.runcmd.getD []) merged.runcmd with
  | .error error => .error error
  | .ok runcmd =>
      .ok ⟨addPackages truthy (config.packages.getD []) merged.packages, runcmd,
        merged.extraParams.update config.items, other_update merged.other config.other⟩

/-- `CloudConfig.create(packages=packages or None, runcmd=runcmd or None, **extra_params)`, which
leaves out what is `None`. -/
def create (merged : Merged Package Value) :
    Except CombineError (CloudConfig Package Value) :=
  if "cls" ∈ merged.extraParams.keys then
    .error (.typeError "create() got multiple values for argument 'cls'")
  else
    .ok {
      packages := if merged.packages = [] then none else some merged.packages
      runcmd := if merged.runcmd = [] then none else some (merged.runcmd.map .arguments)
      items := merged.extraParams.filter fun _ value => value.isSome
      other := ⟨fun member => merged.other.1 (Dict.mem_keys_of_filter member),
        fun member => merged.other.2 (Dict.mem_keys_of_filter member)⟩ }

end Merged

/-! ### The combined objects -/

/-- A mapping that the caller holds, or what `dict(obj)` makes of another object. -/
inductive ConfigObject (Package Value Ref : Type) where
  | mapping (ref : Ref)
  | pairs (config : CloudConfig Package Value)

/-- The contents of the mappings. -/
abbrev Mappings (Package Value Ref : Type) := Ref → CloudConfig Package Value

variable [DecidableEq Package] [DecidableEq Ref]

namespace ConfigObject

def content (mappings : Mappings Package Value Ref) :
    ConfigObject Package Value Ref → CloudConfig Package Value
  | mapping ref => mappings ref
  | pairs config => config

/-- `obj.pop('packages', [])` and `obj.pop('runcmd', [])`, which change the mapping itself. -/
def pop (mappings : Mappings Package Value Ref) :
    ConfigObject Package Value Ref → Mappings Package Value Ref
  | mapping ref => Function.update mappings ref (mappings ref).popped
  | pairs _ => mappings

end ConfigObject

/-- The loop over the objects. -/
def combineFrom (truthy : Package → Bool) : List (ConfigObject Package Value Ref) →
    Merged Package Value → Mappings Package Value Ref →
      Except LexError (Merged Package Value) × Mappings Package Value Ref
  | [], merged, mappings => (.ok merged, mappings)
  | obj :: objs, merged, mappings =>
      if (obj.content mappings).isEmpty then combineFrom truthy objs merged mappings
      else
        match merged.add truthy (obj.content mappings) with
        | .error error => (.error error, obj.pop mappings)
        | .ok merged => combineFrom truthy objs merged (obj.pop mappings)

/-- `combine_cloud_configs(objs)`, with the mappings that it leaves. -/
def combineCloudConfigs (truthy : Package → Bool) (objs : List (ConfigObject Package Value Ref))
    (mappings : Mappings Package Value Ref) :
    Except CombineError (CloudConfig Package Value) × Mappings Package Value Ref :=
  match combineFrom truthy objs .init mappings with
  | (.error error, after) => (.error (.valueError error), after)
  | (.ok merged, after) => (merged.create, after)

/-- `left + right` -/
def CloudConfig.add (truthy : Package → Bool) (left right : CloudConfig Package Value) :
    Except CombineError (CloudConfig Package Value) :=
  (combineCloudConfigs truthy [.pairs left, .pairs right] fun (ref : Empty) => ref.elim).1

end Combine

end Tobiko.Openstack.Nova
