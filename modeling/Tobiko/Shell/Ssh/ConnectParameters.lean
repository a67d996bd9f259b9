import Tobiko.Foundation.Dictionary
import Tobiko.Foundation.Effect

/-!
Contract: how `SSHClientFixture` gathers the parameters of its connection.

Owns: the dictionaries of schemas and parameters as objects of a memory, the loop over the names of a
schema, the four sources and their order, the property `hostname` that reads the parameters again,
and the use of other parameters for a while.

Does not own: the functions of the schema, the lookup of a host in the configuration files, and
keyword arguments that are named like the parameters of `gather_ssh_connect_parameters`.
-/

namespace Tobiko.Shell.Ssh

open Tobiko.Foundation

inductive ParametersError (Value : Type) where
  /-- Invalid SSH connection parameters: {!r} -/
  | invalidParameters (kwargs : Dict String (Option Value))
  | keyError (name : String)
  | recursionError
  | external (text : String)

/-- A function of a schema. `none` is `None`. -/
abbrev Init (Value : Type) : Type := Value → Except (ParametersError Value) (Option Value)

abbrev Schema (Value : Type) : Type := Dict String (Init Value)

abbrev Parameters (Value : Type) : Type := Dict String (Option Value)

/-- The fixture, among the dictionaries that there are. -/
structure FixtureState (Value : Type) where
  schemas : List (Schema Value)
  mappings : List (Parameters Value)
  schema : Nat
  /-- `_connect_parameters` -/
  initialParameters : Nat
  connectParameters : Option Nat
  globalHostConfig : Option (Parameters Value)
  hostConfig : Option (Parameters Value)
  /-- The other attributes. -/
  attributes : String → Option Value
  schemaThere : schema < schemas.length
  initialThere : initialParameters < mappings.length

abbrev Gathering (Value Result : Type) : Type :=
  Effect (ParametersError Value) (FixtureState Value) Result

section Memory

variable {Value : Type}

def FixtureState.schemaAt (state : FixtureState Value) (address : Nat) : Schema Value :=
  state.schemas[address]?.getD .empty

def FixtureState.mappingAt (state : FixtureState Value) (address : Nat) : Parameters Value :=
  state.mappings[address]?.getD .empty

/-- The content of `_connect_parameters`. -/
def FixtureState.initial (state : FixtureState Value) : Parameters Value :=
  state.mappingAt state.initialParameters

def FixtureState.addSchema (state : FixtureState Value) (content : Schema Value) :
    FixtureState Value :=
  { state with
    schemas := state.schemas ++ [content]
    schemaThere := by
      rw [List.length_append]
      exact Nat.lt_add_right _ state.schemaThere }

def FixtureState.addMapping (state : FixtureState Value) (content : Parameters Value) :
    FixtureState Value :=
  { state with
    mappings := state.mappings ++ [content]
    initialThere := by
      rw [List.length_append]
      exact Nat.lt_add_right _ state.initialThere }

def FixtureState.setSchema (state : FixtureState Value) (address : Nat) (content : Schema Value) :
    FixtureState Value :=
  { state with
    schemas := state.schemas.set address content
    schemaThere := by
      rw [List.length_set]
      exact state.schemaThere }

def FixtureState.setMapping (state : FixtureState Value) (address : Nat)
    (content : Parameters Value) : FixtureState Value :=
  { state with
    mappings := state.mappings.set address content
    initialThere := by
      rw [List.length_set]
      exact state.initialThere }

/-- `self._connect_parameters = content` -/
def FixtureState.assignInitial (state : FixtureState Value) (content : Parameters Value) :
    FixtureState Value :=
  { state with
    mappings := state.mappings ++ [content]
    initialParameters := state.mappings.length
    initialThere := by
      rw [List.length_append]
      exact Nat.lt_add_one _ }

def newSchema (content : Schema Value) : Gathering Value Nat :=
  Effect.update fun state => (state.schemas.length, state.addSchema content)

def newMapping (content : Parameters Value) : Gathering Value Nat :=
  Effect.update fun state => (state.mappings.length, state.addMapping content)

end Memory

section Gathering

variable {Value : Type}

/-- `for name in names: del schema[name]` -/
def deleteFromSchema (schema : Nat) : List String → Gathering Value Unit
  | [] => pure ()
  | name :: names => do
      let state ← Effect.get
      if name ∈ (state.schemaAt schema).keys then
        Effect.modify fun state => state.setSchema schema ((state.schemaAt schema).erase name)
        deleteFromSchema schema names
      else Effect.raise (.keyError name)

/-- `_items_from_mapping` and `_items_from_object`, into the parameters that there are. -/
def itemsFrom (lookup : String → Gathering Value (Option Value)) :
    List (String × Init Value) → Parameters Value → Gathering Value (Parameters Value)
  | [], parameters => pure parameters
  | (name, init) :: items, parameters => do
      match ← lookup name with
      | none => itemsFrom lookup items parameters
      | some value =>
          let value ← Effect.ofExcept (init value)
          itemsFrom lookup items (parameters.set name value)

inductive Source (Value : Type) where
  | mapping (mapping : Parameters Value)
  | fixture

/-- `mapping.get(name)` -/
def getItem (mapping : Parameters Value) (name : String) : Gathering Value (Option Value) :=
  pure (mapping.get? name).join

variable (readHostname : Gathering Value (Option Value))

/-- `getattr(obj, name, None)` -/
def getAttribute (name : String) : Gathering Value (Option Value) :=
  if name = "hostname" then readHostname
  else do
    let state ← Effect.get
    pure (state.attributes name)

/-- An empty mapping is false. -/
def itemsFromSource (source : Option (Source Value)) (schema : Schema Value) :
    Gathering Value (Parameters Value) :=
  match source with
  | none => pure .empty
  | some (.mapping mapping) =>
      if mapping.keys = [] then pure .empty
      else itemsFrom (getItem mapping) schema.entries .empty
  | some .fixture => itemsFrom (getAttribute readHostname) schema.entries .empty

/-- `exclude_mapping_items` -/
def excludeMappingItems (mapping : Parameters Value) (exclude : Schema Value) :
    Parameters Value :=
  mapping.filter fun name _ => name ∉ exclude.keys

def itemsFromKwargs (kwargs : Parameters Value) (schema : Nat) (parameters : Parameters Value) :
    Gathering Value (Parameters Value) :=
  if kwargs.keys = [] then pure parameters
  else do
    let state ← Effect.get
    let parameters ← itemsFrom (getItem kwargs) (state.schemaAt schema).entries parameters
    let kwargs := excludeMappingItems kwargs (state.schemaAt schema)
    if kwargs.keys = [] then pure parameters else Effect.raise (.invalidParameters kwargs)

def gatherSshConnectParameters (source : Option (Source Value)) (kwargs : Parameters Value)
    (destination schema : Nat) (removeFromSchema : Bool) :
    Gathering Value (Parameters Value) := do
  let state ← Effect.get
  let parameters ← itemsFromSource readHostname source (state.schemaAt schema)
  let parameters ← itemsFromKwargs kwargs schema parameters
  deleteFromSchema schema (if removeFromSchema then parameters.keys else [])
  Effect.modify fun state =>
    state.setMapping destination ((state.mappingAt destination).update parameters)
  pure parameters

/-! ### The sources -/

def gatherMapping (mapping : Option (Parameters Value)) (destination schema : Nat) :
    Gathering Value Unit :=
  match mapping with
  | none => pure ()
  | some mapping => do
      let _ ← gatherSshConnectParameters readHostname (some (.mapping mapping)) .empty destination
        schema true
      pure ()

def gatherInitialConnectParameters (destination schema : Nat) : Gathering Value Unit := do
  let state ← Effect.get
  gatherMapping readHostname (if state.initial.keys = [] then none else some state.initial)
    destination schema

def gatherGlobalHostConfigConnectParameters (destination schema : Nat) :
    Gathering Value Unit := do
  let state ← Effect.get
  gatherMapping readHostname state.globalHostConfig destination schema

def gatherHostConfigConnectParameters (destination schema : Nat) : Gathering Value Unit := do
  let state ← Effect.get
  gatherMapping readHostname state.hostConfig destination schema

def gatherDefaultConnectParameters (destination schema : Nat) : Gathering Value Unit := do
  let _ ← gatherSshConnectParameters readHostname (some .fixture) .empty destination schema true
  pure ()

/-- `schema or self.schema` -/
def FixtureState.schemaOr (state : FixtureState Value) (schema : Option Nat) : Schema Value :=
  match schema with
  | none => state.schemaAt state.schema
  | some schema =>
      if (state.schemaAt schema).keys = [] then state.schemaAt state.schema
      else state.schemaAt schema

def getConnectParametersWith (schema : Option Nat) : Gathering Value Nat := do
  let state ← Effect.get
  let schema ← newSchema (state.schemaOr schema)
  let parameters ← newMapping .empty
  gatherInitialConnectParameters readHostname parameters schema
  gatherGlobalHostConfigConnectParameters readHostname parameters schema
  gatherHostConfigConnectParameters readHostname parameters schema
  gatherDefaultConnectParameters readHostname parameters schema
  pure parameters

end Gathering

section Fixture

variable {Value : Type} (lookupHost : Except (ParametersError Value) (Parameters Value))

def setConnectParameters (parameters : Nat) : Gathering Value Unit :=
  Effect.modify fun state => { state with connectParameters := some parameters }

/-- The property `hostname`, at so many calls below the limit of the recursion. -/
def readHostname : Nat → Gathering Value (Option Value)
  | 0 => Effect.raise .recursionError
  | depth + 1 => do
      let config ← Effect.ofExcept lookupHost
      Effect.modify fun state => { state with globalHostConfig := some config }
      let parameters ← getConnectParametersWith (readHostname depth) none
      setConnectParameters parameters
      let state ← Effect.get
      match (state.mappingAt parameters).get? "hostname" with
      | none => Effect.raise (.keyError "hostname")
      | some hostname => pure hostname

def getConnectParameters (depth : Nat) (schema : Option Nat) : Gathering Value Nat :=
  getConnectParametersWith (readHostname lookupHost depth) schema

/-! ### Other parameters for a while -/

/-- Up to `yield`. It gives `restore_parameters`. -/
def enterConnectParameters (depth : Nat) (kwargs : Parameters Value) :
    Gathering Value (Option (Parameters Value)) := do
  if kwargs.keys = [] then pure none
  else
    let state ← Effect.get
    let _ ← gatherSshConnectParameters (readHostname lookupHost depth) none kwargs
      state.initialParameters state.schema false
    let parameters ← getConnectParameters lookupHost depth none
    setConnectParameters parameters
    pure (some state.initial)

/-- `finally` -/
def leaveConnectParameters (depth : Nat) (restoreParameters : Option (Parameters Value)) :
    Gathering Value Unit :=
  match restoreParameters with
  | none => pure ()
  | some restoreParameters => do
      Effect.modify fun state => state.assignInitial restoreParameters
      let parameters ← getConnectParameters lookupHost depth none
      setConnectParameters parameters

def useConnectParameters {Result : Type} (depth : Nat) (kwargs : Parameters Value)
    (body : Gathering Value Result) : Gathering Value Result := do
  let restoreParameters ← enterConnectParameters lookupHost depth kwargs
  let ended ← body.attempt
  leaveConnectParameters lookupHost depth restoreParameters
  Effect.ofExcept ended

end Fixture

end Tobiko.Shell.Ssh
