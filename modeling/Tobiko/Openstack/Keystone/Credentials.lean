import Mathlib.Data.Finset.Basic
import Tobiko.Foundation.Dictionary
import Tobiko.Foundation.Effect

/-!
Contract: the credentials of `tobiko/openstack/keystone/_credentials.py`, and what
`keystone_credentials` makes of given ones and of parameters.

Owns: the fields of the credentials and their dictionaries, the three ways in which a base is given,
and exactly when the parameters override its fields.

Does not own: how a fixture is set up, and where the default credentials come from.
-/

namespace Tobiko.Openstack.Keystone

open Tobiko.Foundation

inductive CredentialsField where
  | authUrl
  | username
  | password
  | projectName
  | apiVersion
  | domainName
  | userDomainName
  | projectDomainName
  | projectDomainId
  | cacert
  | trustId
  deriving DecidableEq

namespace CredentialsField

def name : CredentialsField → String
  | authUrl => "auth_url"
  | username => "username"
  | password => "password"
  | projectName => "project_name"
  | apiVersion => "api_version"
  | domainName => "domain_name"
  | userDomainName => "user_domain_name"
  | projectDomainName => "project_domain_name"
  | projectDomainId => "project_domain_id"
  | cacert => "cacert"
  | trustId => "trust_id"

def all : List CredentialsField :=
  [authUrl, username, password, projectName, apiVersion, domainName, userDomainName,
    projectDomainName, projectDomainId, cacert, trustId]

/-- The fields without a default. -/
def required : List CredentialsField := [authUrl, username, password, projectName]

theorem nodup_names : (all.map name).Nodup := by decide

end CredentialsField

/-- `none` stands for `None`. -/
structure KeystoneCredentials (Value : Type) where
  authUrl : Option Value
  username : Option Value
  password : Option Value
  projectName : Option Value
  apiVersion : Option Value
  domainName : Option Value
  userDomainName : Option Value
  projectDomainName : Option Value
  projectDomainId : Option Value
  cacert : Option Value
  trustId : Option Value

inductive CredentialsError where
  /-- __new__() got an unexpected keyword argument -/
  | unexpectedArguments (names : List String)
  /-- __new__() missing required positional arguments -/
  | missingArguments (names : List String)
  | assertionError
  | external (text : String)
  deriving DecidableEq

abbrev CredentialsParams (Value : Type) : Type := Dict String (Option Value)

section Credentials

variable {Value : Type}

namespace KeystoneCredentials

def get (credentials : KeystoneCredentials Value) : CredentialsField → Option Value
  | .authUrl => credentials.authUrl
  | .username => credentials.username
  | .password => credentials.password
  | .projectName => credentials.projectName
  | .apiVersion => credentials.apiVersion
  | .domainName => credentials.domainName
  | .userDomainName => credentials.userDomainName
  | .projectDomainName => credentials.projectDomainName
  | .projectDomainId => credentials.projectDomainId
  | .cacert => credentials.cacert
  | .trustId => credentials.trustId

def ofFields (value : CredentialsField → Option Value) : KeystoneCredentials Value where
  authUrl := value .authUrl
  username := value .username
  password := value .password
  projectName := value .projectName
  apiVersion := value .apiVersion
  domainName := value .domainName
  userDomainName := value .userDomainName
  projectDomainName := value .projectDomainName
  projectDomainId := value .projectDomainId
  cacert := value .cacert
  trustId := value .trustId

theorem get_ofFields (value : CredentialsField → Option Value) (field : CredentialsField) :
    (ofFields value).get field = value field := by
  cases field <;> rfl

theorem ofFields_get (credentials : KeystoneCredentials Value) :
    ofFields credentials.get = credentials := rfl

/-- `_asdict()` -/
def asDict (credentials : KeystoneCredentials Value) : CredentialsParams Value :=
  ⟨CredentialsField.all.map fun field => (field.name, credentials.get field), by
    rw [List.map_map]
    exact CredentialsField.nodup_names⟩

/-- `to_dict`: the fields that are not `None`. -/
def toDict (credentials : KeystoneCredentials Value) : CredentialsParams Value :=
  credentials.asDict.filter fun _ value => value.isSome

/-- `KeystoneCredentials(**params)` -/
def init (params : CredentialsParams Value) :
    Except CredentialsError (KeystoneCredentials Value) :=
  let unexpected := params.keys.filter fun name => name ∉ CredentialsField.all.map CredentialsField.name
  let missing := (CredentialsField.required.map CredentialsField.name).filter fun name => name ∉ params.keys
  if unexpected ≠ [] then .error (.unexpectedArguments unexpected)
  else if missing ≠ [] then .error (.missingArguments missing)
  else .ok (ofFields fun field => (params.get? field.name).join)

end KeystoneCredentials

/-- The argument `credentials`. The class of a fixture stands for its fixture. -/
inductive GivenCredentials (Value : Type) where
  | none
  | tuple (credentials : KeystoneCredentials Value)
  | fixture

/-- The state is the attribute `credentials` of the fixture. -/
abbrev CredentialsCall (Value Result : Type) : Type :=
  Effect CredentialsError (Option (KeystoneCredentials Value)) Result

/-- What happens with parameters when there are credentials. -/
def overrideCredentials (credentials : KeystoneCredentials Value)
    (params : CredentialsParams Value) : Except CredentialsError (KeystoneCredentials Value) :=
  if params.keys = [] then .ok credentials
  else
    let params := credentials.toDict
    let params := params.update params
    KeystoneCredentials.init params

/-- `keystone_credentials`, with what sets up a fixture and with the default credentials. -/
def keystoneCredentials (setupFixture : CredentialsCall Value Unit)
    (defaultKeystoneCredentials : Except CredentialsError (KeystoneCredentials Value))
    (credentials : GivenCredentials Value) (params : CredentialsParams Value) :
    CredentialsCall Value (KeystoneCredentials Value) :=
  match credentials with
  | .none =>
      if params.keys = [] then Effect.ofExcept defaultKeystoneCredentials
      else Effect.ofExcept (KeystoneCredentials.init params)
  | .tuple credentials => Effect.ofExcept (overrideCredentials credentials params)
  | .fixture => do
      setupFixture
      match ← Effect.get with
      | none => Effect.raise .assertionError
      | some credentials => Effect.ofExcept (overrideCredentials credentials params)

/-! ### Dictionaries of credentials -/

namespace KeystoneCredentials

theorem get?_asDict (credentials : KeystoneCredentials Value) (field : CredentialsField) :
    credentials.asDict.get? field.name = some (credentials.get field) := by
  cases field <;> rfl

theorem get?_toDict (credentials : KeystoneCredentials Value) (field : CredentialsField) :
    credentials.toDict.get? field.name = (credentials.get field).map some := by
  rw [toDict, Dict.get?_filter, get?_asDict]
  cases credentials.get field with
  | none => rfl
  | some value => rfl

theorem mem_names_of_toDict {credentials : KeystoneCredentials Value} {name : String}
    (member : name ∈ credentials.toDict.keys) : name ∈ CredentialsField.all.map CredentialsField.name := by
  have within := Dict.mem_keys_of_filter member
  unfold asDict Dict.keys at within
  rwa [List.map_map] at within

/-- A base whose required fields are all there. -/
def Complete (credentials : KeystoneCredentials Value) : Prop :=
  ∀ field ∈ CredentialsField.required, (credentials.get field).isSome

theorem init_eq_ok_iff {params : CredentialsParams Value} {result : KeystoneCredentials Value} :
    init params = .ok result ↔
      ((∀ name ∈ params.keys, name ∈ CredentialsField.all.map CredentialsField.name) ∧
        ∀ field ∈ CredentialsField.required, field.name ∈ params.keys) ∧
      result = ofFields fun field => (params.get? field.name).join := by
  have unexpected : params.keys.filter (fun name => name ∉ CredentialsField.all.map CredentialsField.name) = [] ↔
      ∀ name ∈ params.keys, name ∈ CredentialsField.all.map CredentialsField.name := by
    rw [List.filter_eq_nil_iff]
    simp only [decide_eq_true_eq, not_not]
  have missing : (CredentialsField.required.map CredentialsField.name).filter (fun name => name ∉ params.keys) =
      [] ↔ ∀ field ∈ CredentialsField.required, field.name ∈ params.keys := by
    rw [List.filter_eq_nil_iff]
    simp only [decide_eq_true_eq, not_not, List.forall_mem_map]
  unfold init
  dsimp only
  split
  · rename_i others
    refine ⟨fun isError => (by cases isError), fun both => ?_⟩
    exact absurd (unexpected.mpr both.1.1) others
  · rename_i noOthers
    split
    · rename_i absent
      refine ⟨fun isError => (by cases isError), fun both => ?_⟩
      exact absurd (missing.mpr both.1.2) absent
    · rename_i noneAbsent
      rw [not_not] at noOthers noneAbsent
      constructor
      · intro same
        cases same
        exact ⟨⟨unexpected.mp noOthers, missing.mp noneAbsent⟩, rfl⟩
      · intro both
        rw [both.2]

end KeystoneCredentials

/-! ### The fields of the result -/

/-- Each field has the value of its parameter if there is one, and that of the base otherwise. -/
def Overridden (base : KeystoneCredentials Value) (params : CredentialsParams Value)
    (result : KeystoneCredentials Value) : Prop :=
  ∀ field : CredentialsField,
    result.get field = (params.get? field.name).getD (base.get field)

/-- No parameter changes anything. -/
def Agrees (base : KeystoneCredentials Value) (params : CredentialsParams Value) : Prop :=
  ∀ field : CredentialsField, ∀ value, params.get? field.name = some value →
    value = base.get field

section Verdict

variable {base : KeystoneCredentials Value} {params : CredentialsParams Value}

/-- The parameters are lost: what is returned is the base. -/
theorem overrideCredentials_eq_ok_iff (paramsGiven : params.keys ≠ [])
    {result : KeystoneCredentials Value} :
    overrideCredentials base params = .ok result ↔ base.Complete ∧
      ∀ field, result.get field = base.get field := by
  have sameGets : ∀ field : CredentialsField,
      ((base.toDict.update base.toDict).get? field.name).join = base.get field := by
    intro field
    rw [Dict.get?_update, Option.or_self, KeystoneCredentials.get?_toDict]
    cases base.get field with
    | none => rfl
    | some value => rfl
  have areNames : ∀ name ∈ (base.toDict.update base.toDict).keys,
      name ∈ CredentialsField.all.map CredentialsField.name := by
    intro name member
    rw [Dict.mem_keys_update, or_self] at member
    exact KeystoneCredentials.mem_names_of_toDict member
  have isComplete : (∀ field ∈ CredentialsField.required,
      field.name ∈ (base.toDict.update base.toDict).keys) ↔ base.Complete := by
    apply forall₂_congr
    intro field _
    rw [Dict.mem_keys_update, or_self, ← Dict.isSome_get?, KeystoneCredentials.get?_toDict,
      Option.isSome_map]
  unfold overrideCredentials
  dsimp only
  rw [if_neg paramsGiven, KeystoneCredentials.init_eq_ok_iff, isComplete]
  constructor
  · rintro ⟨⟨-, complete⟩, rfl⟩
    refine ⟨complete, fun field => ?_⟩
    rw [KeystoneCredentials.get_ofFields, sameGets]
  · rintro ⟨complete, same⟩
    refine ⟨⟨areNames, complete⟩, ?_⟩
    have values : (fun field : CredentialsField =>
        ((base.toDict.update base.toDict).get? field.name).join) = result.get := by
      funext field
      rw [sameGets, same]
    rw [values, KeystoneCredentials.ofFields_get]

theorem overridden_iff_agrees {result : KeystoneCredentials Value}
    (same : ∀ field, result.get field = base.get field) :
    Overridden base params result ↔ Agrees base params := by
  constructor
  · intro overridden field value given
    have fieldOverridden := overridden field
    rw [same, given, Option.getD_some] at fieldOverridden
    exact fieldOverridden.symm
  · intro agrees field
    rw [same]
    cases given : params.get? field.name with
    | none => rfl
    | some value => exact (agrees field value given).symm

theorem overridden_ok_iff (paramsGiven : params.keys ≠ []) :
    (∃ result, overrideCredentials base params = .ok result ∧ Overridden base params result) ↔
      base.Complete ∧ Agrees base params := by
  constructor
  · intro applied
    obtain ⟨result, returned, overridden⟩ := applied
    obtain ⟨complete, same⟩ := (overrideCredentials_eq_ok_iff paramsGiven).mp returned
    exact ⟨complete, (overridden_iff_agrees same).mp overridden⟩
  · intro both
    obtain ⟨complete, agrees⟩ := both
    have same : ∀ field, base.get field = base.get field := fun _ => rfl
    have returned : overrideCredentials base params = .ok base :=
      (overrideCredentials_eq_ok_iff paramsGiven).mpr ⟨complete, same⟩
    exact ⟨base, returned, (overridden_iff_agrees same).mpr agrees⟩

theorem returned_ofExcept_iff {result : Except CredentialsError (KeystoneCredentials Value)}
    {state : Option (KeystoneCredentials Value)} {credentials : KeystoneCredentials Value} :
    (Effect.ofExcept result : CredentialsCall Value _) state = some (.ok credentials, state) ↔
      result = .ok credentials := by
  constructor
  · intro ran
    exact (Effect.returned_ofExcept ran).1
  · rintro rfl
    rfl

/-- What is called with a base returns its fields, overridden, and leaves the state as `after`. -/
def Applied (call : CredentialsCall Value (KeystoneCredentials Value))
    (before after : Option (KeystoneCredentials Value)) (base : KeystoneCredentials Value)
    (params : CredentialsParams Value) : Prop :=
  ∃ result, call before = some (.ok result, after) ∧ Overridden base params result

variable (setupFixture : CredentialsCall Value Unit)
  (defaultKeystoneCredentials : Except CredentialsError (KeystoneCredentials Value))

theorem applied_tuple_iff (paramsGiven : params.keys ≠ [])
    (state : Option (KeystoneCredentials Value)) :
    Applied (keystoneCredentials setupFixture defaultKeystoneCredentials (.tuple base) params)
        state state base params ↔
      base.Complete ∧ Agrees base params := by
  rw [← overridden_ok_iff paramsGiven]
  apply exists_congr
  intro result
  exact and_congr_left fun _ => returned_ofExcept_iff

/-- A fixture that yields a base is as good as the base. -/
theorem keystoneCredentials_fixture {state : Option (KeystoneCredentials Value)}
    (yields : setupFixture state = some (.ok (), some base)) :
    keystoneCredentials setupFixture defaultKeystoneCredentials .fixture params state =
      keystoneCredentials setupFixture defaultKeystoneCredentials (.tuple base) params
        (some base) := by
  unfold keystoneCredentials
  dsimp only
  rw [Effect.bind_of_ok yields]
  rfl

theorem keystoneCredentials_none_iff (paramsGiven : params.keys ≠ [])
    (state : Option (KeystoneCredentials Value)) :
    (∃ result, keystoneCredentials setupFixture defaultKeystoneCredentials .none params state =
          some (.ok result, state) ∧
        ∀ field, result.get field = (params.get? field.name).join) ↔
      (∀ name ∈ params.keys, name ∈ CredentialsField.all.map CredentialsField.name) ∧
        ∀ field ∈ CredentialsField.required, field.name ∈ params.keys := by
  unfold keystoneCredentials
  dsimp only
  rw [if_neg paramsGiven]
  constructor
  · intro made
    obtain ⟨result, returned, -⟩ := made
    exact (KeystoneCredentials.init_eq_ok_iff.mp (returned_ofExcept_iff.mp returned)).1
  · intro wellNamed
    have made := KeystoneCredentials.init_eq_ok_iff.mpr ⟨wellNamed, rfl⟩
    refine ⟨_, returned_ofExcept_iff.mpr made, fun field => ?_⟩
    rw [KeystoneCredentials.get_ofFields]

/-- **The parameters take effect only where they change nothing: on a complete base they are
lost, and on a base that lacks a required field they raise. Without a base they are the fields.** -/
theorem keystoneCredentials_overridden_iff (paramsGiven : params.keys ≠ []) :
    (∀ base state,
      Applied (keystoneCredentials setupFixture defaultKeystoneCredentials (.tuple base) params)
          state state base params ↔
        base.Complete ∧ Agrees base params) ∧
    (∀ base state, setupFixture state = some (.ok (), some base) →
      (Applied (keystoneCredentials setupFixture defaultKeystoneCredentials .fixture params)
          state (some base) base params ↔
        base.Complete ∧ Agrees base params)) ∧
    ∀ state,
      (∃ result, keystoneCredentials setupFixture defaultKeystoneCredentials .none params state =
            some (.ok result, state) ∧
          ∀ field, result.get field = (params.get? field.name).join) ↔
        (∀ name ∈ params.keys, name ∈ CredentialsField.all.map CredentialsField.name) ∧
          ∀ field ∈ CredentialsField.required, field.name ∈ params.keys := by
  refine ⟨fun base state => ?_, fun base state yields => ?_, fun state => ?_⟩
  · exact applied_tuple_iff setupFixture defaultKeystoneCredentials paramsGiven state
  · unfold Applied
    rw [keystoneCredentials_fixture setupFixture defaultKeystoneCredentials yields]
    exact applied_tuple_iff setupFixture defaultKeystoneCredentials paramsGiven (some base)
  · exact keystoneCredentials_none_iff setupFixture defaultKeystoneCredentials paramsGiven state

end Verdict

end Credentials

/-- The credentials of a cloud. -/
def cloudCredentials (username : String) : KeystoneCredentials String where
  authUrl := some "http://127.0.0.1:5000/v3"
  username := some username
  password := some "secret"
  projectName := some "project"
  apiVersion := none
  domainName := none
  userDomainName := none
  projectDomainName := none
  projectDomainId := none
  cacert := none
  trustId := none

def usernameParam (username : String) : CredentialsParams String :=
  Dict.empty.set CredentialsField.username.name (some username)

/-- A fixture of credentials, and a user name that is the base's. -/
theorem keystoneCredentials_sameUsername :
    (usernameParam "admin").keys ≠ [] ∧
      (fun _ => some (.ok (), some (cloudCredentials "admin")) :
        CredentialsCall String Unit) none = some (.ok (), some (cloudCredentials "admin")) ∧
      Applied (keystoneCredentials (fun _ => some (.ok (), some (cloudCredentials "admin")))
          (.error .assertionError) .fixture (usernameParam "admin"))
        none (some (cloudCredentials "admin")) (cloudCredentials "admin")
        (usernameParam "admin") := by
  have paramsGiven : (usernameParam "admin").keys ≠ [] := by decide
  have verdict := keystoneCredentials_overridden_iff
    (fun _ => some (.ok (), some (cloudCredentials "admin"))) (.error .assertionError) paramsGiven
  refine ⟨paramsGiven, rfl, (verdict.2.1 (cloudCredentials "admin") none rfl).mpr ⟨?_, ?_⟩⟩
  · unfold KeystoneCredentials.Complete
    decide
  · intro field value given
    cases field <;> cases given
    rfl

/-- The user name that is given is lost: the base's is returned. -/
theorem keystoneCredentials_lost :
    ¬ Applied (keystoneCredentials (fun _ => some (.ok (), none)) (.error .assertionError)
        (.tuple (cloudCredentials "admin")) (usernameParam "demo"))
      none none (cloudCredentials "admin") (usernameParam "demo") := by
  rintro ⟨result, returned, overridden⟩
  have username := overridden .username
  have isBase : some (cloudCredentials "admin") = some result := by
    have asComputed : (some (.ok (cloudCredentials "admin"), none) :
        Option (Except CredentialsError _ × _)) = some (.ok result, none) := returned
    cases asComputed
    rfl
  cases isBase
  exact absurd username (by decide)

end Tobiko.Openstack.Keystone
