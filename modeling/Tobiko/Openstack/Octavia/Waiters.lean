import Tobiko.Common.RetryLimits
import Tobiko.Common.RetryLoop
import Tobiko.Foundation.Text

/-!
Contract: the requests to Octavia and `wait_for_status` of `tobiko/openstack/octavia/_waiters.py`.

Owns: the resources that exist in a cloud, the history of what was requested and observed of it,
the calls of `tobiko/openstack/octavia/_client.py`, and the wait for a load balancer.

Does not own: the service, which may let any call fail, and which resources are needed.
-/

namespace Tobiko.Openstack.Octavia

open Tobiko.Common Tobiko.Common.Time Tobiko.Foundation

inductive ResourceType where
  | loadBalancer
  | listener
  | pool
  | member
deriving DecidableEq

/-- How a resource is looked up; a member is one of a pool. -/
structure ResourceKey (Id : Type) where
  type : ResourceType
  name : Text
  pool : Option Id
deriving DecidableEq

structure Resource (Id : Type) where
  key : ResourceKey Id
  id : Id
deriving DecidableEq

/-- The arguments of the requests that create a resource. -/
inductive CreateRequest (Id : Type) where
  | loadBalancer (provider vipSubnetId name : Text)
  | listener (protocol : Text) (protocolPort : Int) (loadbalancerId : Id) (name : Text)
  | pool (listenerId : Id) (lbAlgorithm protocol name : Text)
  | member (address : Text) (protocolPort : Int) (name subnetId : Text) (pool : Id)
deriving DecidableEq

def CreateRequest.key {Id : Type} : CreateRequest Id → ResourceKey Id
  | .loadBalancer _ _ name => ⟨.loadBalancer, name, none⟩
  | .listener _ _ _ name => ⟨.listener, name, none⟩
  | .pool _ _ _ name => ⟨.pool, name, none⟩
  | .member _ _ name _ poolId => ⟨.member, name, some poolId⟩

/-- What happens between a client and the cloud: a request to create a resource, or a load
balancer that is seen with a provisioning status. -/
inductive CloudEvent (Id : Type) where
  | requested (request : CreateRequest Id)
  | observed (loadBalancer : Id) (provisioningStatus : Text)
deriving DecidableEq

/-- The resources, and all that has happened. -/
structure Cloud (Id : Type) where
  resources : List (Resource Id)
  events : List (CloudEvent Id)

/-- The fields of a load balancer that can be waited for. -/
structure LoadBalancerStatus where
  provisioningStatus : Text
  operatingStatus : Text

inductive StatusKey where
  | provisioningStatus
  | operatingStatus

def LoadBalancerStatus.get (response : LoadBalancerStatus) : StatusKey → Text
  | .provisioningStatus => response.provisioningStatus
  | .operatingStatus => response.operatingStatus

def active : Text := "ACTIVE".toList

inductive ServiceCall (Id : Type) where
  | find (key : ResourceKey Id)
  | create (request : CreateRequest Id)
  | getLoadBalancer (id : Id)

/-- The service. Any call may fail, and takes its time, in which a status can change. A new
resource gets an identifier that no other one has, so that no member belongs to it. -/
structure OctaviaService (World Id Exc : Type) where
  call : ServiceCall Id → World → Option Exc × World
  status : Id → World → LoadBalancerStatus
  newId : World → List (Resource Id) → Id
  newId_fresh : ∀ world resources, ∀ resource ∈ resources,
    resource.key.pool ≠ some (newId world resources)

/-- How a wait or a deployment raises. -/
inductive DeployError (Exc : Type) where
  | service (exception : Exc)
  | network (exception : Exc)
  | stack (exception : Exc)
  | keyError (key : Text)
  | skipped (reason : Text)
  | retryLimit (error : RetryLimitError)
  | brokenRetryLoop

section Service

variable {World Id Exc : Type} (service : OctaviaService World Id Exc)

/-- A call that failed, or the value that it gives with the state that it leaves. -/
def OctaviaService.calls {Value : Type} (call : ServiceCall Id)
    (answer : World → Cloud Id → Value × Cloud Id) :
    Effect (DeployError Exc) (World × Cloud Id) Value := do
  let answered ← Effect.update fun (world, cloud) =>
    match service.call call world with
    | (some exception, world) => (.error (.service exception), world, cloud)
    | (none, world) =>
        let (value, cloud) := answer world cloud
        (.ok value, world, cloud)
  Effect.ofExcept answered

def Cloud.find [DecidableEq Id] (cloud : Cloud Id) (key : ResourceKey Id) :
    Option (Resource Id) :=
  cloud.resources.find? fun resource => resource.key = key

/-- `find_load_balancer`, `find_listener`, `find_pool` and `find_member` -/
def OctaviaService.find [DecidableEq Id] (key : ResourceKey Id) :
    Effect (DeployError Exc) (World × Cloud Id) (Option (Resource Id)) :=
  service.calls (.find key) fun _ cloud => (cloud.find key, cloud)

/-- `create_load_balancer`, `create_listener`, `create_pool` and `create_member` -/
def OctaviaService.create (request : CreateRequest Id) :
    Effect (DeployError Exc) (World × Cloud Id) (Resource Id) :=
  service.calls (.create request) fun world cloud =>
    let resource : Resource Id := ⟨request.key, service.newId world cloud.resources⟩
    (resource, ⟨cloud.resources ++ [resource], cloud.events ++ [.requested request]⟩)

def OctaviaService.getLoadBalancer (id : Id) :
    Effect (DeployError Exc) (World × Cloud Id) LoadBalancerStatus :=
  service.calls (.getLoadBalancer id) fun world cloud =>
    let response := service.status id world
    (response, ⟨cloud.resources, cloud.events ++ [.observed id response.provisioningStatus]⟩)

/-- `CONF.tobiko.octavia` -/
structure OctaviaConf where
  checkTimeout : Int := 360
  checkInterval : Int := 5

/-- The arguments of `wait_for_status` besides the object. -/
structure StatusWait where
  statusKey : StatusKey := .provisioningStatus
  status : Text := active
  interval : Option ℚ := none
  timeout : Option ℚ := none

def StatusWait.retry (wait : StatusWait) (conf : OctaviaConf) : Retry :=
  Tobiko.Common.retry
    { otherRetry := none
      count := none
      timeout := wait.timeout
      sleepTime := none
      interval := wait.interval
      defaultCount := none
      defaultTimeout := some conf.checkTimeout
      defaultSleepTime := none
      defaultInterval := some conf.checkInterval }

def deployErrors : Retry.LoopErrors (DeployError Exc) := ⟨.retryLimit, .brokenRetryLoop⟩

/-- The body of the loop. -/
def waitTurn (wait : StatusWait) (objectId : Id) (attempt : RetryAttempt) (_locals : Unit) :
    Effect (DeployError Exc) (World × Cloud Id) (Retry.Turn Unit LoadBalancerStatus) := do
  let response ← service.getLoadBalancer objectId
  if response.get wait.statusKey = wait.status then
    pure (.leave response)
  else
    let _ ← Effect.ofExcept ((attempt.checkLimits none).mapError deployErrors.ofRaised)
    pure (.next ())

def waitForStatus (clock : Clock World) (conf : OctaviaConf) (turns : Nat) (wait : StatusWait)
    (objectId : Id) : Effect (DeployError Exc) (World × Cloud Id) LoadBalancerStatus :=
  (wait.retry conf).loop (clock.paired (Cloud Id)) deployErrors (waitTurn service wait objectId)
    turns ()

end Service

/-! ### What a call leaves -/

section Calls

variable {World Id Exc : Type} {service : OctaviaService World Id Exc}

/-- A call ends, either failed with the cloud as it was or with its answer. -/
theorem calls_eq {Value : Type} (call : ServiceCall Id)
    (answer : World → Cloud Id → Value × Cloud Id) (state : World × Cloud Id) :
    (∃ exception world, service.calls call answer state =
        some (.error (.service exception), world, state.2)) ∨
      ∃ world, service.calls call answer state =
        some (.ok (answer world state.2).1, world, (answer world state.2).2) := by
  obtain ⟨world, cloud⟩ := state
  simp only [OctaviaService.calls, bind, Effect.bind, Effect.update]
  cases service.call call world with
  | mk failure later =>
      cases failure with
      | some exception => exact .inl ⟨exception, later, rfl⟩
      | none => exact .inr ⟨later, rfl⟩

theorem calls_returned {Value : Type} {call : ServiceCall Id}
    {answer : World → Cloud Id → Value × Cloud Id} {state after : World × Cloud Id} {value : Value}
    (ran : service.calls call answer state = some (.ok value, after)) :
    ∃ world, value = (answer world state.2).1 ∧ after.2 = (answer world state.2).2 := by
  rcases calls_eq call answer state with ⟨exception, world, failed⟩ | ⟨world, passed⟩
  · rw [failed] at ran
    cases ran
  · rw [passed] at ran
    cases ran
    exact ⟨world, rfl, rfl⟩

theorem find_returned [DecidableEq Id] {key : ResourceKey Id} {state after : World × Cloud Id}
    {found : Option (Resource Id)} (ran : service.find key state = some (.ok found, after)) :
    found = state.2.find key ∧ after.2 = state.2 := by
  obtain ⟨world, value, left⟩ := calls_returned ran
  exact ⟨value, left⟩

/-- A new resource, to which no member belongs. -/
theorem create_returned {request : CreateRequest Id} {state after : World × Cloud Id}
    {resource : Resource Id} (ran : service.create request state = some (.ok resource, after)) :
    resource.key = request.key ∧
      after.2 = ⟨state.2.resources ++ [resource], state.2.events ++ [.requested request]⟩ ∧
      ∀ other ∈ state.2.resources, other.key.pool ≠ some resource.id := by
  obtain ⟨world, value, left⟩ := calls_returned ran
  subst value
  exact ⟨rfl, left, service.newId_fresh world state.2.resources⟩

/-- The events of a wait that has come to an end. -/
def waited (objectId : Id) (statuses : List Text) : List (CloudEvent Id) :=
  statuses.map (.observed objectId)

/-- What holds of the cloud while a wait goes on. -/
structure Waiting (objectId : Id) (start now : Cloud Id) : Prop where
  resources : now.resources = start.resources
  events : ∃ statuses, now.events = start.events ++ waited objectId statuses

theorem Waiting.observe {objectId : Id} {start now : Cloud Id}
    (waiting : Waiting objectId start now) (status : Text) :
    Waiting objectId start ⟨now.resources, now.events ++ [.observed objectId status]⟩ where
  resources := waiting.resources
  events := by
    obtain ⟨statuses, same⟩ := waiting.events
    refine ⟨statuses ++ [status], ?_⟩
    show now.events ++ _ = _
    rw [same, waited, waited, List.map_append, List.append_assoc]
    rfl

/-- The wait ended with the status that was waited for. -/
structure Seen (objectId : Id) (start after : Cloud Id) : Prop where
  resources : after.resources = start.resources
  events : ∃ statuses, after.events = start.events ++ waited objectId (statuses ++ [active])

theorem waitTurn_ensures (objectId : Id) (start : Cloud Id) (attempt : RetryAttempt)
    (locals : Unit) :
    Effect.Ensures (fun state => Waiting objectId start state.2)
      (waitTurn service {} objectId attempt locals)
      (Retry.Turn.Holds (fun _ state => Waiting objectId start state.2)
        fun _ state => Seen objectId start state.2)
      fun _ _ => True := by
  intro state waiting result after ended
  refine ⟨fun turn same => ?_, fun _ _ => trivial⟩
  subst same
  change Effect.bind _ _ state = _ at ended
  unfold Effect.bind OctaviaService.getLoadBalancer at ended
  rcases @calls_eq _ _ _ service _ (.getLoadBalancer objectId) (fun world cloud =>
      (service.status objectId world, ⟨cloud.resources, cloud.events ++
        [.observed objectId (service.status objectId world).provisioningStatus]⟩)) state with
    ⟨exception, world, failed⟩ | ⟨world, passed⟩
  · rw [failed] at ended
    cases ended
  · rw [passed] at ended
    dsimp only at ended
    have later := waiting.observe (service.status objectId world).provisioningStatus
    split at ended
    · rename_i reached
      cases ended
      obtain ⟨statuses, same⟩ := waiting.events
      refine ⟨waiting.resources, statuses, ?_⟩
      show state.2.events ++ [_] = _
      rw [same, waited, waited, List.map_append, List.append_assoc]
      show _ ++ (_ ++ [_]) = _ ++ (_ ++ [_])
      congr 4
    · change Effect.bind _ _ _ = _ at ended
      unfold Effect.bind at ended
      cases limits : (attempt.checkLimits none).mapError (@deployErrors Exc).ofRaised with
      | error error =>
          rw [limits] at ended
          cases ended
      | ok _ =>
          rw [limits] at ended
          cases ended
          exact later

/-- **What a wait leaves that returns:** the load balancer was seen active in the end. -/
theorem waitForStatus_returned {clock : Clock World} {conf : OctaviaConf} {turns : Nat}
    {objectId : Id} {state after : World × Cloud Id} {response : LoadBalancerStatus}
    (ran : waitForStatus service clock conf turns {} objectId state = some (.ok response, after)) :
    Seen objectId state.2 after.2 := by
  have ensures := @Retry.loop_ensures _ _ _ _ (({} : StatusWait).retry conf)
    (clock.paired (Cloud Id)) deployErrors (waitTurn service {} objectId) _ (fun _ _ => True)
    (fun _ other => Waiting objectId state.2 other.2) (fun _ => Retry.untimed_paired clock _)
    (waitTurn_ensures objectId state.2) (fun _ _ _ _ => trivial) turns ()
  refine (ensures state ⟨rfl, [], ?_⟩ _ _ ran).1 response rfl
  exact (List.append_nil _).symm

end Calls

end Tobiko.Openstack.Octavia
