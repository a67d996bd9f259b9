import Tobiko.Openstack.Octavia.Waiters

/-!
Contract: `deploy_ipv4_lb` of `tobiko/openstack/octavia/_deployers.py`.

Owns: the names of the resources, the subnet of a new load balancer, and the deployment of the
load balancer, its listener, its pool and its members.

Does not own: the requests and the wait, and what a deployment leaves (`ResumedDeployment`).
-/

namespace Tobiko.Openstack.Octavia

open Tobiko.Common Tobiko.Common.Time Tobiko.Foundation

/-! ### Names -/

def amphoraProvider : Text := "amphora".toList
def ovnProvider : Text := "ovn".toList

/-- `OCTAVIA_PROVIDERS_NAMES`, with the prefixes of the members. -/
def octaviaProvidersNames (type : ResourceType) (provider : Text) : Option Text :=
  if provider = amphoraProvider then
    some <| match type with
      | .loadBalancer => "tobiko_octavia_amphora_lb".toList
      | .listener => "tobiko_octavia_http_listener".toList
      | .pool => "tobiko_octavia_http_pool".toList
      | .member => "tobiko_octavia_http_member".toList
  else if provider = ovnProvider then
    some <| match type with
      | .loadBalancer => "tobiko_octavia_ovn_lb".toList
      | .listener => "tobiko_octavia_tcp_listener".toList
      | .pool => "tobiko_octavia_tcp_pool".toList
      | .member => "tobiko_octavia_tcp_member".toList
  else
    none

/-! ### The external subnet -/

inductive LookupError (Exc : Type) where
  | objectNotFound
  | other (exception : Exc)

/-- What Neutron tells of the external networks: how many there are, the subnets of the one with
the given name, and the identifier of a subnet with an IP version. -/
structure ExternalNetworks (World Exc : Type) where
  listNetworks : World → Except Exc Nat
  findNetwork : Option Text → World → Except (LookupError Exc) (List Text)
  findSubnet : Text → Nat → World → Except (LookupError Exc) Text
  externalNetwork : Text

section Deployers

variable {World Id Exc : Type}

/-- The loop of `get_external_subnet`. -/
def ExternalNetworks.firstSubnet (networks : ExternalNetworks World Exc) (ipVersion : Nat)
    (world : World) : List Text → Except Exc (Option Text)
  | [] => .ok none
  | extSubnetId :: extSubnetList =>
      match networks.findSubnet extSubnetId ipVersion world with
      | .ok subnet => .ok (some subnet)
      | .error .objectNotFound => networks.firstSubnet ipVersion world extSubnetList
      | .error (.other exception) => .error exception

def ExternalNetworks.getExternalSubnet (networks : ExternalNetworks World Exc) (ipVersion : Nat)
    (world : World) : Except Exc (Option Text) := do
  let count ← networks.listNetworks world
  let name := if 1 < count then some networks.externalNetwork else none
  match networks.findNetwork name world with
  | .ok extSubnetList => networks.firstSubnet ipVersion world extSubnetList
  | .error .objectNotFound => .ok none
  | .error (.other exception) => .error exception

/-! ### The deployment -/

/-- What a member needs of the stack of its server. -/
structure ServerStack (Exc : Type) where
  fixedIpv4 : Except Exc Text
  ipv4SubnetId : Except Exc Text

/-- The arguments of `deploy_ipv4_lb`. -/
structure Deployment (Exc : Type) where
  provider : Text
  protocol : Text
  protocolPort : Int
  lbAlgorithm : Text
  serversStacks : Option (List (ServerStack Exc))

def skipReason : Text :=
  ("Replacing heat networking resources for octavia in tobiko wasn't implemented yet" :
    String).toList

variable [DecidableEq Id] (service : OctaviaService World Id Exc) (clock : Clock World)
  (conf : OctaviaConf) (networks : ExternalNetworks World Exc) (turns : Nat)
  (deployment : Deployment Exc)

def Deployment.nameOf (type : ResourceType) :
    Effect (DeployError Exc) (World × Cloud Id) Text :=
  match octaviaProvidersNames type deployment.provider with
  | some name => pure name
  | none => Effect.raise (.keyError deployment.provider)

/-- The arguments of the request for the load balancer. -/
def Deployment.lbKwargs (lbName : Text) :
    Effect (DeployError Exc) (World × Cloud Id) (CreateRequest Id) := do
  let (world, _) ← Effect.get
  match networks.getExternalSubnet 4 world with
  | .error exception => Effect.raise (.network exception)
  | .ok none => Effect.raise (.skipped skipReason)
  | .ok (some subnet) => pure (.loadBalancer deployment.provider subnet lbName)

/-- The arguments of the request for a member. -/
def Deployment.memberKwargs (serverStack : ServerStack Exc) (memberName : Text) (poolId : Id) :
    Effect (DeployError Exc) (World × Cloud Id) (CreateRequest Id) := do
  let address ← Effect.ofExcept (serverStack.fixedIpv4.mapError .stack)
  let subnetId ← Effect.ofExcept (serverStack.ipv4SubnetId.mapError .stack)
  pure (.member address deployment.protocolPort memberName subnetId poolId)

/-- What is done for each of the resources: one that is found is left as it is, and another one
is created, after which the load balancer is waited for. -/
def deployResource (key : ResourceKey Id)
    (kwargs : Effect (DeployError Exc) (World × Cloud Id) (CreateRequest Id))
    (lbId : Resource Id → Id) : Effect (DeployError Exc) (World × Cloud Id) (Resource Id) := do
  match ← service.find key with
  | some resource => pure resource
  | none =>
      let request ← kwargs
      let resource ← service.create request
      let _ ← waitForStatus service clock conf turns {} (lbId resource)
      pure resource

/-- The loop over `enumerate(servers_stacks)`. -/
def Deployment.deployMembers (lb pool : Resource Id) :
    Nat → List (ServerStack Exc) → Effect (DeployError Exc) (World × Cloud Id) Unit
  | _, [] => pure ()
  | idx, serverStack :: serversStacks => do
      let memberNamePrefix ← deployment.nameOf .member
      let memberName := memberNamePrefix ++ Nat.toDigits 10 idx
      let _ ← deployResource service clock conf turns ⟨.member, memberName, some pool.id⟩
        (deployment.memberKwargs serverStack memberName pool.id) fun _ => lb.id
      deployMembers lb pool (idx + 1) serversStacks

def Deployment.deployIpv4Lb :
    Effect (DeployError Exc) (World × Cloud Id) (Resource Id × Resource Id × Resource Id) := do
  let lbName ← deployment.nameOf .loadBalancer
  let lb ← deployResource service clock conf turns ⟨.loadBalancer, lbName, none⟩
    (deployment.lbKwargs networks lbName) fun lb => lb.id
  let listenerName ← deployment.nameOf .listener
  let listener ← deployResource service clock conf turns ⟨.listener, listenerName, none⟩
    (pure (.listener deployment.protocol deployment.protocolPort lb.id listenerName)) fun _ => lb.id
  let poolName ← deployment.nameOf .pool
  let pool ← deployResource service clock conf turns ⟨.pool, poolName, none⟩
    (pure (.pool listener.id deployment.lbAlgorithm deployment.protocol poolName)) fun _ => lb.id
  deployment.deployMembers service clock conf turns lb pool 0 (deployment.serversStacks.getD [])
  pure (lb, listener, pool)

end Deployers

end Tobiko.Openstack.Octavia
