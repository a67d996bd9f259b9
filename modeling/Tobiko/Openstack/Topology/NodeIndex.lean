import Mathlib.Data.List.Basic
import Tobiko.Foundation.Dictionary

/-!
Contract: the nodes of `OpenStackTopology` in `tobiko/openstack/topology/_topology.py`.

Owns: `add_node`, `_add_node`, `get_node` and `add_group` with the three indexes of nodes
that they keep, and the selection of nodes by address and host name.

Does not own: how an SSH connection is made and what runs on a node. The host name and the
addresses that a node reports are any function of its SSH client.
-/

namespace Tobiko.Openstack.Topology

open Tobiko.Foundation

structure Node (Client Address : Type) where
  name : String
  hostname : String
  sshClient : Option Client
  addresses : List Address
  groups : List String

/-- Everything that the topology asks for: `str.lower`, the addresses of a host, whether an
address has the configured version, and the host name and the global addresses that a client
reports, with `none` where that raises. -/
structure World (Client Address : Type) where
  lower : String → String
  listHostAddresses : String → List Address
  hasIpVersion : Address → Bool
  getHostname : Option Client → Option String
  listIpAddresses : Client → Option (List Address)

/-- `nodes` are all the nodes ever created. The indexes refer to them by their place. -/
structure OpenStackTopology (Client Address : Type) where
  nodes : List (Node Client Address)
  names : Dict String Nat
  groups : Dict String (List Nat)
  addresses : Dict Address Nat

def OpenStackTopology.init {Client Address : Type} : OpenStackTopology Client Address :=
  ⟨[], .empty, .empty, .empty⟩

inductive TopologyError where
  | noSuchNode
  | unreachable
  | noHostname
  | noAddresses
deriving DecidableEq, Repr

/-- What `_list_addresses` takes. -/
inductive AddressArgument (Address : Type) where
  | host (name : String)
  | address (address : Address)
  | selection (addresses : List Address)

/-- The arguments of `add_node`, with the client that `_ssh_connect` gives unless it
raises. -/
structure Arguments (Client : Type) where
  hostname : Option String
  address : Option String
  group : Option String
  sshClient : Option Client
  createSshClient : Bool
  connected : Option Client

/-- `text or None` -/
def orNone (text : Option String) : Option String := text.filter (· ≠ "")

section Operations

variable {Client Address : Type} [DecidableEq Address] (world : World Client Address)

/-- `node_name_from_hostname` -/
def World.nodeNameFromHostname (hostname : String) : String :=
  world.lower (String.ofList (hostname.toList.takeWhile (· ≠ '.')))

/-- `_list_addresses` -/
def World.listAddresses : AddressArgument Address → List Address
  | .host name => (world.listHostAddresses name).filter world.hasIpVersion
  | .address address => [address].filter world.hasIpVersion
  | .selection addresses => addresses.filter world.hasIpVersion

/-- `get_node` -/
def OpenStackTopology.getNode (topology : OpenStackTopology Client Address)
    (name hostname : Option String) (address : Option (AddressArgument Address)) :
    Except TopologyError Nat :=
  let name := name.or (hostname.map world.nodeNameFromHostname)
  match name.bind topology.names.get? with
  | some node => .ok node
  | none =>
      match (address.map world.listAddresses).getD [] |>.findSome? topology.addresses.get? with
      | some node => .ok node
      | none => .error .noSuchNode

/-- What `add_node` knows before it looks for the node. -/
structure Request (Client Address : Type) where
  hostname : Option String
  sshClient : Option Client
  addresses : List Address

/-- The first part of `add_node`. -/
def World.request (arguments : Arguments Client) : Request Client Address :=
  let addresses := ((orNone arguments.address).map fun address =>
    world.listAddresses (.host address)).getD []
  match arguments.sshClient with
  | none => ⟨arguments.hostname, none, addresses.eraseDups⟩
  | some client =>
      match world.getHostname (some client) with
      | some hostname => ⟨some hostname, some client, addresses.eraseDups⟩
      | none => ⟨arguments.hostname, none, addresses.eraseDups⟩

/-- `hostname and node_name_from_hostname(hostname) or None` -/
def World.requestedName (request : Request Client Address) : Option String :=
  orNone ((orNone request.hostname).map world.nodeNameFromHostname)

/-- What `_add_node` finds out about the node. -/
structure Details (Client Address : Type) where
  name : String
  hostname : String
  sshClient : Option Client
  addresses : List Address

/-- The first part of `_add_node`. -/
def World.details (arguments : Arguments Client) (request : Request Client Address) :
    Except TopologyError (Details Client Address) := do
  let sshClient ← match request.sshClient with
    | some client => .ok (some client)
    | none =>
        if arguments.createSshClient then
          match arguments.connected with
          | some client => .ok (some client)
          | none => .error .unreachable
        else .ok none
  let reported ← match sshClient with
    | none => .ok []
    | some client =>
        match world.listIpAddresses client with
        | some addresses => .ok addresses
        | none => .error .noAddresses
  let hostname ← match orNone request.hostname with
    | some hostname => .ok hostname
    | none =>
        match world.getHostname sshClient with
        | some hostname => .ok hostname
        | none => .error .noHostname
  return ⟨world.nodeNameFromHostname hostname, hostname, sshClient,
    (request.addresses ++ reported).eraseDups⟩

/-- The node that `_add_node` finds by its name or creates. -/
def OpenStackTopology.nodeOf (topology : OpenStackTopology Client Address)
    (details : Details Client Address) : Nat × OpenStackTopology Client Address :=
  match topology.names.get? details.name with
  | some node => (node, topology)
  | none => (topology.nodes.length,
      { topology with
        nodes := topology.nodes ++
          [⟨details.name, details.hostname, details.sshClient, details.addresses, []⟩]
        names := topology.names.set details.name topology.nodes.length })

/-- The rest of `_add_node`. -/
def OpenStackTopology.insert (topology : OpenStackTopology Client Address)
    (details : Details Client Address) : Nat × OpenStackTopology Client Address :=
  let (node, topology) := topology.nodeOf details
  let addresses := details.addresses.foldl
    (fun addresses address => addresses.setDefault address node) topology.addresses
  (node, { topology with addresses })

/-- `add_group`, and the membership of the node. -/
def OpenStackTopology.addToGroup (topology : OpenStackTopology Client Address)
    (group : String) (node : Nat) : OpenStackTopology Client Address :=
  let members := (topology.groups.get? group).getD []
  if node ∈ members then topology
  else
    { topology with
      groups := topology.groups.set group (members ++ [node])
      nodes := topology.nodes.modify node fun node =>
        { node with groups := node.groups ++ [group] } }

/-- The node that `add_node` finds, or adds with `_add_node`. -/
def OpenStackTopology.findOrInsert (topology : OpenStackTopology Client Address)
    (arguments : Arguments Client) (request : Request Client Address) :
    Except TopologyError (Nat × OpenStackTopology Client Address) :=
  match topology.getNode world (world.requestedName request) none
    (some (.selection request.addresses)) with
  | .ok node => .ok (node, topology)
  | .error _ => (world.details arguments request).map topology.insert

/-- The end of `add_node`. -/
def OpenStackTopology.joinGroup (topology : OpenStackTopology Client Address)
    (group : Option String) (node : Nat) : OpenStackTopology Client Address :=
  match orNone group with
  | some group => topology.addToGroup group node
  | none => topology

/-- `add_node`, which changes nothing where it raises. -/
def OpenStackTopology.addNode (topology : OpenStackTopology Client Address)
    (arguments : Arguments Client) :
    Except TopologyError (Nat × OpenStackTopology Client Address) :=
  (topology.findOrInsert world arguments (world.request arguments)).map fun found =>
    (found.1, found.2.joinGroup arguments.group found.1)

/-! ### Selections -/

/-- `nodes` -/
def OpenStackTopology.allNodes (topology : OpenStackTopology Client Address) : List Nat :=
  topology.names.keys.filterMap topology.names.get?

/-- `select_openstack_nodes` for the nodes of the topology. -/
def OpenStackTopology.listOpenstackNodes (topology : OpenStackTopology Client Address)
    (addresses : Option (List Address)) (hostnames : Option (List String)) : List Nat :=
  if addresses = some [] ∨ hostnames = some [] then []
  else
    topology.allNodes.filter fun node =>
      match topology.nodes[node]? with
      | none => false
      | some node =>
          (addresses.all fun addresses => addresses.any (· ∈ node.addresses)) &&
          hostnames.all fun hostnames =>
            hostnames.any fun hostname => world.nodeNameFromHostname hostname = node.name

end Operations

end Tobiko.Openstack.Topology
