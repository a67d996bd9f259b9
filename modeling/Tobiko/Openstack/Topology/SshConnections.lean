import Tobiko.Foundation.Dictionary
import Tobiko.Foundation.FirstOccurrences

/-!
Contract: the SSH connections of the topology.

Owns: `SSHConnectionManager.connect` with the connections that it keeps by address and proxy,
and the attempts of a sequence of calls.

Does not own: how an SSH client connects, and the cleanup of the manager.
-/

namespace Tobiko.Openstack.Topology

open Tobiko.Foundation

section Connections

variable {Address Client Failure : Type}

structure SSHConnection (Address Client Failure : Type) where
  address : Address
  sshClient : Option Client
  proxyClient : Option Client
  failure : Option Failure

namespace SSHConnection

def isValid (connection : SSHConnection Address Client Failure) : Bool :=
  connection.failure.isNone && connection.sshClient.isSome

def key (connection : SSHConnection Address Client Failure) : Address × Option Client :=
  (connection.address, connection.proxyClient)

end SSHConnection

/-- The connection that has not been tried. -/
def newConnection (key : Address × Option Client) : SSHConnection Address Client Failure :=
  ⟨key.1, none, key.2, none⟩

/-- An attempt to connect, and what came of it: the client, or the exception. -/
structure Attempt (Address Client Failure : Type) where
  key : Address × Option Client
  outcome : Except Failure Client

/-- The connections by their keys. The attempts are those of the calls so far, in order; the
source keeps no such list. -/
structure SSHConnectionManager (Address Client Failure : Type) where
  connections : Dict (Address × Option Client) (SSHConnection Address Client Failure)
  attempts : List (Attempt Address Client Failure)

inductive ConnectError (Address Failure : Type) where
  | emptyAddresses
  | assertionError
  | unreachable (addresses : List Address) (failures : List (Option Failure))

/-- The arguments of `connect`. -/
structure ConnectCall (Address Client : Type) where
  addresses : List Address
  proxyClient : Option Client

def ConnectCall.keys (call : ConnectCall Address Client) : List (Address × Option Client) :=
  call.addresses.map fun address => (address, call.proxyClient)

variable [DecidableEq Address] [DecidableEq Client]

namespace SSHConnectionManager

def initial : SSHConnectionManager Address Client Failure := ⟨Dict.empty, []⟩

def getConnection (manager : SSHConnectionManager Address Client Failure)
    (key : Address × Option Client) :
    SSHConnectionManager Address Client Failure × SSHConnection Address Client Failure :=
  ({ manager with connections := manager.connections.setDefault key (newConnection key) },
    (manager.connections.get? key).getD (newConnection key))

def getConnections : SSHConnectionManager Address Client Failure → List (Address × Option Client) →
    SSHConnectionManager Address Client Failure × List (SSHConnection Address Client Failure)
  | manager, [] => (manager, [])
  | manager, key :: keys =>
      let (first, connection) := manager.getConnection key
      let (last, connections) := first.getConnections keys
      (last, connection :: connections)

/-- An address is taken once. -/
def listConnections (manager : SSHConnectionManager Address Client Failure)
    (addresses : List Address) (proxyClient : Option Client) :
    SSHConnectionManager Address Client Failure × List (SSHConnection Address Client Failure) :=
  manager.getConnections
    ((firstOccurrences id addresses).map fun address => (address, proxyClient))

/-- What an attempt leaves. -/
def record (manager : SSHConnectionManager Address Client Failure)
    (connection : SSHConnection Address Client Failure) (outcome : Except Failure Client) :
    SSHConnectionManager Address Client Failure where
  connections :=
    manager.connections.set connection.key
      (match outcome with
      | .ok client => { connection with sshClient := some client }
      | .error failure => { connection with failure := some failure })
  attempts := manager.attempts ++ [⟨connection.key, outcome⟩]

/-- The loop over the connections that have no failure: the first attempt that succeeds ends
it. -/
def tryConnections
    (connectTo : List (Attempt Address Client Failure) → Address × Option Client →
      Except Failure Client) :
    SSHConnectionManager Address Client Failure → List (SSHConnection Address Client Failure) →
      SSHConnectionManager Address Client Failure × Option Client
  | manager, [] => (manager, none)
  | manager, connection :: connections =>
      match connectTo manager.attempts connection.key with
      | .error failure =>
          tryConnections connectTo (manager.record connection (.error failure)) connections
      | .ok client => (manager.record connection (.ok client), some client)

/-- `connect`, where `connectTo` is what an attempt gives after the attempts before it. -/
def connect
    (connectTo : List (Attempt Address Client Failure) → Address × Option Client →
      Except Failure Client)
    (manager : SSHConnectionManager Address Client Failure) (call : ConnectCall Address Client) :
    SSHConnectionManager Address Client Failure × Except (ConnectError Address Failure) Client :=
  if call.addresses = [] then (manager, .error .emptyAddresses)
  else
    let (listed, connections) := manager.listConnections call.addresses call.proxyClient
    match (connections.filter SSHConnection.isValid).head? with
    | some connection =>
        match connection.sshClient with
        | some client => (listed, .ok client)
        | none => (listed, .error .assertionError)
    | none =>
        match tryConnections connectTo listed
            (connections.filter fun connection => connection.failure.isNone) with
        | (tried, some client) => (tried, .ok client)
        | (tried, none) =>
            (tried, .error (.unreachable call.addresses (connections.map fun connection =>
              (tried.connections.get? connection.key).bind SSHConnection.failure)))

/-- The calls one after the other. -/
def connectAll
    (connectTo : List (Attempt Address Client Failure) → Address × Option Client →
      Except Failure Client)
    (calls : List (ConnectCall Address Client)) : SSHConnectionManager Address Client Failure :=
  calls.foldl (fun manager call => (manager.connect connectTo call).1) initial

end SSHConnectionManager

end Connections

end Tobiko.Openstack.Topology
