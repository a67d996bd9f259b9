import Mathlib.Data.List.Induction
import Tobiko.Openstack.Nova.Servers

/-!
Contract: the runs of the functions that change the status of a server.

Owns: the phases that a run goes through with the events, the refinement of each function by its
protocol, and what every run sends and returns.

Does not own: the functions.

The phases are an abstract account: which request is due for which status, and when a run is
over.
-/

namespace Tobiko.Openstack.Nova.Servers

open Tobiko.Common Tobiko.Common.Time Tobiko.Foundation Tobiko.Foundation.Recorded

/-! ### The phases -/

inductive Phase where
  | start
  | resizing
  | requesting (action : ServerAction)
  | waiting
  | reached (server : Server)
  | stuck (server : Server)
deriving DecidableEq

/-- What the first status leads to, and the status that is waited for in the end. -/
structure Protocol where
  react : Server → Phase
  target : String

/-- What a status leads to that is read while another one is waited for. -/
def afterRead (status : String) (server : Server) (reached going : Phase) : Phase :=
  if server.status = status then reached
  else if server.status ∈ transientStatusOf status then going
  else .stuck server

section AfterRead

variable {status : String} {server : Server} {reached going : Phase}

theorem afterRead_met (met : server.status = status) :
    afterRead status server reached going = reached :=
  if_pos met

theorem afterRead_going (different : server.status ≠ status)
    (transient : server.status ∈ transientStatusOf status) :
    afterRead status server reached going = going := by
  rw [afterRead, if_neg different, if_pos transient]

theorem afterRead_stuck (different : server.status ≠ status)
    (stuck : server.status ∉ transientStatusOf status) :
    afterRead status server reached going = .stuck server := by
  rw [afterRead, if_neg different, if_neg stuck]

end AfterRead

def Protocol.next (protocol : Protocol) : Phase → ServerEvent → Option Phase
  | .start, .got server => some (protocol.react server)
  | .resizing, .got server =>
      some (afterRead "VERIFY_RESIZE" server (.requesting (.confirmResize server.id)) .resizing)
  | .requesting action, .sent sent => if sent = action then some .waiting else none
  | .waiting, .got server => some (afterRead protocol.target server (.reached server) .waiting)
  | _, _ => none

def Protocol.follow (protocol : Protocol) (events : List ServerEvent) : Option Phase :=
  events.foldlM protocol.next .start

def shutoffProtocol : Protocol where
  react server := if server.status = "SHUTOFF" then .reached server else .requesting (.stop server.id)
  target := "SHUTOFF"

def activateProtocol : Protocol where
  react server :=
    if server.status = "ACTIVE" then .reached server
    else if server.status = "SHUTOFF" then .requesting (.start server.id)
    else if server.status = "RESIZE" then .resizing
    else if server.status = "VERIFY_RESIZE" then .requesting (.confirmResize server.id)
    else if server.status ≠ "REBOOT" then .requesting (.reboot server.id .hard)
    else .waiting
  target := "ACTIVE"

def rebootProtocol : Protocol where
  react server :=
    if server.status = "REBOOT" then .reached server
    else if server.status = "SHUTOFF" then .requesting (.start server.id)
    else .requesting (.reboot server.id .soft)
  target := "ACTIVE"

/-- A phase in which an error leaves a run. A status that is not transient leaves it stuck. -/
inductive Phase.Explains {Exc : Type} (error : NovaError Exc) : Phase → Prop where
  | unread (phase : Phase) (unread : error.Unread)
      (going : phase = .start ∨ phase = .resizing ∨ phase = .waiting) : Explains error phase
  | stuck (server : Server) (serverId status : String)
      (same : error = .waitForServerStatus serverId server.status status) :
      Explains error (.stuck server)
  | timedOut (phase : Phase) (serverId serverStatus status : String) (timeout : Option ℚ)
      (same : error = .waitForServerStatusTimeout serverId serverStatus status timeout)
      (going : phase = .resizing ∨ phase = .waiting) : Explains error phase

/-- The functions that change the status of a server. -/
inductive ServerCall where
  | shutoff
  | activate
  | reboot
  | ensure (status : String)

def ServerCall.run {World Exc : Type} (nova : NovaService World Exc) (clock : Clock World) (turns : Nat)
    (call : ServerCall) (server : Option ServerType) (times : WaitTimes) :
    Effect (NovaError Exc) (World × List ServerEvent) Server :=
  match call with
  | .shutoff => shutoffServer nova clock turns server times
  | .activate => activateServer nova clock turns server times
  | .reboot => rebootServer nova clock turns server times
  | .ensure status => ensureServerStatus nova clock turns server status times

/-- The protocol of a call, if it takes the status. -/
def ServerCall.protocol : ServerCall → Option Protocol
  | .shutoff => some shutoffProtocol
  | .activate => some activateProtocol
  | .reboot => some rebootProtocol
  | .ensure status =>
      if status = "ACTIVE" then some activateProtocol
      else if status = "SHUTOFF" then some shutoffProtocol
      else none

/-! ### What the phases say of the events -/

def requestsOf (events : List ServerEvent) : List ServerAction :=
  events.filterMap fun event =>
    match event with
    | .sent action => some action
    | _ => none

/-- No request has been sent before this phase. -/
def Phase.Early : Phase → Prop
  | .start | .resizing | .requesting _ => True
  | _ => False

/-- What is known of the events that lead to a phase. -/
structure Protocol.Known (protocol : Protocol) (events : List ServerEvent) (phase : Phase) :
    Prop where
  early : phase.Early → requestsOf events = []
  once : (requestsOf events).length ≤ 1
  begun : phase = .start → events = []
  started : phase ≠ .start → ∃ first rest, events = .got first :: rest
  read : ∀ server, phase = .reached server → events.getLast? = some (.got server) ∧
    (server.status = protocol.target ∨ events = [.got server] ∧ protocol.react server = phase)

/-- The first status leads on, and is returned only as it was read. -/
def Protocol.Fresh (protocol : Protocol) : Prop :=
  ∀ server, protocol.react server ≠ .start ∧
    ∀ other, protocol.react server = .reached other → other = server

section Known

variable {protocol : Protocol} {events : List ServerEvent} {phase later : Phase}
  {event : ServerEvent}

theorem requestsOf_got (events : List ServerEvent) (server : Server) :
    requestsOf (events ++ [.got server]) = requestsOf events := by
  simp [requestsOf]

theorem requestsOf_sent (events : List ServerEvent) (action : ServerAction) :
    requestsOf (events ++ [.sent action]) = requestsOf events ++ [action] := by
  simp [requestsOf]

theorem follow_concat (followed : protocol.follow events = some phase)
    (stepped : protocol.next phase event = some later) :
    protocol.follow (events ++ [event]) = some later := by
  unfold Protocol.follow at *
  rw [List.foldlM_append, followed]
  simp [stepped]

/-- The first read of a run. -/
theorem known_start (protocol : Protocol) : protocol.Known [] .start where
  early _ := rfl
  once := Nat.zero_le 1
  begun _ := rfl
  started started := absurd rfl started
  read _ reached := by cases reached

theorem Protocol.Known.started_concat (known : protocol.Known events phase)
    (started : phase ≠ .start) (event : ServerEvent) :
    ∃ first rest, events ++ [event] = .got first :: rest := by
  obtain ⟨first, rest, rfl⟩ := known.started started
  exact ⟨first, rest ++ [event], rfl⟩

/-- A read in a later phase. -/
theorem Protocol.Known.read_next {server : Server} {status : String} {reached going : Phase}
    (known : protocol.Known events phase) (started : phase ≠ .start)
    (still : going.Early → phase.Early) (done : reached.Early → phase.Early)
    (last : ∀ other, reached = .reached other → other = server ∧ status = protocol.target)
    (unreached : ∀ other, going ≠ .reached other) (on : going ≠ .start ∧ reached ≠ .start) :
    protocol.Known (events ++ [.got server]) (afterRead status server reached going) where
  early := by
    intro isEarly
    rw [requestsOf_got]
    unfold afterRead at isEarly
    apply known.early
    split at isEarly
    · exact done isEarly
    · split at isEarly
      · exact still isEarly
      · exact isEarly.elim
  once := by
    rw [requestsOf_got]
    exact known.once
  begun := by
    intro same
    unfold afterRead at same
    split at same
    · exact absurd same on.2
    · split at same
      · exact absurd same on.1
      · cases same
  started _ := known.started_concat started _
  read := by
    intro other same
    unfold afterRead at same
    split at same
    · rename_i met
      obtain ⟨rfl, rfl⟩ := last other same
      exact ⟨List.getLast?_concat, .inl met⟩
    · split at same
      · exact absurd same (unreached other)
      · cases same

theorem Protocol.Known.next (known : protocol.Known events phase)
    (fresh : protocol.Fresh) (stepped : protocol.next phase event = some later) :
    protocol.Known (events ++ [event]) later := by
  unfold Protocol.next at stepped
  split at stepped
  · rename_i server
    cases stepped
    rw [known.begun rfl]
    refine ⟨fun _ => rfl, Nat.zero_le 1, fun same => absurd same (fresh server).1,
      fun _ => ⟨server, [], rfl⟩, fun other reached => ?_⟩
    obtain rfl := (fresh server).2 other reached
    exact ⟨rfl, .inr ⟨rfl, rfl⟩⟩
  · cases stepped
    apply known.read_next
    · simp
    · exact fun _ => trivial
    · exact fun _ => trivial
    · intro other same
      cases same
    · simp
    · simp
  · rename_i action sent
    split at stepped
    · cases stepped
      refine ⟨fun isEarly => isEarly.elim, ?_, fun same => (by cases same),
        fun _ => known.started_concat (by simp) _, fun _ same => (by cases same)⟩
      rw [requestsOf_sent, known.early trivial]
      exact Nat.le_refl 1
    · cases stepped
  · rename_i server
    cases stepped
    apply known.read_next
    · simp
    · exact fun isEarly => isEarly.elim
    · exact fun isEarly => isEarly.elim
    · intro other same
      cases same
      exact ⟨rfl, rfl⟩
    · simp
    · simp
  · cases stepped

/-- What is known of the events of a run, from its phase. -/
theorem follow_known (fresh : protocol.Fresh) (followed : protocol.follow events = some phase) :
    protocol.Known events phase := by
  induction events using List.reverseRecOn generalizing phase with
  | nil =>
      cases followed
      exact known_start protocol
  | append_singleton events event inductionHypothesis =>
      unfold Protocol.follow at followed
      rw [List.foldlM_append] at followed
      obtain ⟨before, earlier, stepped⟩ := Option.bind_eq_some_iff.mp followed
      have next : protocol.next before event = some phase := by
        simpa using stepped
      exact (inductionHypothesis earlier).next fresh next

theorem shutoffProtocol_fresh : shutoffProtocol.Fresh := by
  intro server
  simp only [shutoffProtocol]
  split
  · exact ⟨by simp, fun other same => (Phase.reached.inj same).symm⟩
  · exact ⟨by simp, fun other same => by cases same⟩

theorem activateProtocol_fresh : activateProtocol.Fresh := by
  intro server
  simp only [activateProtocol]
  split
  · exact ⟨by simp, fun other same => (Phase.reached.inj same).symm⟩
  · split
    · exact ⟨by simp, fun other same => by cases same⟩
    · split
      · exact ⟨by simp, fun other same => by cases same⟩
      · split
        · exact ⟨by simp, fun other same => by cases same⟩
        · split
          · exact ⟨by simp, fun other same => by cases same⟩
          · exact ⟨by simp, fun other same => by cases same⟩

theorem rebootProtocol_fresh : rebootProtocol.Fresh := by
  intro server
  simp only [rebootProtocol]
  split
  · exact ⟨by simp, fun other same => (Phase.reached.inj same).symm⟩
  · split
    · exact ⟨by simp, fun other same => by cases same⟩
    · exact ⟨by simp, fun other same => by cases same⟩

end Known

/-! ### The server of a run -/

/-- The service tells of the server that it is asked for. -/
def NovaService.Faithful {World Exc : Type} (nova : NovaService World Exc) : Prop :=
  ∀ serverId world server, (nova.get serverId world).1 = .ok server → server.id = serverId

def ServerAction.serverId : ServerAction → String
  | .start id | .stop id | .confirmResize id | .reboot id _ => id

/-- A read of that server, or a request for it. -/
def ServerEvent.About (serverId : String) : ServerEvent → Prop
  | .got server => server.id = serverId
  | .sent action => action.serverId = serverId
  | .fixture _ => False

/-- All that has been added to the events is about that server. -/
def Tells (events : List ServerEvent) (serverId : String) (later : List ServerEvent) : Prop :=
  ∃ trace, later = events ++ trace ∧ ∀ event ∈ trace, event.About serverId

/-- A run is about one server, which it returns. -/
structure Concerns {Exc : Type} (serverId : String) (trace : List ServerEvent)
    (result : Except (NovaError Exc) Server) : Prop where
  events : ∀ event ∈ trace, event.About serverId
  returned : ∀ server, result = .ok server → server.id = serverId

section Concerns

variable {World Exc : Type} {nova : NovaService World Exc} {clock : Clock World}
  {events later : List ServerEvent} {serverId : String}

theorem tells_start (events : List ServerEvent) (serverId : String) :
    Tells events serverId events :=
  ⟨[], (List.append_nil events).symm, fun _ member => absurd member List.not_mem_nil⟩

theorem Tells.concat {event : ServerEvent} (tells : Tells events serverId later)
    (about : event.About serverId) : Tells events serverId (later ++ [event]) := by
  obtain ⟨trace, rfl, every⟩ := tells
  refine ⟨trace ++ [event], List.append_assoc .., fun other member => ?_⟩
  rcases List.mem_append.mp member with earlier | last
  · exact every other earlier
  · rw [List.mem_singleton.mp last]
    exact about

variable (faithful : nova.Faithful)
include faithful

theorem getServer_tells (server : Option ServerType) (given : Option String)
    (asked : getServerId server given = some serverId) :
    Effect.Ensures (fun state => Tells events serverId state.2) (getServer nova server given)
      (fun server state => server.id = serverId ∧ Tells events serverId state.2)
      (fun _ state => Tells events serverId state.2) := by
  unfold getServer
  rw [asked]
  apply Effect.ensures_bind (fun answer state =>
    (∀ server, answer = .ok server → server.id = serverId) ∧ Tells events serverId state.2)
  · exact Effect.ensures_update fun state tells => ⟨faithful serverId state.1, tells⟩
  · intro answer
    rcases answer with ⟨_ | exception⟩ | server
    · exact Effect.ensures_raise fun _ known => known.2
    · exact Effect.ensures_raise fun _ known => known.2
    · apply Effect.ensures_bind
        (fun _ state => server.id = serverId ∧ Tells events serverId state.2)
      · exact Effect.ensures_modify fun _ known =>
          ⟨known.1 server rfl, known.2.concat (known.1 server rfl)⟩
      · exact fun _ => Effect.ensures_pure fun _ known => known

omit faithful in
theorem requestAction_tells (action : ServerAction) (about : action.serverId = serverId) :
    Effect.Ensures (fun state => Tells events serverId state.2) (requestAction nova action)
      (fun _ state => Tells events serverId state.2)
      (fun _ state => Tells events serverId state.2) := by
  intro state tells
  have sent : Tells events serverId (state.2 ++ [.sent action]) := tells.concat about
  apply (requestAction_ensures action state.2).mono (fun _ same => same) _ _ state rfl
  · intro _ after added
    rw [added]
    exact sent
  · rintro error after ⟨-, added⟩
    rw [added]
    exact sent

theorem waitForServerStatus_tells (turns : Nat) (status : String) (times : WaitTimes) :
    Effect.Ensures (fun state => Tells events serverId state.2)
      (waitForServerStatus nova clock turns (.id serverId) status times none)
      (fun server state => server.id = serverId ∧ Tells events serverId state.2)
      (fun _ state => Tells events serverId state.2) := by
  have untimed : ∀ seen : List Server, Retry.Untimed (clock.paired (List ServerEvent))
      fun state => (∀ server ∈ seen, server.id = serverId) ∧ Tells events serverId state.2 :=
    fun seen => Retry.untimed_paired clock fun later =>
      (∀ server ∈ seen, server.id = serverId) ∧ Tells events serverId later
  have reads : StatusWait.Reads (getServer nova none (some serverId))
      (fun (seen : List Server) state =>
        (∀ server ∈ seen, server.id = serverId) ∧ Tells events serverId state.2)
      (fun _ => True) := by
    rintro seen state ⟨same, tells⟩
    apply (getServer_tells faithful none (some serverId) rfl).mono
      (fun _ tells => tells) _ _ state tells
    · rintro server after ⟨known, told⟩
      refine ⟨fun other member => ?_, told⟩
      rcases List.mem_append.mp member with earlier | last
      · exact same other earlier
      · rw [List.mem_singleton.mp last]
        exact known
    · exact fun _ _ told => ⟨trivial, same, told⟩
  apply (StatusWait.run_ensures untimed reads
    (statusWait_guarded serverId status _ times) turns).mono
  · exact fun state tells => ⟨fun _ member => absurd member List.not_mem_nil, tells⟩
  · rintro server state ⟨passed, -, -, same, told⟩
    exact ⟨same server (List.mem_append_right passed (List.mem_singleton_self server)), told⟩
  · intro error state unmet
    cases unmet with
    | unread passed passing failed seen => exact seen.2
    | notChanging passed last passing different stuck same seen => exact seen.2
    | timedOut passed last passing same seen => exact seen.2

variable {turns : Nat} {times : WaitTimes} {server : Option ServerType}

theorem activate_tells (first : Server) (same : first.id = serverId) :
    Effect.Ensures (fun state => Tells events serverId state.2)
      (activate nova clock turns first times)
      (fun server state => server.id = serverId ∧ Tells events serverId state.2)
      (fun _ state => Tells events serverId state.2) := by
  have requested : ∀ action : ServerAction, action.serverId = serverId →
      ∀ server : Server, server.id = serverId →
        Effect.Ensures (fun state => Tells events serverId state.2)
          (do requestAction nova action; return server)
          (fun server state => server.id = serverId ∧ Tells events serverId state.2)
          (fun _ state => Tells events serverId state.2) := by
    intro action about server known
    apply Effect.ensures_bind _ (requestAction_tells action about)
    exact fun _ => Effect.ensures_pure fun _ told => ⟨known, told⟩
  unfold activate
  split
  · exact requested (.start first.id) same first same
  · split
    · subst same
      apply Effect.ensures_bind _ (waitForServerStatus_tells faithful turns _ times)
      intro verified state known
      exact requested (.confirmResize verified.id) known.1 verified known.1 state known.2
    · split
      · exact requested (.confirmResize first.id) same first same
      · split
        · exact requested (.reboot first.id .hard) same first same
        · exact Effect.ensures_pure fun _ told => ⟨same, told⟩

/-- What is done with the server that was read first, which is the one that is asked for. -/
theorem after_getServer_tells {next : Server → Effect (NovaError Exc) (World × List ServerEvent) Server}
    (asked : getServerId server none = some serverId)
    (tells : ∀ first : Server, first.id = serverId →
      Effect.Ensures (fun state => Tells events serverId state.2) (next first)
        (fun server state => server.id = serverId ∧ Tells events serverId state.2)
        (fun _ state => Tells events serverId state.2)) :
    Effect.Ensures (fun state => Tells events serverId state.2) (getServer nova server none >>= next)
      (fun server state => server.id = serverId ∧ Tells events serverId state.2)
      (fun _ state => Tells events serverId state.2) := by
  apply Effect.ensures_bind _ (getServer_tells faithful server none asked)
  intro first state known
  exact tells first known.1 state known.2

theorem shutoffServer_tells (asked : getServerId server none = some serverId) :
    Effect.Ensures (fun state => Tells events serverId state.2)
      (shutoffServer nova clock turns server times)
      (fun server state => server.id = serverId ∧ Tells events serverId state.2)
      (fun _ state => Tells events serverId state.2) := by
  apply after_getServer_tells faithful asked
  intro first same
  split
  · exact Effect.ensures_pure fun _ told => ⟨same, told⟩
  · apply Effect.ensures_bind _ (requestAction_tells (.stop first.id) same)
    intro _
    rw [same]
    exact waitForServerStatus_tells faithful turns _ times

theorem activateServer_tells (asked : getServerId server none = some serverId) :
    Effect.Ensures (fun state => Tells events serverId state.2)
      (activateServer nova clock turns server times)
      (fun server state => server.id = serverId ∧ Tells events serverId state.2)
      (fun _ state => Tells events serverId state.2) := by
  apply after_getServer_tells faithful asked
  intro first same
  split
  · exact Effect.ensures_pure fun _ told => ⟨same, told⟩
  · apply Effect.ensures_bind _ (activate_tells faithful first same)
    intro activated state known
    rw [known.1]
    exact waitForServerStatus_tells faithful turns _ times state known.2

theorem rebootServer_tells (asked : getServerId server none = some serverId) :
    Effect.Ensures (fun state => Tells events serverId state.2)
      (rebootServer nova clock turns server times)
      (fun server state => server.id = serverId ∧ Tells events serverId state.2)
      (fun _ state => Tells events serverId state.2) := by
  apply after_getServer_tells faithful asked
  intro first same
  split
  · exact Effect.ensures_pure fun _ told => ⟨same, told⟩
  · split
    · apply Effect.ensures_bind _ (requestAction_tells (.start first.id) same)
      intro _
      rw [same]
      exact waitForServerStatus_tells faithful turns _ times
    · apply Effect.ensures_bind _ (requestAction_tells (.reboot first.id .soft) same)
      intro _
      rw [same]
      exact waitForServerStatus_tells faithful turns _ times

theorem serverCall_tells (call : ServerCall) (asked : getServerId server none = some serverId) :
    Effect.Ensures (fun state => Tells events serverId state.2)
      (call.run nova clock turns server times)
      (fun server state => server.id = serverId ∧ Tells events serverId state.2)
      (fun _ state => Tells events serverId state.2) := by
  cases call with
  | shutoff => exact shutoffServer_tells faithful asked
  | activate => exact activateServer_tells faithful asked
  | reboot => exact rebootServer_tells faithful asked
  | ensure status =>
      simp only [ServerCall.run, ensureServerStatus]
      split
      · exact activateServer_tells faithful asked
      · split
        · exact shutoffServer_tells faithful asked
        · exact Effect.ensures_raise fun _ told => told

theorem serverCall_concerns (call : ServerCall) (asked : getServerId server none = some serverId)
    {state after : World × List ServerEvent} {result : Except (NovaError Exc) Server}
    {trace : List ServerEvent} (added : after.2 = state.2 ++ trace)
    (ran : call.run nova clock turns server times state = some (result, after)) :
    Concerns serverId trace result := by
  obtain ⟨returns, raises⟩ := serverCall_tells faithful call asked state
    (tells_start state.2 serverId) result after ran
  have every : Tells state.2 serverId after.2 → ∀ event ∈ trace, event.About serverId := by
    rintro ⟨told, added', about⟩
    rwa [List.append_cancel_left (added.symm.trans added')]
  cases result with
  | ok server =>
      obtain ⟨same, tells⟩ := returns server rfl
      refine ⟨every tells, fun other returned => ?_⟩
      cases returned
      exact same
  | error error => exact ⟨every (raises error rfl), fun _ returned => by cases returned⟩

end Concerns

/-! ### The functions follow their protocols -/

section Refinement

variable {World Exc : Type} {nova : NovaService World Exc} {clock : Clock World}
  {protocol : Protocol} {events : List ServerEvent}

/-- The events since then lead to the phase. -/
def Protocol.Reaches (protocol : Protocol) (events : List ServerEvent) (phase : Phase)
    (state : World × List ServerEvent) : Prop :=
  ∃ trace, state.2 = events ++ trace ∧ protocol.follow trace = some phase

/-- The error leaves the run in a phase that explains it. -/
def Protocol.Fails (protocol : Protocol) (events : List ServerEvent) (error : NovaError Exc)
    (state : World × List ServerEvent) : Prop :=
  ∃ phase, phase.Explains error ∧ protocol.Reaches events phase state

theorem reaches_start (protocol : Protocol) {state : World × List ServerEvent}
    (same : state.2 = events) : protocol.Reaches events .start state :=
  ⟨[], by rw [same, List.append_nil], rfl⟩

theorem Protocol.Reaches.next {phase later : Phase} {event : ServerEvent}
    {state after : World × List ServerEvent} (reaches : protocol.Reaches events phase state)
    (added : after.2 = state.2 ++ [event]) (stepped : protocol.next phase event = some later) :
    protocol.Reaches events later after := by
  obtain ⟨trace, same, followed⟩ := reaches
  refine ⟨trace ++ [event], ?_, follow_concat followed stepped⟩
  rw [added, same, List.append_assoc]

theorem getServer_reaches (server : Option ServerType) :
    Effect.Ensures (fun state => state.2 = events) (getServer nova server none)
      (fun server state => protocol.Reaches events (protocol.react server) state)
      (protocol.Fails events) := by
  intro state same
  refine ((getServer_ensures server none events).mono (fun _ same => same)
    (fun server after added => ?_) fun error after failed => ?_) state same
  · exact (reaches_start protocol same).next (by rw [added, same]) rfl
  · exact ⟨.start, .unread .start failed.1 (.inl rfl), reaches_start protocol failed.2⟩

theorem requestAction_reaches (action : ServerAction) :
    Effect.Ensures (protocol.Reaches events (.requesting action)) (requestAction nova action)
      (fun _ state => protocol.Reaches events .waiting state) (protocol.Fails events) := by
  intro state reaches
  have stepped : protocol.next (.requesting action) (.sent action) = some .waiting := if_pos rfl
  refine ((requestAction_ensures action state.2).mono (fun _ same => same) (fun _ after added => ?_)
    fun error after failed => ?_) state rfl
  · exact reaches.next added stepped
  · exact ⟨.waiting, .unread .waiting failed.1 (.inr (.inr rfl)), reaches.next failed.2 stepped⟩

/-- In the phase a status is waited for. -/
def Protocol.Awaits (protocol : Protocol) (going : Phase) (status : String)
    (reached : Server → Phase) : Prop :=
  (going = .resizing ∨ going = .waiting) ∧
    ∀ server, protocol.next going (.got server) = some (afterRead status server (reached server) going)

section Await

variable {going : Phase} {status serverId : String} {reached : Server → Phase} {times : WaitTimes}

theorem Protocol.Reaches.passed {state after : World × List ServerEvent} {passed : List Server}
    (awaits : protocol.Awaits going status reached) (reaches : protocol.Reaches events going state)
    (passing : (statusWait nova serverId status (transientStatusOf status)
      times.timeout).Passing passed) (seen : Read state.2 passed after) :
    protocol.Reaches events going after := by
  induction passed using List.reverseRecOn generalizing after with
  | nil =>
      obtain ⟨trace, same, followed⟩ := reaches
      refine ⟨trace, ?_, followed⟩
      rw [seen, List.map_nil, List.append_nil, same]
  | append_singleton passed last inductionHypothesis =>
      have before : protocol.Reaches events going (after.1, state.2 ++ passed.map .got) :=
        inductionHypothesis (fun server member => passing server (List.mem_append_left _ member)) rfl
      obtain ⟨different, transient⟩ := passing last (by simp)
      have stepped := awaits.2 last
      rw [@afterRead_going status last _ going different transient] at stepped
      apply before.next _ stepped
      rw [seen, List.map_append, List.append_assoc]
      rfl

theorem wait_reaches (turns : Nat) (awaits : protocol.Awaits going status reached) :
    Effect.Ensures (protocol.Reaches events going)
      (waitForServerStatus nova clock turns (.id serverId) status times none)
      (fun server state => protocol.Reaches events (reached server) state)
      (protocol.Fails events) := by
  intro state reaches
  refine ((waitForServerStatus_ensures turns serverId status times none state.2).mono
    (fun _ same => same) (fun server after met => ?_) fun error after unmet => ?_) state rfl
  · obtain ⟨passed, passing, met, seen⟩ := met
    have before : protocol.Reaches events going (after.1, state.2 ++ passed.map .got) :=
      reaches.passed awaits passing rfl
    have stepped := awaits.2 server
    rw [@afterRead_met status server _ going met] at stepped
    apply before.next _ stepped
    rw [seen, List.map_append, ← List.append_assoc]
    rfl
  · cases unmet with
    | unread passed passing failed seen =>
        exact ⟨going, .unread going failed (.inr awaits.1), reaches.passed awaits passing seen⟩
    | notChanging passed last passing different stuck same seen =>
        have before : protocol.Reaches events going (after.1, state.2 ++ passed.map .got) :=
          reaches.passed awaits passing rfl
        have stepped := awaits.2 last
        rw [@afterRead_stuck status last _ going different stuck] at stepped
        refine ⟨.stuck last, .stuck last serverId status same, before.next ?_ stepped⟩
        rw [seen, List.map_append, ← List.append_assoc]
        rfl
    | timedOut passed last passing same seen =>
        exact ⟨going, .timedOut going serverId last.status status times.timeout same awaits.1,
          reaches.passed awaits passing seen⟩

end Await

theorem resizing_awaits (protocol : Protocol) :
    protocol.Awaits .resizing "VERIFY_RESIZE"
      fun server => .requesting (.confirmResize server.id) :=
  ⟨.inl rfl, fun _ => rfl⟩

theorem waiting_awaits (protocol : Protocol) :
    protocol.Awaits .waiting protocol.target .reached :=
  ⟨.inr rfl, fun _ => rfl⟩

variable {turns : Nat} {times : WaitTimes}

theorem shutoffServer_reaches (server : Option ServerType) :
    Effect.Ensures (fun state => state.2 = events)
      (shutoffServer nova clock turns server times)
      (fun server state => shutoffProtocol.Reaches events (.reached server) state)
      (shutoffProtocol.Fails events) := by
  apply Effect.ensures_bind _ (getServer_reaches server)
  intro first
  split
  · rename_i off
    apply Effect.ensures_pure
    intro state reaches
    simpa [shutoffProtocol, off] using reaches
  · rename_i different
    have due : shutoffProtocol.react first = .requesting (.stop first.id) := if_neg different
    rw [due]
    apply Effect.ensures_bind _ (requestAction_reaches _)
    exact fun _ => wait_reaches turns (waiting_awaits shutoffProtocol)

theorem activate_reaches (first : Server) (inactive : first.status ≠ "ACTIVE") :
    Effect.Ensures (activateProtocol.Reaches events (activateProtocol.react first))
      (activate nova clock turns first times)
      (fun _ state => activateProtocol.Reaches events .waiting state)
      (activateProtocol.Fails events) := by
  unfold activate
  simp only [activateProtocol, if_neg inactive]
  split
  · apply Effect.ensures_bind _ (requestAction_reaches _)
    exact fun _ => Effect.ensures_pure fun _ reaches => reaches
  · split
    · apply Effect.ensures_bind _ (wait_reaches turns (resizing_awaits activateProtocol))
      intro verified
      apply Effect.ensures_bind _ (requestAction_reaches _)
      exact fun _ => Effect.ensures_pure fun _ reaches => reaches
    · split
      · apply Effect.ensures_bind _ (requestAction_reaches _)
        exact fun _ => Effect.ensures_pure fun _ reaches => reaches
      · split
        · apply Effect.ensures_bind _ (requestAction_reaches _)
          exact fun _ => Effect.ensures_pure fun _ reaches => reaches
        · exact Effect.ensures_pure fun _ reaches => reaches

theorem activateServer_reaches (server : Option ServerType) :
    Effect.Ensures (fun state => state.2 = events)
      (activateServer nova clock turns server times)
      (fun server state => activateProtocol.Reaches events (.reached server) state)
      (activateProtocol.Fails events) := by
  apply Effect.ensures_bind _ (getServer_reaches server)
  intro first
  split
  · rename_i active
    apply Effect.ensures_pure
    intro state reaches
    simpa [activateProtocol, active] using reaches
  · rename_i inactive
    apply Effect.ensures_bind _ (activate_reaches first inactive)
    exact fun _ => wait_reaches turns (waiting_awaits activateProtocol)

theorem rebootServer_reaches (server : Option ServerType) :
    Effect.Ensures (fun state => state.2 = events)
      (rebootServer nova clock turns server times)
      (fun server state => rebootProtocol.Reaches events (.reached server) state)
      (rebootProtocol.Fails events) := by
  apply Effect.ensures_bind _ (getServer_reaches server)
  intro first
  split
  · rename_i rebooting
    apply Effect.ensures_pure
    intro state reaches
    simpa [rebootProtocol, rebooting] using reaches
  · rename_i different
    simp only [rebootProtocol, if_neg different]
    split
    · apply Effect.ensures_bind _ (requestAction_reaches _)
      exact fun _ => wait_reaches turns (waiting_awaits rebootProtocol)
    · apply Effect.ensures_bind _ (requestAction_reaches _)
      exact fun _ => wait_reaches turns (waiting_awaits rebootProtocol)

/-! ### The runs -/

/-- How a call ends that has a protocol: in a phase that tells why, with one request at most. It
returns what it has read last, with the status that it is for; only a server that is being
rebooted already is not waited for. -/
structure Protocol.Ran (protocol : Protocol) (trace : List ServerEvent)
    (result : Except (NovaError Exc) Server) : Prop where
  once : (requestsOf trace).length ≤ 1
  returned : ∀ server, result = .ok server → protocol.follow trace = some (.reached server) ∧
    trace.getLast? = some (.got server) ∧
    (server.status = protocol.target ∨ server.status = "REBOOT" ∧ trace = [.got server])
  raised : ∀ error, result = .error error →
    ∃ phase, protocol.follow trace = some phase ∧ phase.Explains error

/-- A server is returned at once if it has the status, or if it is being rebooted. -/
def Protocol.Direct (protocol : Protocol) : Prop :=
  ∀ server, protocol.react server = .reached server →
    server.status = protocol.target ∨ server.status = "REBOOT"

theorem ran_of_ensures {effect : Effect (NovaError Exc) (World × List ServerEvent) Server}
    (fresh : protocol.Fresh) (direct : protocol.Direct)
    (ensures : Effect.Ensures (fun state => state.2 = events) effect
      (fun server state => protocol.Reaches events (.reached server) state)
      (protocol.Fails events))
    {state after : World × List ServerEvent} {result : Except (NovaError Exc) Server}
    (start : state.2 = events) (ran : effect state = some (result, after)) :
    ∃ trace, after.2 = events ++ trace ∧ protocol.Ran trace result := by
  obtain ⟨returns, raises⟩ := ensures state start result after ran
  cases result with
  | ok server =>
      obtain ⟨trace, added, followed⟩ := returns server rfl
      have known := follow_known fresh followed
      obtain ⟨last, read⟩ := known.read server rfl
      refine ⟨trace, added, known.once, fun other same => ?_, fun _ same => by cases same⟩
      cases same
      refine ⟨followed, last, ?_⟩
      rcases read with met | ⟨only, reacted⟩
      · exact .inl met
      · rcases direct server reacted with met | rebooting
        · exact .inl met
        · exact .inr ⟨rebooting, only⟩
  | error error =>
      obtain ⟨phase, explains, trace, added, followed⟩ := raises error rfl
      refine ⟨trace, added, (follow_known fresh followed).once, fun _ same => (by cases same),
        fun other same => ?_⟩
      cases same
      exact ⟨phase, followed, explains⟩

theorem shutoffProtocol_direct : shutoffProtocol.Direct := by
  intro server reacted
  by_cases off : server.status = "SHUTOFF"
  · exact .inl off
  · simp [shutoffProtocol, off] at reacted

theorem activateProtocol_direct : activateProtocol.Direct := by
  intro server reacted
  by_cases active : server.status = "ACTIVE"
  · exact .inl active
  · simp only [activateProtocol, if_neg active] at reacted
    split at reacted
    · cases reacted
    · split at reacted
      · cases reacted
      · split at reacted
        · cases reacted
        · split at reacted
          · cases reacted
          · cases reacted

theorem rebootProtocol_direct : rebootProtocol.Direct := by
  intro server reacted
  by_cases rebooting : server.status = "REBOOT"
  · exact .inr rebooting
  · simp only [rebootProtocol, if_neg rebooting] at reacted
    split at reacted
    · cases reacted
    · cases reacted

/-- **Changing the status of a server.** For every service and clock, a call that ends has followed
its protocol: it has sent one request at most, the one that is due for the status that it has
read, and it returns the server that it has read last, with the status that it is for. When the
service tells of the server that it is asked for, all of this is about the requested server. -/
theorem server_call_follows_protocol (nova : NovaService World Exc) (clock : Clock World)
    (turns : Nat) (call : ServerCall) (server : Option ServerType) (times : WaitTimes)
    (state after : World × List ServerEvent) (result : Except (NovaError Exc) Server)
    (ran : call.run nova clock turns server times state = some (result, after)) :
    (∀ protocol, call.protocol = some protocol →
      ∃ trace, after.2 = state.2 ++ trace ∧ protocol.Ran trace result ∧
        (nova.Faithful → ∀ serverId, getServerId server none = some serverId →
          Concerns serverId trace result)) ∧
    (call.protocol = none → after = state ∧
      ∃ status, call = .ensure status ∧ result = .error (.unsupportedServerStatus status)) := by
  have concerns : ∀ {protocol : Protocol},
      (∃ trace, after.2 = state.2 ++ trace ∧ protocol.Ran trace result) →
      ∃ trace, after.2 = state.2 ++ trace ∧ protocol.Ran trace result ∧
        (nova.Faithful → ∀ serverId, getServerId server none = some serverId →
          Concerns serverId trace result) := by
    rintro protocol ⟨trace, added, obeyed⟩
    refine ⟨trace, added, obeyed, fun faithful serverId asked => ?_⟩
    exact serverCall_concerns faithful call asked added ran
  have shutoff : shutoffServer nova clock turns server times state = some (result, after) →
      ∃ trace, after.2 = state.2 ++ trace ∧ shutoffProtocol.Ran trace result :=
    ran_of_ensures shutoffProtocol_fresh shutoffProtocol_direct (shutoffServer_reaches server) rfl
  have activate : activateServer nova clock turns server times state = some (result, after) →
      ∃ trace, after.2 = state.2 ++ trace ∧ activateProtocol.Ran trace result :=
    ran_of_ensures activateProtocol_fresh activateProtocol_direct (activateServer_reaches server) rfl
  cases call with
  | shutoff =>
      refine ⟨fun protocol same => ?_, fun none_ => by cases none_⟩
      cases same
      exact concerns (shutoff ran)
  | activate =>
      refine ⟨fun protocol same => ?_, fun none_ => by cases none_⟩
      cases same
      exact concerns (activate ran)
  | reboot =>
      refine ⟨fun protocol same => ?_, fun none_ => by cases none_⟩
      cases same
      exact concerns (ran_of_ensures rebootProtocol_fresh rebootProtocol_direct
        (rebootServer_reaches server) rfl ran)
  | ensure status =>
      have ensured := ran
      simp only [ServerCall.run, ensureServerStatus, ServerCall.protocol] at ensured ⊢
      split at ensured
      · rename_i active
        refine ⟨fun protocol same => ?_, fun none_ => by simp [active] at none_⟩
        rw [if_pos active] at same
        cases same
        exact concerns (activate ensured)
      · rename_i inactive
        rw [if_neg inactive]
        split at ensured
        · rename_i off
          refine ⟨fun protocol same => ?_, fun none_ => by simp [off] at none_⟩
          rw [if_pos off] at same
          cases same
          exact concerns (shutoff ensured)
        · rename_i other
          cases ensured
          refine ⟨fun protocol same => ?_, fun _ => ⟨rfl, status, rfl, rfl⟩⟩
          rw [if_neg other] at same
          cases same

end Refinement

/-! ### The runs end -/

section Ends

variable {World Exc : Type} {nova : NovaService World Exc} {clock : Clock World} {turns : Nat}
  {duration : ℚ}

/-- The service takes that time at least to tell of a server. -/
def NovaService.Takes (nova : NovaService World Exc) (clock : Clock World) (duration : ℚ) : Prop :=
  ∀ serverId world, clock.now world + duration ≤ clock.now (nova.get serverId world).2

/-- The timeout of a wait is the given one, unless it is zero or not given. -/
def WaitTimes.limit (times : WaitTimes) : ℚ≥0 :=
  toSecondsFloat ((orOther times.timeout (some 300)).getD 300)

theorem retry_limit (times : WaitTimes) : times.retry.timeout = some times.limit := by
  unfold WaitTimes.limit
  simp only [WaitTimes.retry, Tobiko.Common.retry, RetryArguments.applyOther, Retry.init,
    toSeconds]
  cases times.timeout with
  | none => rfl
  | some timeout =>
      by_cases zero : timeout = 0
      · simp [orOther, zero]
      · simp [orOther, zero]

/-- A read of a server ends, after some time if it asks the service. -/
theorem getServer_lasts (takes : nova.Takes clock duration) (serverId : String)
    (state : World × List ServerEvent) :
    ∃ result after, getServer nova none (some serverId) state = some (result, after) ∧
      (clock.paired (List ServerEvent)).now state + duration ≤
        (clock.paired (List ServerEvent)).now after := by
  have later := takes serverId state.1
  have asked : (ask (nova.get serverId) : Effect (NovaError Exc) _ _) state =
      some (.ok (nova.get serverId state.1).1, (nova.get serverId state.1).2, state.2) := rfl
  unfold getServer
  simp only [getServerId]
  rw [Effect.bind_of_ok asked]
  cases (nova.get serverId state.1).1 with
  | ok server => exact ⟨_, _, rfl, later⟩
  | error failure =>
      cases failure with
      | none => exact ⟨_, _, rfl, later⟩
      | some exception => exact ⟨_, _, rfl, later⟩

theorem getServer_ends (server : Option ServerType) :
    (getServer nova server none).Ends := by
  unfold getServer
  split
  · exact fun _ => rfl
  · apply Effect.ends_bind (Effect.ends_update _)
    intro answer
    rcases answer with ⟨_ | exception⟩ | server
    · exact fun _ => rfl
    · exact fun _ => rfl
    · exact fun _ => rfl

theorem requestAction_ends (action : ServerAction) : (requestAction nova action).Ends := by
  apply Effect.ends_bind (Effect.ends_update _)
  intro _
  apply Effect.ends_bind (Effect.ends_update _)
  intro failure
  cases failure with
  | none => exact fun _ => rfl
  | some exception => exact fun _ => rfl

variable {times : WaitTimes} (takes : nova.Takes clock duration) (positive : 0 < duration)
  (enough : Retry.EnoughTurns times.limit duration 0 turns)
include takes positive enough

theorem waitForServerStatus_ends (serverId status : String) :
    (waitForServerStatus nova clock turns (.id serverId) status times none).Ends :=
  fun state => StatusWait.run_ends ⟨times.limit, retry_limit times, rfl⟩ positive
    (getServer_lasts takes serverId) enough state

theorem activate_ends (server : Server) : (activate nova clock turns server times).Ends := by
  unfold activate
  split
  · exact Effect.ends_bind (requestAction_ends _) fun _ _ => rfl
  · split
    · apply Effect.ends_bind (waitForServerStatus_ends takes positive enough _ _)
      exact fun _ => Effect.ends_bind (requestAction_ends _) fun _ _ => rfl
    · split
      · exact Effect.ends_bind (requestAction_ends _) fun _ _ => rfl
      · split
        · exact Effect.ends_bind (requestAction_ends _) fun _ _ => rfl
        · exact fun _ => rfl

theorem shutoffServer_ends (server : Option ServerType) :
    (shutoffServer nova clock turns server times).Ends := by
  apply Effect.ends_bind (getServer_ends server)
  intro first
  split
  · exact fun _ => rfl
  · apply Effect.ends_bind (requestAction_ends _)
    exact fun _ => waitForServerStatus_ends takes positive enough _ _

theorem activateServer_ends (server : Option ServerType) :
    (activateServer nova clock turns server times).Ends := by
  apply Effect.ends_bind (getServer_ends server)
  intro first
  split
  · exact fun _ => rfl
  · apply Effect.ends_bind (activate_ends takes positive enough _)
    exact fun _ => waitForServerStatus_ends takes positive enough _ _

theorem rebootServer_ends (server : Option ServerType) :
    (rebootServer nova clock turns server times).Ends := by
  apply Effect.ends_bind (getServer_ends server)
  intro first
  split
  · exact fun _ => rfl
  · split
    · apply Effect.ends_bind (requestAction_ends _)
      exact fun _ => waitForServerStatus_ends takes positive enough _ _
    · apply Effect.ends_bind (requestAction_ends _)
      exact fun _ => waitForServerStatus_ends takes positive enough _ _

/-- **No call waits for ever.** When the service takes some time to tell of a server, each call
that changes a status returns or raises, within the turns that fill the timeout. -/
theorem server_call_ends (call : ServerCall) (server : Option ServerType)
    (state : World × List ServerEvent) :
    (call.run nova clock turns server times state).isSome := by
  cases call with
  | shutoff => exact shutoffServer_ends takes positive enough server state
  | activate => exact activateServer_ends takes positive enough server state
  | reboot => exact rebootServer_ends takes positive enough server state
  | ensure status =>
      simp only [ServerCall.run, ensureServerStatus]
      split
      · exact activateServer_ends takes positive enough server state
      · split
        · exact shutoffServer_ends takes positive enough server state
        · rfl

end Ends

/-! ### A server that is started -/

section Started

/-- A server that is shut off until it is started; every answer takes a second. -/
def startedService : NovaService (ℚ × Bool) Unit where
  get id world := (.ok ⟨id, if world.2 then "ACTIVE" else "SHUTOFF"⟩, world.1 + 1, world.2)
  act action world := (none, world.1 + 1, world.2 || decide (action = .start "server"))

theorem startedService_returns :
    ((ServerCall.run startedService (Clock.ideal.paired Bool) 2 (.ensure "ACTIVE")
      (some (.id "server")) {} ((0, false), [])).map fun ended => ended.1.toOption) =
        some (some ⟨"server", "ACTIVE"⟩) := by
  decide +kernel

theorem startedService_faithful : startedService.Faithful := by
  intro serverId world server told
  cases told
  rfl

theorem server_call_follows_protocol_started :
    ∃ after trace, (after : (ℚ × Bool) × List ServerEvent).2 = [] ++ trace ∧
      activateProtocol.Ran trace
        (.ok ⟨"server", "ACTIVE"⟩ : Except (NovaError Unit) Server) ∧
      Concerns "server" trace
        (.ok ⟨"server", "ACTIVE"⟩ : Except (NovaError Unit) Server) := by
  obtain ⟨⟨result, after⟩, ran, same⟩ := Option.map_eq_some_iff.mp startedService_returns
  cases result with
  | error error => cases same
  | ok server =>
      cases same
      obtain ⟨trace, added, obeyed, concerns⟩ := (server_call_follows_protocol startedService
        (Clock.ideal.paired Bool) 2 (.ensure "ACTIVE") (some (.id "server")) {} ((0, false), [])
        after _ ran).1 activateProtocol rfl
      exact ⟨after, trace, added, obeyed, concerns startedService_faithful "server" rfl⟩

theorem server_call_ends_started :
    (ServerCall.run startedService (Clock.ideal.paired Bool) 302 .reboot (some (.id "server")) {}
      ((0, false), [])).isSome := by
  have takes : startedService.Takes (Clock.ideal.paired Bool) 1 := fun _ _ => le_rfl
  have limit : (({} : WaitTimes).limit : ℚ) = 300 := by decide +kernel
  have enough : Retry.EnoughTurns ({} : WaitTimes).limit 1 0 302 := by
    constructor
    · omega
    · rw [limit]
      norm_num
  exact server_call_ends takes one_pos enough .reboot (some (.id "server")) ((0, false), [])

end Started

end Tobiko.Openstack.Nova.Servers
