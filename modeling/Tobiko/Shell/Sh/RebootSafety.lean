import Tobiko.Foundation.CallRuns
import Tobiko.Shell.Sh.Reboot

/-!
Contract: what the state of a reboot operation tells of its host.

Owns: the invariant of the operation, the step lemma of each call, and that a host that counts as
rebooted was started after the command, up to the delay of its answer.

Does not own: the operation.
-/

namespace Tobiko.Shell.Sh.Reboot

open Tobiko.Common Tobiko.Common.Time Tobiko.Foundation

section Safety

variable {World Exc : Type} (host : Host World Exc)

/-- The last command was sent in the world that the reading of the clock had left which told of the
start; since then only the uptime has been asked for. -/
def Commanded (start : ℚ) (events : List (HostEvent World)) : Prop :=
  ∃ before earlier asked, (host.clock.time before).1 = start ∧
    events = earlier ++ .command (host.clock.time before).2 :: List.map .uptime asked

/-- Behind the last command, which was sent at the start, the host has last answered with an uptime
below the time since then. -/
def Accepted (start : ℚ) (events : List (HostEvent World)) : Prop :=
  ∃ earlier world upTime, Commanded host start earlier ∧ events = earlier ++ [.uptime world] ∧
    start ≤ host.clock.now world ∧ (host.getUptime world).1.1 = .ok upTime ∧
    upTime < (host.clock.time (host.getUptime world).2).1 - start

/-- Not rebooted, with that start time, which is past. -/
structure Pending (startTime : Option ℚ) (state : Operation World) : Prop where
  pending : state.isRebooted = false
  startTime_eq : state.startTime = startTime
  past : ∀ start, startTime = some start → start ≤ host.clock.now state.world
  commanded : ∀ start, startTime = some start → Commanded host start state.events

/-- Not rebooted, and the clock has just told of that start time. -/
structure Starting (start : ℚ) (state : Operation World) : Prop where
  pending : state.isRebooted = false
  startTime_eq : state.startTime = some start
  read : ∃ before, host.clock.time before = (start, state.world)

/-- Rebooted after that start time, and still connected. -/
structure Rebooted (startTime : Option ℚ) (state : Operation World) : Prop where
  rebooted : state.isRebooted = true
  startTime_eq : state.startTime = startTime
  connected : state.connected = true
  accepted : ∃ start, startTime = some start ∧ Accepted host start state.events

/-- What is known in every state of an operation. -/
def Known (state : Operation World) : Prop :=
  ∃ startTime, Pending host startTime state ∨ Rebooted host startTime state

variable {host} {startTime : Option ℚ}

/-- A step that sends no command and does not touch the operation. -/
theorem Pending.later {state after : Operation World} (known : Pending host startTime state)
    (rebooted : after.isRebooted = state.isRebooted) (started : after.startTime = state.startTime)
    (later : host.clock.now state.world ≤ host.clock.now after.world)
    (silent : after.events = state.events) : Pending host startTime after where
  pending := rebooted.trans known.pending
  startTime_eq := started.trans known.startTime_eq
  past start same := (known.past start same).trans later
  commanded start same := by
    rw [silent]
    exact known.commanded start same

theorem Commanded.asked {start : ℚ} {events : List (HostEvent World)}
    (commanded : Commanded host start events) (world : World) :
    Commanded host start (events ++ [.uptime world]) := by
  obtain ⟨before, earlier, asked, told, rfl⟩ := commanded
  refine ⟨before, earlier, asked ++ [world], told, ?_⟩
  rw [List.map_append, List.append_assoc]
  rfl

/-! ### The parts of the calls -/

theorem raiseIfAny_ensures {kept : Operation World → Prop} (failure : Option Exc) :
    Effect.Ensures kept (raiseIfAny failure) (fun _ => kept) (fun _ => kept) := by
  cases failure with
  | none => exact Effect.ensures_pure fun _ holds => holds
  | some exception => exact Effect.ensures_raise fun _ holds => holds

theorem connect_ensures (timeout : Option ℚ) :
    Effect.Ensures (Pending host startTime) (connect host timeout)
      (fun _ => Pending host startTime) (fun _ => Pending host startTime) := by
  apply Effect.ensures_bind (fun _ => Pending host startTime)
  · apply Effect.ensures_update
    intro state known
    exact known.later rfl rfl (host.connect_later timeout state.world) rfl
  · exact raiseIfAny_ensures

theorem execCommand_ensures (start : ℚ) :
    Effect.Ensures (Starting host start) (execCommand host)
      (fun _ => Pending host (some start)) (fun _ => Pending host (some start)) := by
  apply Effect.ensures_bind (fun _ => Pending host (some start))
  · apply Effect.ensures_update
    intro state known
    obtain ⟨before, read⟩ := known.read
    have told : (host.clock.time before).1 = start := congrArg Prod.fst read
    have left : (host.clock.time before).2 = state.world := congrArg Prod.snd read
    refine ⟨known.pending, known.startTime_eq, fun other same => ?_, fun other same => ?_⟩
    · cases same
      have past := host.clock.time_before before
      rw [told, left] at past
      exact past.trans (host.execCommand_later state.world)
    · cases same
      refine ⟨before, state.events, [], told, ?_⟩
      rw [left]
      rfl
  · exact raiseIfAny_ensures

theorem cleanupFixture_ensures :
    Effect.Ensures (Pending host startTime) (cleanupFixture host)
      (fun _ state => Pending host startTime state ∧ state.connected = false)
      (fun _ state => Pending host startTime state ∧ state.connected = false) := by
  apply Effect.ensures_bind
    (fun _ state => Pending host startTime state ∧ state.connected = false)
  · apply Effect.ensures_update
    intro state known
    exact ⟨known.later rfl rfl (host.cleanup_later state.world) rfl, rfl⟩
  · exact raiseIfAny_ensures

theorem close_ensures {raises : RebootError Exc → Operation World → Prop} :
    Effect.Ensures (Pending host startTime) (close host)
      (fun _ state => Pending host startTime state ∧ state.connected = false) raises := by
  apply Effect.ensures_bind _ (Effect.ensures_attempt cleanupFixture_ensures)
  intro result
  apply Effect.ensures_pure
  intro state cleaned
  cases result with
  | ok value => exact cleaned.1 value rfl
  | error error => exact cleaned.2 error rfl

theorem readTime_ensures {raises : RebootError Exc → Operation World → Prop} :
    Effect.Ensures (Pending host startTime) (readTime host)
      (fun now state => Pending host startTime state ∧
        ∃ before, host.clock.time before = (now, state.world)) raises := by
  apply Effect.ensures_update
  intro state known
  have before := host.clock.time_before state.world
  have after := host.clock.time_after state.world
  exact ⟨known.later rfl rfl (after.trans before) rfl, state.world, rfl⟩

theorem untimed_pending : Retry.Untimed host.stateClock (Pending host startTime) where
  time state known := known.later rfl rfl
    ((host.clock.time_after state.world).trans (host.clock.time_before state.world)) rfl
  sleep seconds state known := by
    have slept := host.clock.sleep_after seconds state.world
    have pause := seconds.coe_nonneg
    have later : host.clock.now state.world ≤
        host.clock.now (host.clock.sleep seconds state.world) := by linarith
    exact known.later rfl rfl later rfl

/-! ### Sending the command -/

/-- Not rebooted, whenever it was started. -/
def Idle (host : Host World Exc) (state : Operation World) : Prop :=
  ∃ startTime, Pending host startTime state

theorem idle_of_forall {Value : Type} {effect : RebootEffect World Exc Value}
    {returns : Value → Operation World → Prop} {raises : RebootError Exc → Operation World → Prop}
    (each : ∀ startTime, Effect.Ensures (Pending host startTime) effect returns raises) :
    Effect.Ensures (Idle host) effect returns raises := by
  rintro state ⟨startTime, known⟩
  exact each startTime state known

theorem sendCommand_ensures (attempt : RetryAttempt) :
    Effect.Ensures (Idle host) (sendCommand host attempt) (fun _ => Idle host)
      (fun _ => Idle host) := by
  apply idle_of_forall
  intro startTime
  apply Effect.ensures_bind (fun _ => Pending host startTime)
  · exact (connect_ensures attempt.timeLeft).mono (fun _ known => known)
      (fun _ _ known => known) fun _ _ known => ⟨startTime, known⟩
  · intro _
    apply Effect.ensures_bind _ readTime_ensures
    intro now
    apply Effect.ensures_bind (fun _ => Starting host now)
    · apply Effect.ensures_modify
      rintro state ⟨known, read⟩
      exact ⟨known.pending, rfl, read⟩
    · exact fun _ => (execCommand_ensures now).mono (fun _ known => known)
        (fun _ _ known => ⟨some now, known⟩) fun _ _ known => ⟨some now, known⟩

theorem close_idle {raises : RebootError Exc → Operation World → Prop} :
    Effect.Ensures (Idle host) (close host)
      (fun _ state => Idle host state ∧ state.connected = false) raises := by
  apply idle_of_forall
  intro startTime
  exact close_ensures.mono (fun _ known => known)
    (fun _ _ closed => ⟨⟨startTime, closed.1⟩, closed.2⟩) fun _ _ raised => raised

/-- Each turn ends without a connection, however the command went. -/
theorem runTurn_ensures (attempt : RetryAttempt) (locals : Unit) :
    Effect.Ensures (Idle host) (runTurn host attempt locals)
      (fun _ state => Idle host state ∧ state.connected = false)
      (fun _ state => Idle host state ∧ state.connected = false) := by
  apply Effect.ensures_bind (fun _ => Idle host)
  · apply (Effect.ensures_attempt (sendCommand_ensures attempt)).mono
    · exact fun _ known => known
    · intro result state sent
      cases result with
      | ok value => exact sent.1 value rfl
      | error error => exact sent.2 error rfl
    · exact fun _ _ raised => raised
  · intro result
    apply Effect.ensures_bind _ close_idle
    intro _
    exact (Effect.ensures_ofExcept fun _ _ _ closed => closed).mono (fun _ closed => closed)
      (fun _ _ closed => closed.2) fun _ _ closed => closed

/-! ### The call that reboots -/

/-- Not rebooted, and not connected. -/
def Closed (host : Host World Exc) (state : Operation World) : Prop :=
  Idle host state ∧ state.connected = false

theorem untimed_idle : Retry.Untimed host.stateClock (Idle host) where
  time state known := known.imp fun _ pending => untimed_pending.time state pending
  sleep seconds state known := known.imp fun _ pending => untimed_pending.sleep seconds state pending

theorem untimed_closed : Retry.Untimed host.stateClock (Closed host) where
  time state closed := ⟨untimed_idle.time state closed.1, closed.2⟩
  sleep seconds state closed := ⟨untimed_idle.sleep seconds state closed.1, closed.2⟩

/-- However the command has gone, the operation is not rebooted and its connection is closed. -/
theorem runOperation_ensures (turns : Nat) (timeout : Seconds) :
    Effect.Ensures (fun _ => True) (runOperation host turns timeout) (fun _ => Closed host)
      (fun _ => Closed host) := by
  apply Effect.ensures_bind (fun _ => Idle host)
  · apply Effect.ensures_modify
    intro state _
    exact ⟨none, rfl, rfl, fun _ same => (by cases same), fun _ same => by cases same⟩
  · intro _
    have turn : ∀ attempt locals, Effect.Ensures (Idle host) (runTurn host attempt locals)
        (Retry.Turn.Holds (fun _ => Closed host) fun _ => Closed host) (fun _ => Closed host) := by
      intro attempt locals
      apply (runTurn_ensures attempt locals).mono
      · exact fun _ known => known
      · intro turn state closed
        cases turn with
        | next locals => exact closed
        | leave value => exact closed
      · exact fun _ _ closed => closed
    apply Retry.loop_ensures_first (fun _ => Idle host) (fun _ => Closed host)
      (fun _ => untimed_idle) (fun _ => untimed_closed) turn
    · exact fun attempt locals => (turn attempt locals).mono (fun _ closed => closed.1)
        (fun _ _ held => held) fun _ _ closed => closed
    · exact fun _ _ _ closed => closed

/-! ### The call that waits -/

/-- The host has just told of its uptime. -/
structure Told (host : Host World Exc) (startTime : Option ℚ) (upTime : ℚ)
    (state : Operation World) : Prop extends Pending host startTime state where
  told : ∃ earlier world, (∀ start, startTime = some start → start ≤ host.clock.now world ∧
      Commanded host start earlier) ∧ state.events = earlier ++ [.uptime world] ∧
    (host.getUptime world).1.1 = .ok upTime ∧ state.world = (host.getUptime world).2

theorem getUptime_ensures :
    Effect.Ensures (Pending host startTime) (getUptime host)
      (fun upTime => Told host startTime upTime) (fun _ => Pending host startTime) := by
  apply Effect.ensures_bind (fun answer state => Pending host startTime state ∧
    ∀ upTime, answer = .ok upTime → Told host startTime upTime state)
  · apply Effect.ensures_update
    intro state known
    have later : Pending host startTime
        ⟨state.isRebooted, state.startTime, (host.getUptime state.world).1.2,
          (host.getUptime state.world).2, state.events ++ [.uptime state.world]⟩ := by
      refine ⟨known.pending, known.startTime_eq, fun start same => ?_, fun start same => ?_⟩
      · exact (known.past start same).trans (host.getUptime_later state.world)
      · exact (known.commanded start same).asked state.world
    refine ⟨later, fun upTime told => ⟨later, state.events, state.world, fun start same => ?_, rfl,
      told, rfl⟩⟩
    exact ⟨known.past start same, known.commanded start same⟩
  · intro answer
    cases answer with
    | ok upTime => exact Effect.ensures_pure fun state known => known.2 upTime rfl
    | error exception => exact Effect.ensures_raise fun state known => known.1

/-- An uptime below the elapsed time is what is accepted. -/
theorem elapsedTime_ensures {raises : RebootError Exc → Operation World → Prop} (upTime : ℚ) :
    Effect.Ensures (Told host startTime upTime) (elapsedTime host)
      (fun elapsed state => Pending host startTime state ∧
        ∀ seconds, elapsed = some seconds → upTime < seconds →
          ∃ start, startTime = some start ∧ Accepted host start state.events) raises := by
  apply Effect.ensures_bind (fun read state => read = state ∧ Told host startTime upTime state)
    (Effect.ensures_get fun state told => ⟨rfl, told⟩)
  rintro read state ⟨rfl, told⟩
  obtain ⟨earlier, world, past, added, answered, same⟩ := told.told
  have started := told.startTime_eq
  cases startTime with
  | none =>
      rw [started]
      refine Effect.ensures_pure (fun _ known => ?_) read told
      exact ⟨known.toPending, fun _ none_ => by cases none_⟩
  | some start =>
      rw [started]
      intro result after ended
      cases ended
      refine ⟨fun elapsed same_ => ?_, fun _ never => by cases never⟩
      cases same_
      refine ⟨untimed_pending.time read told.toPending, fun seconds known shorter => ?_⟩
      cases known
      obtain ⟨begun, commanded⟩ := past start rfl
      refine ⟨start, rfl, earlier, world, upTime, commanded, added, begun, answered, ?_⟩
      rw [← same]
      exact shorter

/-- A turn leaves the loop with a rebooted host only. -/
theorem waitTurn_ensures (attempt : RetryAttempt) (locals : Unit) :
    Effect.Ensures (Pending host startTime) (waitTurn host attempt locals)
      (Retry.Turn.Holds (fun _ => Pending host startTime) fun _ => Rebooted host startTime)
      (fun _ => Pending host startTime) := by
  apply Effect.ensures_bind (fun _ => Pending host startTime)
  · exact cleanupFixture_ensures.mono (fun _ known => known) (fun _ _ known => known.1)
      fun _ _ known => known.1
  · intro _
    apply Effect.ensures_bind (fun _ => Pending host startTime)
      (Effect.ensures_get fun _ known => known)
    intro cleaned
    split
    · exact Effect.ensures_raise fun _ known => known
    · apply Effect.ensures_bind _ (Effect.ensures_attempt getUptime_ensures)
      intro answer
      cases answer with
      | error error =>
          apply Effect.ensures_bind (fun _ => Pending host startTime)
          · exact (Effect.ensures_ofExcept fun _ _ _ known => known).mono
              (fun state known => known.2 error rfl) (fun _ _ known => known.2)
              fun _ _ known => known
          · exact fun _ => Effect.ensures_pure fun _ known => known
      | ok upTime =>
          apply Effect.ensures_bind (fun elapsed state => Pending host startTime state ∧
            ∀ seconds, elapsed = some seconds → upTime < seconds →
              ∃ start, startTime = some start ∧ Accepted host start state.events)
          · exact (elapsedTime_ensures upTime).mono (fun state known => known.1 upTime rfl)
              (fun _ _ known => known) fun _ _ known => known
          · intro elapsed
            cases elapsed with
            | none => exact Effect.ensures_raise fun _ known => known.1
            | some seconds =>
                dsimp only
                split
                · rename_i shorter
                  apply Effect.ensures_bind (fun read state => read = state ∧
                    Pending host startTime state ∧
                      ∃ start, startTime = some start ∧ Accepted host start state.events)
                  · exact Effect.ensures_get fun _ known => ⟨rfl, known.1, known.2 _ rfl shorter⟩
                  · intro read
                    split
                    · rename_i connected
                      apply Effect.ensures_bind (fun _ => Rebooted host startTime)
                      · apply Effect.ensures_modify
                        rintro state ⟨rfl, known, accepted⟩
                        exact ⟨rfl, known.startTime_eq, connected, accepted⟩
                      · exact fun _ => Effect.ensures_pure fun _ known => known
                    · exact Effect.ensures_raise fun _ known => known.2.1
                · apply Effect.ensures_bind (fun _ => Pending host startTime)
                  · exact (Effect.ensures_ofExcept fun _ _ _ known => known).mono
                      (fun _ known => known.1) (fun _ _ known => known.2) fun _ _ known => known
                  · exact fun _ => Effect.ensures_pure fun _ known => known

theorem elapsedTime_pending {raises : RebootError Exc → Operation World → Prop} :
    Effect.Ensures (Pending host startTime) (elapsedTime host)
      (fun _ => Pending host startTime) raises := by
  apply Effect.ensures_bind (fun _ => Pending host startTime)
    (Effect.ensures_get fun _ known => known)
  intro read
  cases read.startTime with
  | none => exact Effect.ensures_pure fun _ known => known
  | some start =>
      apply Effect.ensures_bind _ readTime_ensures
      exact fun _ => Effect.ensures_pure fun _ known => known.1

theorem timeLeft_ensures (timeout : Seconds) :
    Effect.Ensures (Pending host startTime) (timeLeft host timeout)
      (fun _ => Pending host startTime) (fun _ => Pending host startTime) := by
  cases timeout with
  | none => exact Effect.ensures_pure fun _ known => known
  | some timeout =>
      apply Effect.ensures_bind _ elapsedTime_pending
      intro first
      cases first with
      | none => exact Effect.ensures_pure fun _ known => known
      | some seconds =>
          apply Effect.ensures_bind _ elapsedTime_pending
          intro second
          cases second with
          | none => exact Effect.ensures_raise fun _ known => known
          | some elapsed => exact Effect.ensures_pure fun _ known => known

theorem waitLoop_ensures (turns : Nat) (timeout : Option ℚ) (operationTimeout : Seconds) :
    Effect.Ensures (Pending host startTime) (waitLoop host turns timeout operationTimeout)
      (fun _ => Rebooted host startTime) (fun _ => Pending host startTime) := by
  apply Effect.ensures_bind _ (timeLeft_ensures operationTimeout)
  intro _
  exact Retry.loop_ensures (fun _ => Pending host startTime) (fun _ => untimed_pending)
    waitTurn_ensures (fun _ _ _ known => known) turns ()

/-- The call that waits returns with a rebooted host, and raises without a connection. -/
theorem waitForOperation_ensures (turns : Nat) (timeout : Option ℚ) (operationTimeout : Seconds) :
    Effect.Ensures (Known host) (waitForOperation host turns timeout operationTimeout)
      (fun _ state => ∃ startTime, Rebooted host startTime state) (fun _ => Closed host) := by
  apply Effect.ensures_bind (fun read state => read = state ∧ Known host state)
    (Effect.ensures_get fun _ known => ⟨rfl, known⟩)
  intro read
  split
  · rename_i rebooted
    apply Effect.ensures_pure
    rintro state ⟨rfl, startTime, pending | known⟩
    · rw [pending.pending] at rebooted
      cases rebooted
    · exact ⟨startTime, known⟩
  · rename_i notYet
    rintro state ⟨rfl, startTime, pending | rebooted⟩
    · refine Effect.ensures_bind _ (Effect.ensures_attempt
        (waitLoop_ensures turns timeout operationTimeout)) (fun result => ?_) read pending
      apply Effect.ensures_bind (fun later state => later = state ∧
        ((∀ value, result = .ok value → Rebooted host startTime state) ∧
          ∀ error, result = .error error → Pending host startTime state))
        (Effect.ensures_get fun _ known => ⟨rfl, known⟩)
      intro later
      cases result with
      | ok value =>
          split
          · rename_i unset
            rintro state ⟨rfl, known, -⟩
            rw [(known value rfl).rebooted] at unset
            exact absurd rfl unset
          · exact Effect.ensures_pure fun state known => ⟨startTime, known.2.1 value rfl⟩
      | error error =>
          split
          · apply Effect.ensures_bind
              (fun _ state => Pending host startTime state ∧ state.connected = false)
            · exact close_ensures.mono (fun _ known => known.2.2 error rfl) (fun _ _ known => known)
                fun _ _ known => known
            · exact fun _ => Effect.ensures_raise fun _ known => ⟨⟨startTime, known.1⟩, known.2⟩
          · rename_i set
            rintro state ⟨rfl, -, known⟩
            exact absurd (by simp [(known error rfl).pending]) set
    · exact absurd rebooted.rebooted notYet

/-! ### Runs of calls -/

/-- The calls of an operation; the number is a bound on the turns of its loop. -/
inductive Call where
  | run (turns : Nat)
  | wait (turns : Nat) (timeout : Option ℚ)
  | cleanup

def Call.effect (host : Host World Exc) (operationTimeout : Seconds) :
    Call → RebootEffect World Exc Unit
  | .run turns => runOperation host turns operationTimeout
  | .wait turns timeout => waitForOperation host turns timeout operationTimeout
  | .cleanup => cleanupOperation

theorem closed_known {state : Operation World} (closed : Closed host state) : Known host state :=
  closed.1.imp fun _ pending => .inl pending

theorem call_known (operationTimeout : Seconds) (call : Call) :
    Effect.Ensures (Known host) (call.effect host operationTimeout) (fun _ => Known host)
      (fun _ => Known host) := by
  cases call with
  | run turns =>
      exact (runOperation_ensures turns operationTimeout).mono (fun _ _ => trivial)
        (fun _ _ closed => closed_known closed) fun _ _ closed => closed_known closed
  | wait turns timeout =>
      exact (waitForOperation_ensures turns timeout operationTimeout).mono (fun _ known => known)
        (fun _ _ rebooted => rebooted.imp fun _ known => .inr known)
        fun _ _ closed => closed_known closed
  | cleanup =>
      apply Effect.ensures_modify
      intro state _
      exact ⟨none, .inl ⟨rfl, rfl, fun _ same => (by cases same), fun _ same => by cases same⟩⟩

/-! ### The kernel of the host -/

/-- When the host answers for its uptime, and when the kernel was started that answers. -/
structure Kernel (host : Host World Exc) where
  answers : World → ℚ
  started : World → ℚ
  after_call : ∀ world, host.clock.now world ≤ answers world
  before_return : ∀ world, answers world ≤ host.clock.now (host.getUptime world).2
  tells : ∀ world upTime, (host.getUptime world).1.1 = .ok upTime →
    upTime = answers world - started world

/-- The last event is an answer of a kernel that was started, up to the delay of this answer, after
the start; the start was read directly before the last command was sent, and this is the command
behind which the answer was asked for. -/
def Kernel.RestartedAfter {host : Host World Exc} (kernel : Kernel host) (start : ℚ)
    (events : List (HostEvent World)) : Prop :=
  ∃ earlier world, Commanded host start earlier ∧ events = earlier ++ [.uptime world] ∧
    start ≤ host.clock.now world ∧
    start < kernel.started world +
      ((host.clock.time (host.getUptime world).2).1 - kernel.answers world)

theorem Accepted.restarted (kernel : Kernel host) {start : ℚ} {events : List (HostEvent World)}
    (accepted : Accepted host start events) : kernel.RestartedAfter start events := by
  obtain ⟨earlier, world, upTime, commanded, added, past, answered, shorter⟩ := accepted
  refine ⟨earlier, world, commanded, added, past, ?_⟩
  rw [kernel.tells world upTime answered] at shorter
  linarith

/-- The state of an operation that has just been made. -/
def newOperation (connected : Bool) (world : World) : Operation World where
  isRebooted := false
  startTime := none
  connected := connected
  world := world
  events := []

/-- **A host that counts as rebooted was restarted.** For every host, network and clock and every
run of calls on a new operation, whatever they raise: if the operation is rebooted then its host
has answered behind the last command of the run, and the kernel that answered was started after the
reading of the clock directly before that command, up to the delay of the answer. A call that waits and returns leaves the operation rebooted, and one that raises, or that reboots,
leaves it not rebooted and the connection closed. -/
theorem rebooted_after_command (host : Host World Exc) (kernel : Kernel host)
    (operationTimeout : Seconds) (calls : List Call) (connected : Bool) (world : World)
    (state : Operation World)
    (ran : Effect.runCalls (Call.effect host operationTimeout) calls
      (newOperation connected world) = some state) :
    (state.isRebooted = true → state.connected = true ∧
      ∃ start, state.startTime = some start ∧ kernel.RestartedAfter start state.events) ∧
    (∀ turns timeout result after,
      waitForOperation host turns timeout operationTimeout state = some (result, after) →
        (result = .ok () → after.isRebooted = true) ∧
        ∀ error, result = .error error → after.isRebooted = false ∧ after.connected = false) ∧
    ∀ turns result after, runOperation host turns operationTimeout state = some (result, after) →
      after.isRebooted = false ∧ after.connected = false := by
  have known : Known host state := by
    apply Effect.runCalls_kept (call_known operationTimeout) calls _ ran
    exact ⟨none, .inl ⟨rfl, rfl, fun _ same => (by cases same), fun _ same => by cases same⟩⟩
  refine ⟨fun rebooted => ?_, fun turns timeout result after waited => ?_,
    fun turns result after called => ?_⟩
  · obtain ⟨startTime, pending | accepted⟩ := known
    · rw [pending.pending] at rebooted
      cases rebooted
    · obtain ⟨start, same, told⟩ := accepted.accepted
      exact ⟨accepted.connected, start, accepted.startTime_eq.trans same, told.restarted kernel⟩
  · obtain ⟨returns, raises⟩ := waitForOperation_ensures turns timeout operationTimeout state known
      result after waited
    refine ⟨fun same => ?_, fun error same => ?_⟩
    · obtain ⟨_, rebooted⟩ := returns () same
      exact rebooted.rebooted
    · obtain ⟨⟨_, pending⟩, closed⟩ := raises error same
      exact ⟨pending.pending, closed⟩
  · obtain ⟨returns, raises⟩ := runOperation_ensures turns operationTimeout state trivial result
      after called
    have closed : Closed host after := by
      cases result with
      | ok value => exact returns value rfl
      | error error => exact raises error rfl
    obtain ⟨⟨_, pending⟩, unconnected⟩ := closed
    exact ⟨pending.pending, unconnected⟩

end Safety

/-! ### A host that restarts at once -/

section Example

/-- The kernel restarts when the command arrives; it answers in no time, and a connection takes
a second. The world is the moment, and when the kernel was started. -/
def promptHost : Host (ℚ × ℚ) Unit where
  clock := Clock.ideal.paired ℚ
  connect _ world := ((none, true), (world.1 + 1, world.2))
  execCommand world := (none, (world.1 + 1, world.1 + 1))
  cleanup world := (none, world)
  getUptime world := ((.ok (world.1 - world.2), true), world)
  connect_later _ _ := le_add_of_nonneg_right zero_le_one
  execCommand_later _ := le_add_of_nonneg_right zero_le_one
  cleanup_later _ := le_rfl
  getUptime_later _ := le_rfl

def promptKernel : Kernel promptHost where
  answers := Prod.fst
  started := Prod.snd
  after_call _ := le_rfl
  before_return _ := le_rfl
  tells _ _ told := (Except.ok.inj told).symm

/-- The command was sent a second behind the start and the uptime was asked for two seconds behind
it. -/
def promptEvents : List (HostEvent (ℚ × ℚ)) := [.command (1, 0), .uptime (2, 2)]

theorem promptHost_reboots :
    Effect.runCalls (Call.effect promptHost none) [.run 1, .wait 1 none]
      (newOperation false (0, 0)) = some ⟨true, some 1, true, (2, 2), promptEvents⟩ := by
  decide +kernel

theorem rebooted_after_command_prompt : promptKernel.RestartedAfter 1 promptEvents := by
  obtain ⟨-, start, startTime, restarted⟩ := (rebooted_after_command promptHost promptKernel none
    [.run 1, .wait 1 none] false (0, 0) _ promptHost_reboots).1 rfl
  obtain rfl : start = 1 := (Option.some.inj startTime).symm
  exact restarted

end Example

end Tobiko.Shell.Sh.Reboot
