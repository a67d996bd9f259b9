import Tobiko.Shell.Sh.Stdin

/-!
Contract: the loop of `ShellProcessFixture.communicate` in `tobiko/shell/sh/_process.py`.

Owns: the turns of the loop over the three streams of a process, what they do to the data
that is left to send and to the standard input, and when the process receives what was sent.

Does not own: how long the loop waits for a stream to become ready.
-/

namespace Tobiko.Shell.Sh

inductive StreamName where
  | stdin
  | stdout
  | stderr
deriving DecidableEq, Repr

inductive CommunicateError where
  | retryLimit
  | stdinClosed
  | writeFailed
  | readFailed
deriving DecidableEq, Repr

/-- What the environment answers in one turn: whether the retry raises instead of making
an attempt, which streams are opened when they are selected and which of these are ready,
whether the standard input is still opened when it is written to, what a stream reads, and
whether the time has expired when none is ready. -/
structure Turn where
  limit : Bool
  opened : StreamName → Bool
  ready : StreamName → Bool
  stillOpened : Bool
  read : StreamName → Option (List UInt8)
  expired : Bool

/-- The variables of the loop, with the standard input of the process. `closed` are the
streams that the loop has closed. -/
structure Communication where
  stdin : Option Data
  streams : List StreamName
  closed : List StreamName
  writable : ShellWritable

/-- How a part of a turn ends. -/
inductive Signal where
  | next
  | finished
  | raised (error : CommunicateError)
deriving DecidableEq, Repr

namespace Communication

/-- `streams.remove(...)` -/
def remove (name : StreamName) (state : Communication) : Communication :=
  { state with streams := state.streams.filter (· ≠ name) }

def close (name : StreamName) (state : Communication) : Communication :=
  { state with closed := name :: state.closed }

/-- `_is_communicating` -/
def isCommunicating (receive : Bool) (state : Communication) : Bool :=
  if state.stdin.any Data.truthy && state.streams.contains .stdin then true
  else receive && (state.streams.contains .stdout || state.streams.contains .stderr)

/-- `_write_to_stdin` for the data that is left, and the removal of the standard input when
nothing is left. -/
def writeToStdin (delegate : Delegate) (turn : Turn) (state : Communication) :
    Signal × Communication :=
  if !turn.stillOpened then (.raised .stdinClosed, state)
  else
    match state.stdin with
    | none => (.raised .writeFailed, state)
    | some data =>
        match state.writable.write delegate data with
        | none => (.raised .writeFailed, state)
        | some (sent, writable) =>
            if sent = 0 then (.next, close .stdin { state with writable })
            else
              match data.rest sent with
              | none => (.next, remove .stdin { state with stdin := none, writable })
              | some rest => (.next, { state with stdin := some rest, writable })

/-- `_read_from_stdout` and `_read_from_stderr`, with the removal of a closed stream. -/
def readFrom (name : StreamName) (turn : Turn) (state : Communication) :
    Signal × Communication :=
  match turn.read name with
  | none => (.raised .readFailed, state.close name)
  | some chunk => if chunk = [] then (.next, (state.close name).remove name) else (.next, state)

/-- `first`, and then `second` unless it has raised. -/
def andThen (first : Signal × Communication)
    (second : Communication → Signal × Communication) : Signal × Communication :=
  match first with
  | (.next, state) => second state
  | other => other

/-- What is done with the streams that are ready. -/
def serve (delegate : Delegate) (turn : Turn) (ready : List StreamName)
    (state : Communication) : Signal × Communication :=
  let written := if ready.contains .stdin then state.writeToStdin delegate turn else (.next, state)
  let read := andThen written fun state =>
    if ready.contains .stdout then state.readFrom .stdout turn else (.next, state)
  andThen read fun state =>
    if ready.contains .stderr then state.readFrom .stderr turn else (.next, state)

/-- One turn of the loop. -/
def step (delegate : Delegate) (receive : Bool) (turn : Turn) (state : Communication) :
    Signal × Communication :=
  if turn.limit then (.raised .retryLimit, state)
  else if !state.isCommunicating receive then (.finished, state)
  else
    let opened := state.streams.filter fun name => turn.opened name && !state.closed.contains name
    let ready := opened.filter turn.ready
    let state := { state with streams := opened }
    if ready = [] then
      if turn.expired then (.raised .retryLimit, state) else (.next, state)
    else state.serve delegate turn ready

/-- The loop, for as many turns as are given. -/
def run (delegate : Delegate) (receive : Bool) : List Turn → Communication →
    Signal × Communication
  | [], state => (.next, state)
  | turn :: turns, state => andThen (state.step delegate receive turn) (run delegate receive turns)

end Communication

/-- The start of `communicate`, with the streams that are opened. -/
def Communication.start (stdin : Option Data) (stdout stderr : Bool)
    (opened : StreamName → Bool) (writable : ShellWritable) : Communication where
  stdin := stdin
  streams := ([(stdin.any Data.truthy, .stdin), (stdout, .stdout), (stderr, .stderr)].filter
    fun stream : Bool × StreamName => stream.1 && opened stream.2).map Prod.snd
  closed := []
  writable := writable

/-- Nothing is left to send. -/
def Communication.Sent (state : Communication) : Prop := state.stdin.any Data.truthy = false

section Turns

variable {delegate : Delegate} {turn : Turn} {state : Communication}

/-- The standard input is among the streams only as long as there is data to send. -/
def Communication.Consistent (state : Communication) : Prop :=
  .stdin ∈ state.streams → state.stdin.any Data.truthy = true

/-- From a consistent state, `after` is reached by writes of what was left to send. -/
structure Follows (delegate : Delegate) (before after : Communication) : Prop where
  sends : Sends delegate before.stdin before.writable after.stdin after.writable
  consistent : after.Consistent

theorem Follows.trans {first second third : Communication}
    (before : Follows delegate first second) (after : Follows delegate second third) :
    Follows delegate first third :=
  ⟨before.sends.trans after.sends, after.consistent⟩

/-- A part that writes nothing and adds no stream. -/
theorem Follows.of_silent {before after : Communication} (consistent : before.Consistent)
    (stdin : after.stdin = before.stdin) (writable : after.writable = before.writable)
    (streams : after.streams ⊆ before.streams) : Follows delegate before after := by
  refine ⟨?_, fun member => ?_⟩
  · rw [stdin, writable]
    exact .idle _ _
  · rw [stdin]
    exact consistent (streams member)

theorem Follows.andThen {first : Signal × Communication}
    {second : Communication → Signal × Communication}
    (before : Follows delegate state first.2)
    (after : ∀ middle : Communication, middle.Consistent →
      Follows delegate middle (second middle).2) :
    Follows delegate state (Communication.andThen first second).2 := by
  obtain ⟨signal, middle⟩ := first
  cases signal with
  | next => exact before.trans (after middle before.consistent)
  | finished => exact before
  | raised error => exact before

/-! ### The parts of a turn -/

theorem writeToStdin_follows (accepting : delegate.Accepting) (consistent : state.Consistent)
    (truthy : state.stdin.any Data.truthy = true) :
    Follows delegate state (state.writeToStdin delegate turn).2 := by
  have same : Follows delegate state state :=
    .of_silent consistent rfl rfl fun _ member => member
  unfold Communication.writeToStdin
  split
  · exact same
  · cases pending : state.stdin with
    | none => exact same
    | some data =>
        rw [pending, Option.any_some] at truthy
        obtain ⟨number, positive, _, accepts⟩ :=
          accepting state.writable.accepted.length data.encode (encode_ne_nil truthy)
        simp only [write_eq accepts, Nat.ne_of_gt positive, if_false]
        cases leftOver : data.rest number with
        | none =>
            refine ⟨?_, fun member => ?_⟩
            · rw [pending]
              refine .write data _ number _ _ truthy accepts ?_
              rw [leftOver]
              exact .idle _ _
            · simp [Communication.remove] at member
        | some rest =>
            refine ⟨?_, fun _ => by simpa using truthy_of_rest leftOver⟩
            rw [pending]
            refine .write data _ number _ _ truthy accepts ?_
            rw [leftOver]
            exact .idle _ _

theorem readFrom_follows {name : StreamName} (consistent : state.Consistent) :
    Follows delegate state (state.readFrom name turn).2 := by
  unfold Communication.readFrom
  split
  · exact .of_silent consistent rfl rfl fun _ member => member
  · split
    · exact .of_silent consistent rfl rfl (List.filter_sublist.subset)
    · exact .of_silent consistent rfl rfl fun _ member => member

theorem serve_follows (accepting : delegate.Accepting) (consistent : state.Consistent)
    {ready : List StreamName} (streams : ready ⊆ state.streams) :
    Follows delegate state (state.serve delegate turn ready).2 := by
  unfold Communication.serve
  refine .andThen (.andThen ?_ fun middle middleConsistent => ?_)
    fun middle middleConsistent => ?_
  · split
    · rename_i member
      exact writeToStdin_follows accepting consistent
        (consistent (streams (List.contains_iff_mem.mp member)))
    · exact .of_silent consistent rfl rfl fun _ member => member
  · split
    · exact readFrom_follows middleConsistent
    · exact .of_silent middleConsistent rfl rfl fun _ member => member
  · split
    · exact readFrom_follows middleConsistent
    · exact .of_silent middleConsistent rfl rfl fun _ member => member

theorem step_follows {receive : Bool} (accepting : delegate.Accepting)
    (consistent : state.Consistent) :
    Follows delegate state (state.step delegate receive turn).2 := by
  unfold Communication.step
  split
  · exact .of_silent consistent rfl rfl fun _ member => member
  · split
    · exact .of_silent consistent rfl rfl fun _ member => member
    · have opened : Follows delegate state { state with
          streams := state.streams.filter fun name =>
            turn.opened name && !state.closed.contains name } :=
        .of_silent consistent rfl rfl List.filter_sublist.subset
      simp only
      split
      · split
        · exact opened
        · exact opened
      · exact opened.trans
          (serve_follows accepting opened.consistent List.filter_sublist.subset)

/-- What the whole loop does to the standard input are writes of the data. -/
theorem run_follows {receive : Bool} (accepting : delegate.Accepting) {turns : List Turn}
    (consistent : state.Consistent) :
    Follows delegate state (state.run delegate receive turns).2 := by
  induction turns generalizing state with
  | nil => exact .of_silent consistent rfl rfl fun _ member => member
  | cons turn turns inductionHypothesis =>
      exact .andThen (step_follows accepting consistent)
        fun middle middleConsistent => inductionHypothesis middleConsistent

theorem start_consistent {stdin : Option Data} {stdout stderr : Bool}
    {opened : StreamName → Bool} {writable : ShellWritable} :
    (Communication.start stdin stdout stderr opened writable).Consistent := by
  intro member
  obtain ⟨stream, kept, named⟩ := List.mem_map.mp member
  obtain ⟨inStreams, selected⟩ := List.mem_filter.mp kept
  simp only [List.mem_cons, List.not_mem_nil, or_false] at inStreams
  rcases inStreams with rfl | rfl | rfl
  · exact (Bool.and_eq_true_iff.mp selected).1
  · cases named
  · cases named

end Turns

/-- **Input fidelity.** Whatever the turns of the loop, once nothing is left to send and
when each write accepts at least one byte, the process has received the data and its record
is that of the data exactly when there was nothing to send or the first write accepted all
of it. -/
theorem process_input_iff {delegate : Delegate} (accepting : delegate.Accepting) {data : Data}
    {stdout stderr receive : Bool} {opened : StreamName → Bool} {writable : ShellWritable}
    {turns : List Turn} {signal : Signal} {final : Communication}
    (runs : (Communication.start (some data) stdout stderr opened writable).run delegate
      receive turns = (signal, final)) (sent : final.Sent) :
    (final.writable.accepted.flatten = writable.accepted.flatten ++ data.encode ∧
      final.writable.data.getD [] = writable.data.getD [] ++ data.encode) ↔
    data.encode = [] ∨
      (delegate writable.accepted.length data.encode).accepts data.encode =
        some data.encode.length := by
  have follows : Follows delegate (.start (some data) stdout stderr opened writable)
      ((Communication.start (some data) stdout stderr opened writable).run delegate receive
        turns).2 := run_follows accepting start_consistent
  rw [runs] at follows
  have sends : Sends delegate (some data) writable final.stdin final.writable := follows.sends
  rw [data_getD, data_getD]
  cases truthy : data.truthy with
  | false =>
      have nothing := encode_eq_nil_iff.mpr truthy
      rw [sends.of_empty truthy, nothing]
      simp
  | true =>
      have leftTruthy := sends.left_truthy fun other same => by
        cases same
        exact truthy
      have nothingLeft : final.stdin = none := by
        cases left : final.stdin with
        | none => rfl
        | some rest =>
            have pending := leftTruthy rest left
            simp [Communication.Sent, left, pending] at sent
      rw [nothingLeft] at sends
      simpa [encode_ne_nil truthy] using sends.faithful_iff truthy accepting

/-- A delegate that accepts two bytes at once. -/
def twoBytes : Delegate := fun _ offered => .count (min 2 offered.length)

theorem twoBytes_accepting : twoBytes.Accepting := by
  intro index offered nonempty
  have positive := List.length_pos_of_ne_nil nonempty
  refine ⟨min 2 offered.length, ?_, ?_, rfl⟩
  · omega
  · omega

/-- A turn in which the standard input is ready. -/
def writeTurn : Turn where
  limit := false
  opened _ := true
  ready name := name = .stdin
  stillOpened := true
  read _ := some []
  expired := false

/-- One turn that sends a text. -/
def shortRun (text : List Char) : Signal × Communication :=
  (Communication.start (some (.str text)) true true (fun _ => true) ⟨[], []⟩).run twoBytes
    false [writeTurn]

theorem process_input_iff_short :
    ((shortRun ['é']).2.writable.accepted.flatten = [] ++ (Data.str ['é']).encode ∧
      (shortRun ['é']).2.writable.data.getD [] = [] ++ (Data.str ['é']).encode) ↔
    (Data.str ['é']).encode = [] ∨
      (twoBytes 0 (Data.str ['é']).encode).accepts (Data.str ['é']).encode =
        some (Data.str ['é']).encode.length :=
  process_input_iff twoBytes_accepting
    (rfl : shortRun ['é'] = ((shortRun ['é']).1, (shortRun ['é']).2)) rfl

/-- Of `éa`, which is three bytes, the last one is lost. -/
theorem character_lost :
    ¬ ∀ (delegate : Delegate) (data : Data) (turns : List Turn) (signal : Signal)
        (final : Communication), delegate.Accepting →
      (Communication.start (some data) true true (fun _ => true) ⟨[], []⟩).run delegate false
        turns = (signal, final) → final.Sent →
      final.writable.accepted.flatten = data.encode ∧
        final.writable.data.getD [] = data.encode := by
  intro faithful
  have wrong := faithful twoBytes (.str ['é', 'a']) [writeTurn] _ _ twoBytes_accepting rfl rfl
  exact absurd wrong.1 (by decide)

end Tobiko.Shell.Sh
