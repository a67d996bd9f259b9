import Tobiko.Openstack.Neutron.NovaResponseRuns

/-!
Contract: when a `NeutronNovaResponseReader` loses no response and repeats none.

Owns: what one event does to a reader, the runs, and when every reading leaves exactly one
response for each line.

Does not own: the reader and what one reading adds.
-/

namespace Tobiko.Openstack.Neutron

open Tobiko.Foundation Tobiko.Shell.Files

section Verdict

variable {Host Line Data : Type} [DecidableEq Line] [DecidableEq Host]
  (lineReader : LineReader Line Data) (nodes : List Host)

/-- What an event does to a reader that has found these lines. -/
structure Advances (lines later : Host → List Line) (state after : ReaderState Host Line Data)
    (event : ReaderEvent Host Line) : Prop where
  steps : state.step lineReader nodes event = some after
  logs : after.logs = fun host => state.logs host ++ event.grown host
  setUp : after.reader.logDigger.isSome = event.setUpAfter state.reader.logDigger.isSome
  tracks : Tracks lineReader nodes later after
  reads : state.Reads event → later = lineReader.matched after.logs
  hasRead : HasRead lineReader nodes lines state → state.SetsUpWell lineReader nodes event →
    HasRead lineReader nodes later after
  setsUpWell : state.Reads event → Complete lineReader nodes after →
    state.SetsUpWell lineReader nodes event

variable {lineReader nodes} {lines : Host → List Line} {state : ReaderState Host Line Data}

omit [DecidableEq Line] in
theorem nodup_matched {logs : Host → List Line} (distinct : ∀ host ∈ nodes, (logs host).Nodup) :
    ∀ host ∈ hostsOf nodes, (lineReader.matched logs host).Nodup :=
  fun host member => (distinct host (mem_hostsOf.mp member)).filter _

theorem advances_read (tracks : Tracks lineReader nodes lines state)
    (setUp : state.reader.logDigger.isSome = true)
    (distinct : ∀ host ∈ nodes, (state.logs host).Nodup) :
    ∃ later after, Advances lineReader nodes lines later state after .read := by
  obtain ⟨diggers, present⟩ := Option.isSome_iff_exists.mp setUp
  obtain ⟨earlier, names, found⟩ := tracks.found diggers present
  let rest := fun host => (lineReader.matched state.logs host).drop (lines host).length
  have whole : ∀ host ∈ hostsOf nodes,
      lines host ++ rest host = lineReader.matched state.logs host := by
    intro host member
    obtain ⟨extra, same⟩ := tracks.begins host member
    show lines host ++ (lineReader.matched state.logs host).drop (lines host).length = _
    rw [← same, List.drop_left]
  have continues : Continues lineReader.matching state.logs lines rest (diggers.map Prod.fst) := by
    rw [names]
    intro host member
    refine ⟨(whole host member).symm, ?_⟩
    rw [whole host member]
    exact nodup_matched distinct host member
  obtain ⟨responses, after, read, perm, afterNames, foundAfter⟩ :
      ∃ responses after, (state.reader.readResponses lineReader state.logs diggers :
        Except (DiggerError Empty) _ × _) = (.ok responses, _) ∧ _ ∧ _ ∧ _ :=
    readResponses_eq lineReader state.reader found continues
  rw [names] at perm afterNames
  refine ⟨lineReader.matched state.logs, ⟨⟨some (state.reader.responses.getD [] ++ responses),
    some after⟩, state.logs, state.results ++ [responses]⟩, ?_⟩
  constructor
  case steps =>
    unfold ReaderState.step
    rw [present]
    dsimp only
    rw [read]
    rfl
  case logs =>
    funext host
    exact (List.append_nil _).symm
  case setUp => exact setUp.symm
  case tracks => exact tracks_afterReading _ _ whole afterNames foundAfter rfl rfl
  case reads => exact fun _ => rfl
  case hasRead =>
    intro hasRead _
    exact complete_afterReading whole perm hasRead fun _ host _ => rfl
  case setsUpWell => exact fun _ _ => trivial

theorem advances_firstSetUp (grown : Host → List Line)
    (setUp : state.reader.logDigger = none)
    (tracks : Tracks lineReader nodes lines state)
    (distinct : ∀ host ∈ nodes, (state.logs host ++ grown host).Nodup) :
    ∃ later after, Advances lineReader nodes lines later state after (.setUp grown) := by
  let grownLogs := fun host => state.logs host ++ grown host
  have whole : ∀ host ∈ hostsOf nodes, lineReader.matched state.logs host ++
      lineReader.matched grown host = lineReader.matched grownLogs host :=
    fun host _ => (matched_append state.logs grown host).symm
  have wholeDistinct : ∀ host ∈ hostsOf nodes, (lineReader.matched state.logs host ++
      lineReader.matched grown host).Nodup := by
    intro host member
    rw [whole host member]
    exact nodup_matched distinct host member
  have continues : Continues lineReader.matching grownLogs (lineReader.matched state.logs)
      (lineReader.matched grown) (hostsOf nodes) :=
    fun host member => ⟨(whole host member).symm, wholeDistinct host member⟩
  obtain ⟨responses, after, read, perm, afterNames, foundAfter⟩ :
      ∃ responses after, (state.reader.setupFixture lineReader nodes state.logs grownLogs :
        Except (DiggerError Empty) _ × _) = (.ok responses, _) ∧ _ ∧ _ ∧ _ :=
    setupFixture_eq lineReader state.reader nodes continues
  refine ⟨lineReader.matched grownLogs, ⟨⟨some (state.reader.responses.getD [] ++ responses),
    some after⟩, grownLogs, state.results ++ [responses]⟩, ?_⟩
  constructor
  case steps =>
    unfold ReaderState.step
    rw [setUp]
    dsimp only
    rw [read]
    rfl
  case logs => rfl
  case setUp => rfl
  case tracks => exact tracks_afterReading _ _ whole afterNames foundAfter rfl rfl
  case reads => exact fun _ => rfl
  case hasRead =>
    intro hasRead well
    apply complete_afterReading whole perm hasRead
    intro earlier host member
    exact lines_eq_of_missesNothing hasRead tracks.begins (well setUp) earlier
      (fun host member => (wholeDistinct host member).of_append_left) member
  case setsUpWell =>
    intro _ complete _ old present host ofNodes line there matching
    have all := complete.responses
    rw [present] at perm all
    exact missesNothing_of_complete perm whole wholeDistinct all ofNodes there matching

/-- **The step.** -/
theorem advances (tracks : Tracks lineReader nodes lines state) (event : ReaderEvent Host Line)
    (setUp : event = .read → state.reader.logDigger.isSome = true)
    (distinct : ∀ host ∈ nodes, (state.logs host ++ event.grown host).Nodup) :
    ∃ later after, Advances lineReader nodes lines later state after event := by
  cases event with
  | read =>
      exact advances_read tracks (setUp rfl) fun host member => (distinct host member).of_append_left
  | grow grown =>
      exact ⟨lines, { state with logs := fun host => state.logs host ++ grown host },
        ⟨rfl, rfl, rfl, tracks.grow grown, False.elim, fun hasRead _ =>
          ⟨hasRead.responses, hasRead.results⟩, fun _ _ => trivial⟩⟩
  | cleanUp =>
      exact ⟨lines, { state with reader := state.reader.cleanUp },
        ⟨rfl, funext fun host => (List.append_nil _).symm, rfl, tracks.cleanUp, False.elim,
          fun hasRead _ => ⟨hasRead.responses, hasRead.results⟩, fun _ _ => trivial⟩⟩
  | setUp grown =>
      cases present : state.reader.logDigger with
      | none => exact advances_firstSetUp grown present tracks distinct
      | some diggers =>
          have notNone : state.reader.logDigger ≠ none := by simp [present]
          refine ⟨lines, { state with logs := fun host => state.logs host ++ grown host }, ?_⟩
          constructor
          case steps =>
            unfold ReaderState.step
            rw [present]
          case logs => rfl
          case setUp =>
            show state.reader.logDigger.isSome = true
            rw [present]
            rfl
          case tracks => exact tracks.grow grown
          case reads => exact fun reads => absurd reads notNone
          case hasRead => exact fun hasRead _ => ⟨hasRead.responses, hasRead.results⟩
          case setsUpWell => exact fun reads _ => absurd reads notNone

/-! ### Runs -/

/-- `read_responses` is only called while the reader is set up. -/
def ReadsWhileSetUp (setUp : Bool) : List (ReaderEvent Host Line) → Prop
  | [] => True
  | event :: events =>
      (event = .read → setUp = true) ∧ ReadsWhileSetUp (event.setUpAfter setUp) events

/-- The logs after the lines of some events have been appended to them. -/
def logsAfter (logs : Host → List Line) (events : List (ReaderEvent Host Line)) (host : Host) :
    List Line :=
  logs host ++ events.flatMap fun event => event.grown host

/-- What holds of each event of a run and of the state before it. -/
def AtEachEvent (lineReader : LineReader Line Data) (nodes : List Host)
    (holds : ReaderState Host Line Data → ReaderEvent Host Line → Prop)
    (state : ReaderState Host Line Data) (events : List (ReaderEvent Host Line)) : Prop :=
  ∀ before event reached, before ++ [event] <+: events →
    state.run lineReader nodes before = some reached → holds reached event

/-- A call of `read_responses` leaves exactly one response for each line. -/
def ReaderState.ReadsCompletely (lineReader : LineReader Line Data) (nodes : List Host)
    (state : ReaderState Host Line Data) (event : ReaderEvent Host Line) : Prop :=
  ∀ after, state.Reads event → state.step lineReader nodes event = some after →
    Complete lineReader nodes after

theorem run_cons {event : ReaderEvent Host Line} {after : ReaderState Host Line Data}
    (steps : state.step lineReader nodes event = some after)
    (events : List (ReaderEvent Host Line)) :
    state.run lineReader nodes (event :: events) = after.run lineReader nodes events := by
  unfold ReaderState.run
  rw [List.foldlM_cons, steps]
  rfl

theorem atEachEvent_cons {holds : ReaderState Host Line Data → ReaderEvent Host Line → Prop}
    {event : ReaderEvent Host Line} {after : ReaderState Host Line Data}
    (steps : state.step lineReader nodes event = some after)
    (events : List (ReaderEvent Host Line)) :
    AtEachEvent lineReader nodes holds state (event :: events) ↔
      holds state event ∧ AtEachEvent lineReader nodes holds after events := by
  constructor
  · intro all
    constructor
    · exact all [] event state (List.prefix_append [event] events) rfl
    · intro before other reached isPrefix runs
      apply all (event :: before) other reached
      · exact List.cons_prefix_cons.mpr ⟨rfl, isPrefix⟩
      · rw [run_cons steps]
        exact runs
  · intro all before other reached isPrefix runs
    cases before with
    | nil =>
        cases runs
        cases (List.cons_prefix_cons.mp isPrefix).1
        exact all.1
    | cons first before =>
        obtain ⟨same, isPrefixAfter⟩ := List.cons_prefix_cons.mp isPrefix
        subst same
        rw [run_cons steps] at runs
        exact all.2 before other reached isPrefixAfter runs

omit [DecidableEq Line] [DecidableEq Host] in
theorem logsAfter_cons (logs : Host → List Line) (event : ReaderEvent Host Line)
    (events : List (ReaderEvent Host Line)) :
    logsAfter logs (event :: events) =
      logsAfter (fun host => logs host ++ event.grown host) events := by
  funext host
  unfold logsAfter
  rw [List.flatMap_cons, List.append_assoc]

theorem runs (tracks : Tracks lineReader nodes lines state) (events : List (ReaderEvent Host Line))
    (legal : ReadsWhileSetUp state.reader.logDigger.isSome events)
    (distinct : ∀ host ∈ nodes, (logsAfter state.logs events host).Nodup) :
    ∃ final, state.run lineReader nodes events = some final ∧
      final.logs = logsAfter state.logs events := by
  induction events generalizing lines state with
  | nil =>
      refine ⟨state, rfl, ?_⟩
      funext host
      exact (List.append_nil _).symm
  | cons event events inductionHypothesis =>
      rw [logsAfter_cons] at distinct
      obtain ⟨later, after, next⟩ := advances tracks event legal.1 fun host member =>
        (distinct host member).of_append_left
      have legalAfter := legal.2
      rw [← next.setUp] at legalAfter
      rw [← next.logs] at distinct
      obtain ⟨final, runs, logs⟩ := inductionHypothesis next.tracks legalAfter distinct
      refine ⟨final, ?_, ?_⟩
      · rw [run_cons next.steps, runs]
      · rw [logs, logsAfter_cons, next.logs]

/-- **The readings of a run are complete if its set ups are good.** -/
theorem readsCompletely_iff (tracks : Tracks lineReader nodes lines state)
    (hasRead : HasRead lineReader nodes lines state) (events : List (ReaderEvent Host Line))
    (legal : ReadsWhileSetUp state.reader.logDigger.isSome events)
    (distinct : ∀ host ∈ nodes, (logsAfter state.logs events host).Nodup) :
    AtEachEvent lineReader nodes (ReaderState.ReadsCompletely lineReader nodes) state events ↔
      AtEachEvent lineReader nodes (ReaderState.SetsUpWell lineReader nodes) state events := by
  induction events generalizing lines state with
  | nil =>
      constructor <;> exact fun _ before _ _ isPrefix _ => by simp at isPrefix
  | cons event events inductionHypothesis =>
      rw [logsAfter_cons] at distinct
      obtain ⟨later, after, next⟩ := advances tracks event legal.1 fun host member =>
        (distinct host member).of_append_left
      have legalAfter := legal.2
      rw [← next.setUp] at legalAfter
      rw [← next.logs] at distinct
      have here : state.ReadsCompletely lineReader nodes event ↔
          state.SetsUpWell lineReader nodes event := by
        constructor
        · intro completely
          by_cases reads : state.Reads event
          · exact next.setsUpWell reads (completely after reads next.steps)
          · cases event with
            | setUp grown => exact fun setUp => absurd setUp reads
            | _ => trivial
        · intro well other reads steps
          cases next.steps.symm.trans steps
          unfold Complete
          rw [← next.reads reads]
          exact next.hasRead hasRead well
      rw [atEachEvent_cons next.steps, atEachEvent_cons next.steps, here]
      apply and_congr_right
      intro well
      exact inductionHypothesis next.tracks (next.hasRead hasRead well) legalAfter distinct

/-- **The reader loses no response and repeats none if and only if no line appears between a
reading and a later set up.** -/
theorem novaResponseReader_complete_iff (lineReader : LineReader Line Data) (nodes : List Host)
    (logs : Host → List Line) (events : List (ReaderEvent Host Line))
    (legal : ReadsWhileSetUp false events)
    (distinct : ∀ host ∈ nodes, (logsAfter logs events host).Nodup) :
    ∃ final, (ReaderState.new logs).run lineReader nodes events = some final ∧
      final.logs = logsAfter logs events ∧
      (AtEachEvent lineReader nodes (ReaderState.ReadsCompletely lineReader nodes) (.new logs)
          events ↔
        AtEachEvent lineReader nodes (ReaderState.SetsUpWell lineReader nodes) (.new logs)
          events) := by
  have tracks : Tracks lineReader nodes (fun _ => [])
      (.new logs : ReaderState Host Line Data) :=
    ⟨fun host _ => List.nil_prefix, fun diggers present => (by cases present)⟩
  have nothing : responsesOf lineReader (hostsOf nodes) (fun _ => []) = [] := by
    show (hostsOf nodes).flatMap (fun _ => []) = []
    simp
  have hasRead : HasRead lineReader nodes (fun _ => [])
      (.new logs : ReaderState Host Line Data) :=
    ⟨List.Perm.of_eq nothing.symm, List.Perm.refl _⟩
  obtain ⟨final, run, same⟩ := runs tracks events legal distinct
  exact ⟨final, run, same, readsCompletely_iff tracks hasRead events legal distinct⟩

end Verdict

/-! ### A line between two readings -/

/-- A reader of the lines of one controller, in which every line matches. -/
def plainLineReader : LineReader String Unit := ⟨fun _ => true, fun _ => 0, fun _ => ()⟩

/-- A response appears after a clean up and before the next set up. -/
def missedLine : List (ReaderEvent String String) :=
  [.setUp fun _ => [], .cleanUp, .grow fun _ => ["plugged"], .setUp fun _ => []]

theorem missedLine_legal : ReadsWhileSetUp false missedLine := by
  simp [missedLine, ReadsWhileSetUp]

theorem missedLine_distinct : ∀ host ∈ ["controller-0"],
    (logsAfter (fun _ => []) missedLine host).Nodup := by decide

theorem novaResponseReader_complete_iff_missedLine :
    ∃ final, (ReaderState.new fun _ => []).run plainLineReader ["controller-0"] missedLine =
        some final ∧
      final.logs = logsAfter (fun _ => []) missedLine ∧
      (AtEachEvent plainLineReader ["controller-0"]
          (ReaderState.ReadsCompletely plainLineReader ["controller-0"]) (.new fun _ => [])
          missedLine ↔
        AtEachEvent plainLineReader ["controller-0"]
          (ReaderState.SetsUpWell plainLineReader ["controller-0"]) (.new fun _ => [])
          missedLine) :=
  novaResponseReader_complete_iff plainLineReader ["controller-0"] (fun _ => []) missedLine
    missedLine_legal missedLine_distinct

/-- The second set up does not return the response as a new one. -/
theorem novaResponseReader_misses :
    ReadsWhileSetUp false missedLine ∧
      (∀ host ∈ ["controller-0"], (logsAfter (fun _ => []) missedLine host).Nodup) ∧
      ¬AtEachEvent plainLineReader ["controller-0"]
        (ReaderState.ReadsCompletely plainLineReader ["controller-0"]) (.new fun _ => [])
        missedLine := by
  refine ⟨missedLine_legal, missedLine_distinct, fun all => ?_⟩
  have complete := all (missedLine.take 3) (.setUp fun _ => []) _ (List.prefix_refl _) rfl _ rfl rfl
  have missed := complete.responses.length_eq
  revert missed
  decide +kernel

end Tobiko.Openstack.Neutron
