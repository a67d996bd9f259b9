import Tobiko.Openstack.Octavia.TrafficBalance

/-!
Contract: the verdict of `check_members_balanced` on any sequence of replies and failures.

Owns: what the verdict ought to be, what the loop keeps of the requests that it has sent, and
when the verdict is right.

Does not own: the requests and the checks.

The product of the counts is the limit of the loop. Without members it is zero, which `retry`
takes as no limit, and the requests go on until one of them fails.
-/

namespace Tobiko.Openstack.Octavia

open Tobiko.Common Tobiko.Common.Time Tobiko.Foundation
open Tobiko.Foundation.Text (strip)

/-! ### What the verdict ought to be -/

section Verdict

variable {World Exc PoolId Member : Type} (check : BalanceCheck PoolId)
  (traffic : Traffic World Exc)

/-- The answer to the request before which so many have been sent. -/
def answer (sent : Nat) : Except (RequestFailure Exc) Text :=
  (traffic.executeCurl check.curlRequest sent).map strip

def AllReplied (requests : Nat) : Prop :=
  ∀ sent < requests, ∃ content, answer check traffic sent = .ok content

/-- The contents that replied to the first requests. -/
def contents (requests : Nat) : List Text :=
  (List.range requests).filterMap fun sent => (answer check traffic sent).toOption

/-- The next reply after this one violates the algorithm. -/
def RepeatedAt (membersCount sent : Nat) : Prop :=
  check.lbAlgorithm = some roundRobinAlgorithm ∧ 1 < membersCount ∧
    ∃ content, answer check traffic sent = .ok content ∧ answer check traffic (sent + 1) = .ok content

def NeverRepeated (membersCount requests : Nat) : Prop :=
  ∀ sent, sent + 1 < requests → ¬RepeatedAt check traffic membersCount sent

/-- The requests that are to be sent, when nothing goes wrong. -/
def requestsDue (membersCount : Nat) : Nat := max 1 (membersCount * check.requestsCount)

/-- The result of a check, and the number of its requests, as they ought to be. -/
structure RightVerdict (membersCount : Nat)
    (result : Except (BalanceError Exc) (Dict Text Nat)) (sent : Nat) : Prop where
  requests : sent ≤ requestsDue check membersCount
  returns : (∃ replies, result = .ok replies) ↔
    AllReplied check traffic (requestsDue check membersCount) ∧
      (contents check traffic (requestsDue check membersCount)).dedup.length = membersCount ∧
      NeverRepeated check traffic membersCount (requestsDue check membersCount)
  counts : ∀ replies, result = .ok replies →
    (∀ content count, replies.get? content = some count ↔
      content ∈ contents check traffic sent ∧
        count = (contents check traffic sent).countP (· = content)) ∧ replies.total = sent
  timeout : ∀ failed stderr, failed < requestsDue check membersCount →
    traffic.executeCurl check.curlRequest failed = .error (.shellCommandFailed 28 stderr) →
    AllReplied check traffic failed → NeverRepeated check traffic membersCount failed →
    result = .error (.trafficTimeout stderr)
  repeated : ∀ sent, sent + 1 < requestsDue check membersCount → AllReplied check traffic sent →
    RepeatedAt check traffic membersCount sent → ∃ message, result = .error (.roundRobin message)
  missing : AllReplied check traffic (requestsDue check membersCount) →
    (contents check traffic (requestsDue check membersCount)).dedup.length ≠ membersCount →
    ∃ message, result = .error (.roundRobin message)

/-- The check comes to an end, and always with the right verdict. -/
def EndsRight (listMembers : PoolId → Except Exc (List Member)) (clock : Clock World)
    (membersCount : Nat) (world : World) : Prop :=
  (∃ turns, (checkMembersBalanced check traffic clock listMembers turns (world, 0)).isSome) ∧
    ∀ turns result after,
      checkMembersBalanced check traffic clock listMembers turns (world, 0) =
        some (result, after) → RightVerdict check traffic membersCount result after.2

end Verdict

/-! ### The replies so far -/

section Replies

variable {World Exc PoolId : Type} {check : BalanceCheck PoolId} {traffic : Traffic World Exc}
  {membersCount sent : Nat} {content : Text}

theorem answer_ok {stdout : Text}
    (replied : traffic.executeCurl check.curlRequest sent = .ok stdout) :
    answer check traffic sent = .ok (strip stdout) := by
  rw [answer, replied]
  rfl

theorem answer_error {failure : RequestFailure Exc}
    (failed : traffic.executeCurl check.curlRequest sent = .error failure) :
    answer check traffic sent = .error failure := by
  rw [answer, failed]
  rfl

theorem AllReplied.succ (before : AllReplied check traffic sent)
    (replied : answer check traffic sent = .ok content) : AllReplied check traffic (sent + 1) := by
  intro earlier below
  rcases Nat.lt_succ_iff_lt_or_eq.mp below with earlierBelow | rfl
  · exact before earlier earlierBelow
  · exact ⟨content, replied⟩

theorem not_allReplied {requests : Nat} {failure : RequestFailure Exc} (below : sent < requests)
    (failed : answer check traffic sent = .error failure) : ¬AllReplied check traffic requests := by
  intro all
  obtain ⟨other, replied⟩ := all sent below
  rw [failed] at replied
  cases replied

theorem contents_succ (replied : answer check traffic sent = .ok content) :
    contents check traffic (sent + 1) = contents check traffic sent ++ [content] := by
  rw [contents, List.range_succ, List.filterMap_append]
  simp [replied, Except.toOption, contents]

theorem length_contents (all : AllReplied check traffic sent) :
    (contents check traffic sent).length = sent := by
  induction sent with
  | zero => rfl
  | succ sent inductionHypothesis =>
      obtain ⟨content, replied⟩ := all sent (Nat.lt_succ_self sent)
      rw [contents_succ replied, List.length_append, List.length_singleton,
        inductionHypothesis fun earlier below => all earlier (Nat.lt_succ_of_lt below)]

/-- The last of the contents is the answer to the last request. -/
theorem getLast?_contents (all : AllReplied check traffic (sent + 1)) :
    ∃ content, answer check traffic sent = .ok content ∧
      (contents check traffic (sent + 1)).getLast? = some content := by
  obtain ⟨content, replied⟩ := all sent (Nat.lt_succ_self sent)
  exact ⟨content, replied, by rw [contents_succ replied, List.getLast?_concat]⟩

theorem NeverRepeated.succ (never : NeverRepeated check traffic membersCount sent)
    (now : ∀ before, before + 1 = sent → ¬RepeatedAt check traffic membersCount before) :
    NeverRepeated check traffic membersCount (sent + 1) := by
  intro earlier below
  rcases Nat.lt_succ_iff_lt_or_eq.mp below with earlierBelow | same
  · exact never earlier earlierBelow
  · exact now earlier same

end Replies

/-! ### The loop -/

section Loop

variable {World Exc PoolId : Type} (check : BalanceCheck PoolId) (traffic : Traffic World Exc)
  (membersCount : Nat)

/-- What is known after so many requests of which none went wrong. -/
structure Going (sent : Nat) (balance : Balance) : Prop where
  replied : AllReplied check traffic sent
  never : NeverRepeated check traffic membersCount sent
  replies : balance.replies = Dict.tally (contents check traffic sent)
  lastContent : balance.lastContent = (contents check traffic sent).getLast?

/-- The body is about to send the request with the number of the attempt. -/
def BeforeAttempt (number : Int) (balance : Balance) (state : World × Nat) : Prop :=
  number = state.2 + 1 ∧ state.2 < requestsDue check membersCount ∧
    Going check traffic membersCount state.2 balance

/-- All the requests have been sent, and none went wrong. -/
structure AllSent (replies : Dict Text Nat) (state : World × Nat) : Prop where
  sent : state.2 = requestsDue check membersCount
  replied : AllReplied check traffic (requestsDue check membersCount)
  never : NeverRepeated check traffic membersCount (requestsDue check membersCount)
  replies : replies = Dict.tally (contents check traffic (requestsDue check membersCount))

/-- One of the requests went wrong, and none before it. -/
structure Stopped (last : Nat) (error : BalanceError Exc) : Prop where
  below : last < requestsDue check membersCount
  replied : AllReplied check traffic last
  never : NeverRepeated check traffic membersCount last
  wrong : (∃ failure, answer check traffic last = .error failure ∧ error = .ofRequest failure) ∨
    ∃ before message, before + 1 = last ∧ RepeatedAt check traffic membersCount before ∧
      error = .roundRobin message

def StoppedIn (error : BalanceError Exc) (state : World × Nat) : Prop :=
  ∃ last, state.2 = last + 1 ∧ Stopped check traffic membersCount last error

/-- The loop cannot outlast the requests that are due. -/
def Limited : Prop :=
  0 < membersCount ∨ ∃ failure, traffic.executeCurl check.curlRequest 0 = .error failure

variable {check traffic membersCount}

theorem sendRequest_eq (check : BalanceCheck PoolId) (traffic : Traffic World Exc)
    (world : World) (sent : Nat) :
    sendRequest check traffic (world, sent) =
      some ((answer check traffic sent).mapError .ofRequest, traffic.lasts sent world,
        sent + 1) := by
  simp only [answer, sendRequest, bind, Effect.bind, Effect.update]
  cases traffic.executeCurl check.curlRequest sent with
  | ok stdout => rfl
  | error failure => rfl

/-- The state after a request. -/
theorem sendRequest_ensures (world : World) (sent : Nat) :
    Effect.Ensures (fun state => state = (world, sent)) (sendRequest check traffic)
      (fun content state => state.2 = sent + 1 ∧ answer check traffic sent = .ok content)
      (fun error state => state.2 = sent + 1 ∧ ∃ failure,
        answer check traffic sent = .error failure ∧ error = .ofRequest failure) := by
  rintro _ rfl result after ended
  rw [sendRequest_eq] at ended
  cases ended
  cases answered : answer check traffic sent with
  | ok content =>
      refine ⟨fun value same => ⟨rfl, ?_⟩, fun error same => by cases same⟩
      cases same
      rfl
  | error failure =>
      refine ⟨fun value same => (by cases same), fun error same => ⟨rfl, failure, rfl, ?_⟩⟩
      cases same
      rfl

/-- The check of a reply fails exactly for a repeated one. -/
theorem checkContent_spec (membersCount : Nat) {sent : Nat} {content : Text} (all : AllReplied check traffic sent)
    (replied : answer check traffic sent = .ok content) :
    (checkContent check membersCount (contents check traffic sent).getLast? content =
        (.ok () : Except (BalanceError Exc) Unit) ∧
      ∀ before, before + 1 = sent → ¬RepeatedAt check traffic membersCount before) ∨
    ∃ before message, before + 1 = sent ∧ RepeatedAt check traffic membersCount before ∧
      checkContent check membersCount (contents check traffic sent).getLast? content =
        (.error (.roundRobin message) : Except (BalanceError Exc) Unit) := by
  cases sent with
  | zero => exact .inl ⟨rfl, fun before same => by cases same⟩
  | succ before =>
      obtain ⟨last, lastReplied, last_eq⟩ := getLast?_contents all
      rw [last_eq]
      by_cases violates : check.lbAlgorithm = some roundRobinAlgorithm ∧ 1 < membersCount ∧
          last = content
      · obtain ⟨algorithm, several, same⟩ := violates
        subst same
        refine .inr ⟨before, sameHostMessage membersCount last last, rfl,
          ⟨algorithm, several, last, lastReplied, replied⟩, ?_⟩
        rw [checkContent, if_pos algorithm, if_pos ⟨several, rfl⟩]
      · refine .inl ⟨?_, ?_⟩
        · unfold checkContent
          dsimp only
          split
          · rename_i algorithm
            exact if_neg fun bad => violates ⟨algorithm, bad⟩
          · rfl
        · rintro other same ⟨algorithm, several, found, first, second⟩
          cases same
          rw [lastReplied] at first
          rw [replied] at second
          exact violates ⟨algorithm, several, (Except.ok.inj first).trans (Except.ok.inj second).symm⟩

theorem Going.succ {sent : Nat} {balance : Balance} {content : Text}
    (going : Going check traffic membersCount sent balance)
    (replied : answer check traffic sent = .ok content)
    (fresh : ∀ before, before + 1 = sent → ¬RepeatedAt check traffic membersCount before) :
    Going check traffic membersCount (sent + 1)
      ⟨some content, balance.replies.increment content⟩ where
  replied := going.replied.succ replied
  never := going.never.succ fresh
  replies := by rw [contents_succ replied, Dict.tally_concat, going.replies]
  lastContent := by rw [contents_succ replied, List.getLast?_concat]

/-- A request that replied was sent to a pool with members. -/
theorem Limited.pos {sent : Nat} {content : Text} (limited : Limited check traffic membersCount)
    (below : sent < requestsDue check membersCount)
    (replied : answer check traffic sent = .ok content) : 0 < membersCount := by
  rcases limited with pos | ⟨failure, failed⟩
  · exact pos
  · by_contra none_left
    have empty : membersCount = 0 := by omega
    have first : sent = 0 := by
      rw [requestsDue, empty, Nat.zero_mul] at below
      omega
    subst first
    rw [answer_error failed] at replied
    cases replied

/-- The last attempt is the one for the last request that is due. -/
theorem atLimit_iff_due {frame : Retry.Frame} {number : Int} {sent : Nat}
    (some_members : 0 < membersCount) (some_requests : 1 ≤ check.requestsCount)
    (follows : frame.Follows (check.retry membersCount) number) (number_eq : number = sent + 1)
    (below : sent < requestsDue check membersCount) :
    frame.attempt.AtLimit ↔ sent + 1 = requestsDue check membersCount := by
  have positive : 0 < membersCount * check.requestsCount := Nat.mul_pos some_members some_requests
  have due : requestsDue check membersCount = membersCount * check.requestsCount := by
    unfold requestsDue
    omega
  rw [atLimit_iff follows, retry_count some_members some_requests, due, number_eq]
  rw [due] at below
  constructor
  · rintro ⟨count, count_eq, reached⟩
    cases count_eq
    omega
  · intro last
    exact ⟨_, rfl, by omega⟩

theorem balanceTurn_ensures (limited : Limited check traffic membersCount)
    (some_requests : 1 ≤ check.requestsCount) :
    Retry.KeepsGuarded (check.retry membersCount) (balanceTurn check traffic membersCount)
      (BeforeAttempt check traffic membersCount) (AllSent check traffic membersCount)
      (StoppedIn check traffic membersCount) := by
  rintro frame number balance reached ⟨world, sent⟩ ⟨number_eq, below, going⟩
  dsimp only at number_eq below going
  refine Effect.ensures_bind
    (fun content state => state.2 = sent + 1 ∧ answer check traffic sent = .ok content)
    ((sendRequest_ensures world sent).mono (fun _ same => same.symm) (fun _ _ same => same) ?_)
    (fun content => ?_) (world, sent) rfl
  · rintro error state ⟨now, failure, failed, same⟩
    exact ⟨sent, now, below, going.replied, going.never, .inl ⟨failure, failed, same⟩⟩
  · rintro state ⟨now, replied⟩
    have checked := checkContent_spec membersCount going.replied replied
    rw [← going.lastContent] at checked
    refine (Effect.ensures_bind _ (Effect.ensures_ofExcept ?_) fun _ => ?_ :
      Effect.Ensures (fun other => other.2 = sent + 1) _ _ _) state now
    · rintro error failed other later
      rcases checked with ⟨passed, -⟩ | ⟨before, message, same, repeated, wrong⟩
      · rw [passed] at failed
        cases failed
      · rw [wrong] at failed
        cases failed
        exact ⟨sent, later, below, going.replied, going.never,
          .inr ⟨before, message, same, repeated, rfl⟩⟩
    · rintro other ⟨passed, later⟩
      rcases checked with ⟨-, fresh⟩ | ⟨before, message, same, repeated, wrong⟩
      · have pos := limited.pos below replied
        have next := going.succ replied fresh
        have limit := atLimit_iff_due pos some_requests reached.toFollows number_eq below
        by_cases last : frame.attempt.AtLimit
        · have due := limit.mp last
          rw [if_pos (RetryAttempt.isLast_iff.mpr last)]
          refine (Effect.ensures_pure fun state same => ?_ :
            Effect.Ensures (fun state => state.2 = sent + 1) _ _ _) other later
          rw [due] at next
          exact ⟨same.trans due, next.replied, next.never, next.replies⟩
        · have notDue := mt limit.mpr last
          rw [if_neg (mt RetryAttempt.isLast_iff.mp last)]
          refine (Effect.ensures_pure fun state same => ⟨last, ?_, ?_, ?_⟩ :
            Effect.Ensures (fun state => state.2 = sent + 1) _ _ _) other later
          · rw [same, number_eq]
            push_cast
            rfl
          · rw [same]
            omega
          · rw [same]
            exact next
      · rw [wrong] at passed
        cases passed

/-- Nothing but a request changes how many were sent. -/
theorem untimed_beforeAttempt (clock : Clock World) (number : Int) (balance : Balance) :
    Retry.Untimed (clock.paired Nat)
      (BeforeAttempt check traffic membersCount number balance) :=
  Retry.untimed_paired clock fun sent : Nat => number = sent + 1 ∧
    sent < requestsDue check membersCount ∧ Going check traffic membersCount sent balance

theorem going_start : Going check traffic membersCount 0 ⟨none, .empty⟩ where
  replied := fun sent below => absurd below (Nat.not_lt_zero sent)
  never := fun _ below => absurd below (Nat.not_lt_zero _)
  replies := rfl
  lastContent := rfl

theorem beforeAttempt_start (world : World) :
    BeforeAttempt check traffic membersCount 1 ⟨none, .empty⟩ (world, 0) :=
  ⟨rfl, Nat.lt_of_lt_of_le Nat.zero_lt_one (Nat.le_max_left _ _), going_start⟩

/-- What `check_members_balanced` raises: at the first request that went wrong, or after all
of them for replies that are not from as many members. -/
def Raised (check : BalanceCheck PoolId) (traffic : Traffic World Exc) (membersCount : Nat)
    (error : BalanceError Exc) (state : World × Nat) : Prop :=
  StoppedIn check traffic membersCount error state ∨
    ∃ replies message, AllSent check traffic membersCount replies state ∧
      replies.keys.length ≠ membersCount ∧ error = .roundRobin message

theorem checkTraffic_ensures (limited : Limited check traffic membersCount)
    (some_requests : 1 ≤ check.requestsCount) (clock : Clock World) (turns : Nat) :
    Effect.Ensures (fun state => state.2 = 0)
      (checkTraffic check traffic clock membersCount turns)
      (fun replies state => AllSent check traffic membersCount replies state ∧
        replies.keys.length = membersCount)
      (Raised check traffic membersCount) := by
  refine Effect.ensures_bind (AllSent check traffic membersCount)
    ((Retry.loop_ensures_guarded (untimed_beforeAttempt clock)
      (balanceTurn_ensures limited some_requests) turns _).mono ?_ ?_ ?_) fun replies => ?_
  · rintro ⟨world, none_sent⟩ rfl
    exact beforeAttempt_start world
  · exact fun _ _ same => same
  · exact fun _ _ stopped => .inl stopped
  · refine (Effect.ensures_ofExcept ?_).mono (fun _ same => same) ?_ fun _ _ raised => raised
    · intro error failed state sent
      unfold checkReplies at failed
      dsimp only at failed
      split at failed
      · rename_i missing
        cases failed
        exact .inr ⟨replies, _, sent, by omega, rfl⟩
      · cases failed
    · rintro value state ⟨passed, sent⟩
      unfold checkReplies at passed
      dsimp only at passed
      split at passed
      · cases passed
      · rename_i none_missing
        cases passed
        exact ⟨sent, by omega⟩

/-! ### The verdict -/

theorem AllSent.rightVerdict {replies : Dict Text Nat} {state : World × Nat}
    (sent : AllSent check traffic membersCount replies state)
    (complete : replies.keys.length = membersCount) :
    RightVerdict check traffic membersCount (.ok replies) state.2 where
  requests := Nat.le_of_eq sent.sent
  returns := by
    refine ⟨fun _ => ⟨sent.replied, ?_, sent.never⟩, fun _ => ⟨replies, rfl⟩⟩
    rw [← Dict.length_keys_tally, ← sent.replies]
    exact complete
  counts := by
    intro returned same
    cases same
    rw [sent.sent, sent.replies]
    refine ⟨fun content count => Dict.get?_tally_eq_some, ?_⟩
    rw [Dict.total_tally, length_contents sent.replied]
  timeout := fun failed stderr below error =>
    absurd sent.replied (not_allReplied below (answer_error error))
  repeated := fun before below _ repeated => absurd repeated (sent.never before below)
  missing := by
    intro _ incomplete
    rw [← Dict.length_keys_tally, ← sent.replies] at incomplete
    exact absurd complete incomplete

/-- The check of the replies has failed. -/
theorem AllSent.rightVerdict_missing {replies : Dict Text Nat} {state : World × Nat}
    (sent : AllSent check traffic membersCount replies state)
    (incomplete : replies.keys.length ≠ membersCount) (message : Text) :
    RightVerdict check traffic membersCount (.error (.roundRobin message)) state.2 where
  requests := Nat.le_of_eq sent.sent
  returns := by
    refine ⟨fun ⟨_, same⟩ => (by cases same), fun ⟨_, complete, _⟩ => ?_⟩
    rw [← Dict.length_keys_tally, ← sent.replies] at complete
    exact absurd complete incomplete
  counts := fun _ same => by cases same
  timeout := fun failed stderr below error =>
    absurd sent.replied (not_allReplied below (answer_error error))
  repeated := fun _ _ _ _ => ⟨message, rfl⟩
  missing := fun _ _ => ⟨message, rfl⟩

theorem Stopped.rightVerdict {last : Nat} {error : BalanceError Exc}
    (stopped : Stopped check traffic membersCount last error) :
    RightVerdict check traffic membersCount (.error error) (last + 1) where
  requests := stopped.below
  returns := by
    refine ⟨fun ⟨_, same⟩ => (by cases same), fun ⟨all, _, never⟩ => ?_⟩
    rcases stopped.wrong with ⟨failure, failed, -⟩ | ⟨before, message, rfl, repeated, -⟩
    · exact absurd all (not_allReplied stopped.below failed)
    · exact absurd repeated (never before stopped.below)
  counts := fun _ same => by cases same
  timeout := by
    intro failed stderr below timedOut all never
    rcases stopped.wrong with ⟨failure, wrong, rfl⟩ | ⟨before, message, rfl, repeated, -⟩
    · rcases Nat.lt_trichotomy failed last with earlier | rfl | later
      · exact absurd stopped.replied (not_allReplied earlier (answer_error timedOut))
      · rw [answer_error timedOut] at wrong
        cases wrong
        rfl
      · exact absurd all (not_allReplied later wrong)
    · rcases Nat.lt_trichotomy failed (before + 1) with earlier | rfl | later
      · exact absurd stopped.replied (not_allReplied earlier (answer_error timedOut))
      · obtain ⟨-, -, content, -, second⟩ := repeated
        rw [answer_error timedOut] at second
        cases second
      · exact absurd repeated (never before later)
  repeated := by
    intro before below all repeated
    rcases stopped.wrong with ⟨failure, wrong, -⟩ | ⟨other, message, -, -, same⟩
    · obtain ⟨-, -, content, first, second⟩ := id repeated
      have replied : AllReplied check traffic (before + 2) := (all.succ first).succ second
      rcases Nat.lt_or_ge (before + 1) last with later | within
      · exact absurd repeated (stopped.never before later)
      · exact absurd replied (not_allReplied (Nat.lt_succ_of_le within) wrong)
    · exact ⟨message, by rw [same]⟩
  missing := by
    intro all _
    rcases stopped.wrong with ⟨failure, wrong, -⟩ | ⟨before, message, -, -, same⟩
    · exact absurd all (not_allReplied stopped.below wrong)
    · exact ⟨message, by rw [same]⟩

theorem checkTraffic_right (limited : Limited check traffic membersCount)
    (some_requests : 1 ≤ check.requestsCount) (clock : Clock World) {turns : Nat} {world : World}
    {result : Except (BalanceError Exc) (Dict Text Nat)} {after : World × Nat}
    (ended : checkTraffic check traffic clock membersCount turns (world, 0) =
      some (result, after)) : RightVerdict check traffic membersCount result after.2 := by
  obtain ⟨returned, raised⟩ :=
    checkTraffic_ensures limited some_requests clock turns (world, 0) rfl result after ended
  cases result with
  | ok replies =>
      obtain ⟨sent, complete⟩ := returned replies rfl
      exact sent.rightVerdict complete
  | error error =>
      rcases raised error rfl with ⟨last, sent, stopped⟩ | ⟨replies, message, sent, missing, rfl⟩
      · rw [sent]
        exact stopped.rightVerdict
      · exact sent.rightVerdict_missing missing message

/-! ### Whether the check ends -/

theorem sendRequest_ends (check : BalanceCheck PoolId) (traffic : Traffic World Exc) :
    (sendRequest check traffic).Ends := by
  rintro ⟨world, sent⟩
  rw [sendRequest_eq]
  rfl

theorem balanceTurn_ends (check : BalanceCheck PoolId) (traffic : Traffic World Exc)
    (membersCount : Nat) (attempt : RetryAttempt) (balance : Balance) :
    (balanceTurn check traffic membersCount attempt balance).Ends := by
  refine Effect.ends_bind (sendRequest_ends check traffic) fun content =>
    Effect.ends_bind (Effect.ends_ofExcept _) fun _ => ?_
  split
  · exact fun _ => rfl
  · exact fun _ => rfl

theorem checkTraffic_ends (limited : Limited check traffic membersCount)
    (some_requests : 1 ≤ check.requestsCount) (clock : Clock World) (world : World) :
    ∃ turns, (checkTraffic check traffic clock membersCount turns (world, 0)).isSome := by
  have ends : ((check.retry membersCount).loop (clock.paired Nat) balanceErrors
      (balanceTurn check traffic membersCount) (requestsDue check membersCount)
      ⟨none, .empty⟩ (world, 0)).isSome :=
    Retry.loop_ends_guarded (untimed_beforeAttempt clock)
      (balanceTurn_ensures limited some_requests)
      (fun number balance state ⟨number_eq, below, _⟩ => by omega)
      (balanceTurn_ends check traffic membersCount) (Nat.le_refl _) _ (beforeAttempt_start world)
  exact ⟨_, Effect.isSome_bind ends fun replies => Effect.ends_ofExcept _⟩

theorem checkContent_noMembers (check : BalanceCheck PoolId) (lastContent : Option Text)
    (content : Text) :
    checkContent check 0 lastContent content = (.ok () : Except (BalanceError Exc) Unit) := by
  cases lastContent with
  | none => rfl
  | some lastContent => simp [checkContent]

/-- Without members a check whose first request replies sends a second one. -/
theorem checkTraffic_unlimited {content : Text}
    (replied : answer check traffic 0 = .ok content) (clock : Clock World) (turns : Nat) :
    Effect.Ensures (fun _ => True) (checkTraffic check traffic clock 0 turns)
      (fun _ _ => False) (fun _ state => 2 ≤ state.2) := by
  have turn : Retry.KeepsGuarded (check.retry 0) (balanceTurn check traffic 0)
      (fun _ _ _ => True) (fun _ _ => False) (fun _ state => 2 ≤ state.2) := by
    intro frame number balance reached
    have unlimited : ¬frame.attempt.AtLimit := by
      rw [atLimit_iff reached.toFollows, retry_count_zero]
      simp
    rintro ⟨world, sent⟩ -
    refine Effect.ensures_bind (fun _ _ => True)
      ((sendRequest_ensures world sent).mono (fun _ same => same.symm) (fun _ _ _ => trivial) ?_)
      (fun content => ?_) (world, sent) rfl
    · rintro error state ⟨now, failure, failed, -⟩
      have later : sent ≠ 0 := by
        rintro rfl
        rw [replied] at failed
        cases failed
      omega
    · rw [checkContent_noMembers]
      refine Effect.ensures_bind (fun _ _ => True) (Effect.ensures_pure fun _ _ => trivial)
        fun _ => ?_
      rw [if_neg (mt RetryAttempt.isLast_iff.mp unlimited)]
      exact Effect.ensures_pure fun _ _ => ⟨unlimited, trivial⟩
  exact Effect.ensures_bind (fun _ _ => False)
    (Retry.loop_ensures_guarded (fun _ _ => ⟨fun _ _ => trivial, fun _ _ _ => trivial⟩)
      turn turns _) fun _ _ never => never.elim

variable {Member : Type} {listMembers : PoolId → Except Exc (List Member)}

/-- Once the members are counted the check is the one of the traffic. -/
theorem checkMembersBalanced_eq (counted : check.countMembers listMembers = .ok membersCount)
    (clock : Clock World) (turns : Nat) :
    checkMembersBalanced check traffic clock listMembers turns =
      checkTraffic check traffic clock membersCount turns := by
  rw [checkMembersBalanced, counted]
  rfl

theorem not_endsRight_of_unlimited (counted : check.countMembers listMembers = .ok 0)
    {content : Text} (replied : answer check traffic 0 = .ok content) (clock : Clock World)
    (world : World) : ¬EndsRight check traffic listMembers clock 0 world := by
  rintro ⟨⟨turns, ends⟩, right⟩
  obtain ⟨⟨result, after⟩, ended⟩ := Option.isSome_iff_exists.mp ends
  have verdict := right turns result after ended
  rw [checkMembersBalanced_eq counted] at ended
  obtain ⟨returned, raised⟩ :=
    checkTraffic_unlimited replied clock turns (world, 0) trivial result after ended
  cases result with
  | ok replies => exact (returned replies rfl).elim
  | error error =>
      have several : 2 ≤ after.2 := raised error rfl
      have few : after.2 ≤ max 1 (0 * check.requestsCount) := verdict.requests
      rw [Nat.zero_mul] at few
      omega

/-- **The verdict of the check.** For every sequence of replies and failures the check ends
with the right verdict, after the requests that are due at most, if and only if the pool has
members or the first request fails. -/
theorem check_members_balanced_iff (check : BalanceCheck PoolId) (traffic : Traffic World Exc)
    (listMembers : PoolId → Except Exc (List Member)) (clock : Clock World) (world : World)
    (membersCount : Nat) (counted : check.countMembers listMembers = .ok membersCount)
    (some_requests : 1 ≤ check.requestsCount) :
    EndsRight check traffic listMembers clock membersCount world ↔
      0 < membersCount ∨ ∃ failure,
        traffic.executeCurl check.curlRequest 0 = .error failure := by
  constructor
  · intro right
    by_contra unlimited
    obtain ⟨empty, replies⟩ := not_or.mp unlimited
    have none_left : membersCount = 0 := by omega
    subst none_left
    cases first : traffic.executeCurl check.curlRequest 0 with
    | ok stdout =>
        exact not_endsRight_of_unlimited counted (answer_ok first) clock world right
    | error failure => exact replies ⟨failure, first⟩
  · intro limited
    refine ⟨?_, fun turns result after ended => ?_⟩
    · obtain ⟨turns, ends⟩ := checkTraffic_ends limited some_requests clock world
      exact ⟨turns, by rw [checkMembersBalanced_eq counted]; exact ends⟩
    · rw [checkMembersBalanced_eq counted] at ended
      exact checkTraffic_right limited some_requests clock ended

/-- A check of a pool, with ten requests for each of its members. -/
def httpCheck : BalanceCheck Unit where
  ipAddress := "10.0.0.5".toList
  protocol := "HTTP".toList
  port := 80
  poolId := some ()
  membersCount := none
  lbAlgorithm := some roundRobinAlgorithm
  requestsCount := 10
  connectTimeout := some 10
  interval := some 1

/-- Servers that reply in turn, in no time, and always with their names. -/
def servers (first second : String) : Traffic ℚ Unit where
  executeCurl _ number := .ok (if number % 2 = 0 then first.toList else second.toList)
  lasts _ now := now

def pool (members : List String) (_ : Unit) : Except Unit (List String) := .ok members

/-- The pool has two members, which reply in turn. -/
theorem check_members_balanced_iff_twoMembers :
    httpCheck.countMembers (pool ["server0", "server1"]) = .ok 2 ∧
      EndsRight httpCheck (servers "server0\n" "server1\n") (pool ["server0", "server1"])
        Clock.ideal 2 0 :=
  ⟨rfl, (check_members_balanced_iff httpCheck (servers "server0\n" "server1\n")
    (pool ["server0", "server1"]) Clock.ideal 0 2 rfl (by decide)).mpr (.inl (by decide))⟩

/-- Without members the check goes on beyond the one request that is due. -/
theorem emptyPool_not_endsRight :
    ¬EndsRight httpCheck (servers "server0\n" "server0\n") (pool []) Clock.ideal 0 0 :=
  not_endsRight_of_unlimited rfl (answer_ok rfl) Clock.ideal 0

end Loop

end Tobiko.Openstack.Octavia
