import Mathlib.Logic.Basic

/-!
Contract: computations that change a state and may raise.

Owns: their sequence and the handling of errors, the rules for what they ensure, of the
returned value, of a raised error and of the state in which they end, those for whether
they end and return, and what a sequence that returned says of its parts.

Does not own: loops.
-/

namespace Tobiko.Foundation

/-- It does not end where it is `none`. -/
def Effect (Error State Value : Type) := State → Option (Except Error Value × State)

namespace Effect

variable {Error State Value Next : Type}

def bind (first : Effect Error State Value) (next : Value → Effect Error State Next) :
    Effect Error State Next := fun state =>
  match first state with
  | none => none
  | some (.error error, state) => some (.error error, state)
  | some (.ok value, state) => next value state

instance : Monad (Effect Error State) where
  pure value := fun state => some (.ok value, state)
  bind := Effect.bind

theorem map_id_eq (effect : Effect Error State Value) : id <$> effect = effect := by
  funext state
  change Effect.bind effect (fun value => pure (id value)) state = effect state
  unfold Effect.bind
  cases effect state with
  | none => rfl
  | some ended =>
      obtain ⟨result, after⟩ := ended
      cases result with
      | error error => rfl
      | ok value => rfl

theorem bind_bind {Last : Type} (first : Effect Error State Value)
    (second : Value → Effect Error State Next) (third : Next → Effect Error State Last) :
    first >>= second >>= third = first >>= fun value => second value >>= third := by
  funext state
  change Effect.bind (Effect.bind first second) third state =
    Effect.bind first (fun value => Effect.bind (second value) third) state
  unfold Effect.bind
  cases first state with
  | none => rfl
  | some ended =>
      obtain ⟨result, after⟩ := ended
      cases result with
      | error error => rfl
      | ok value => rfl

instance : LawfulMonad (Effect Error State) :=
  LawfulMonad.mk' _ map_id_eq (fun _ _ => rfl) bind_bind

def raise (error : Error) : Effect Error State Value := fun state => some (.error error, state)

def ofExcept : Except Error Value → Effect Error State Value
  | .ok value => Pure.pure value
  | .error error => raise error

/-- A value that is made from the state, which changes with it. -/
def update (change : State → Value × State) : Effect Error State Value :=
  fun state => some (.ok (change state).1, (change state).2)

/-- A read of the state. -/
def get : Effect Error State State := update fun state => (state, state)

def modify (change : State → State) : Effect Error State Unit :=
  update fun state => ((), change state)

/-- `try`, which shows how the computation ended. -/
def attempt (effect : Effect Error State Value) : Effect Error State (Except Error Value) :=
  fun state => (effect state).map fun ended => (.ok ended.1, ended.2)

/-- A computation that does not end. -/
def diverge : Effect Error State Value := fun _ => none

/-- Started in a state of `before`, the computation returns and raises only as it is told. -/
def Ensures (before : State → Prop) (effect : Effect Error State Value)
    (returns : Value → State → Prop) (raises : Error → State → Prop) : Prop :=
  ∀ state, before state → ∀ result after, effect state = some (result, after) →
    (∀ value, result = .ok value → returns value after) ∧
      ∀ error, result = .error error → raises error after

section Rules

variable {before : State → Prop} {returns : Value → State → Prop}
  {raises : Error → State → Prop} {ends : Next → State → Prop}

theorem ensures_pure {value : Value} (now : ∀ state, before state → returns value state) :
    Ensures before (Pure.pure value : Effect Error State Value) returns raises := by
  intro state start result after ended
  cases ended
  refine ⟨fun other same => ?_, fun error same => ?_⟩
  · cases same
    exact now state start
  · cases same

theorem ensures_raise {error : Error} (now : ∀ state, before state → raises error state) :
    Ensures before (raise error : Effect Error State Value) returns raises := by
  intro state start result after ended
  cases ended
  refine ⟨fun other same => ?_, fun error same => ?_⟩
  · cases same
  · cases same
    exact now state start

/-- What returns in a state that is known. -/
theorem ensures_pure_at {state : State} {value : Value} (now : returns value state) :
    ∀ result after, (Pure.pure value : Effect Error State Value) state = some (result, after) →
      (∀ other, result = .ok other → returns other after) ∧
        ∀ error, result = .error error → raises error after :=
  @ensures_pure Error State Value (fun other => other = state) returns raises value
    (fun _ same => same ▸ now) state rfl

/-- What raises in a state that is known. -/
theorem ensures_raise_at {state : State} {error : Error} (now : raises error state) :
    ∀ result after, (raise error : Effect Error State Value) state = some (result, after) →
      (∀ value, result = .ok value → returns value after) ∧
        ∀ other, result = .error other → raises other after :=
  @ensures_raise Error State Value (fun other => other = state) returns raises error
    (fun _ same => same ▸ now) state rfl

theorem ensures_ofExcept {result : Except Error Value}
    (raised : ∀ error, result = .error error → ∀ state, before state → raises error state) :
    Ensures before (ofExcept result) (fun value state => result = .ok value ∧ before state)
      raises := by
  cases result with
  | ok value => exact ensures_pure fun _ holds => ⟨rfl, holds⟩
  | error error => exact ensures_raise (raised error rfl)

theorem ensures_update {change : State → Value × State}
    (now : ∀ state, before state → returns (change state).1 (change state).2) :
    Ensures before (update change : Effect Error State Value) returns raises := by
  intro state start result after ended
  cases ended
  refine ⟨fun other same => ?_, fun error same => ?_⟩
  · cases same
    exact now state start
  · cases same

theorem ensures_get {returns : State → State → Prop}
    (now : ∀ state, before state → returns state state) :
    Ensures before (get : Effect Error State State) returns raises :=
  ensures_update now

theorem ensures_modify {change : State → State} {returns : Unit → State → Prop}
    (now : ∀ state, before state → returns () (change state)) :
    Ensures before (modify change : Effect Error State Unit) returns raises :=
  ensures_update now

theorem ensures_bind {first : Effect Error State Value}
    {next : Value → Effect Error State Next} (middle : Value → State → Prop)
    (firstEnsures : Ensures before first middle raises)
    (nextEnsures : ∀ value, Ensures (middle value) (next value) ends raises) :
    Ensures before (first >>= next) ends raises := by
  intro state start result after ended
  have unfolded : Effect.bind first next state = some (result, after) := ended
  unfold Effect.bind at unfolded
  split at unfolded
  · cases unfolded
  · rename_i error later failed
    cases unfolded
    have raised := (firstEnsures state start _ _ failed).2 error rfl
    refine ⟨fun value same => ?_, fun other same => ?_⟩
    · cases same
    · cases same
      exact raised
  · rename_i value later passed
    exact nextEnsures value later ((firstEnsures state start _ _ passed).1 value rfl) _ _ unfolded

theorem bind_of_ok {first : Effect Error State Value} {next : Value → Effect Error State Next}
    {state middle : State} {value : Value} (returned : first state = some (.ok value, middle)) :
    (first >>= next) state = next value middle := by
  change Effect.bind first next state = _
  rw [Effect.bind, returned]

theorem bind_of_error {first : Effect Error State Value} {next : Value → Effect Error State Next}
    {state middle : State} {error : Error} (raised : first state = some (.error error, middle)) :
    (first >>= next) state = some (.error error, middle) := by
  change Effect.bind first next state = _
  rw [Effect.bind, raised]

/-- A sequence returns through the state between its parts. -/
theorem returned_bind {first : Effect Error State Value} {next : Value → Effect Error State Next}
    {state after : State} {result : Next}
    (ran : (first >>= next) state = some (.ok result, after)) :
    ∃ value middle, first state = some (.ok value, middle) ∧
      next value middle = some (.ok result, after) := by
  change Effect.bind first next state = _ at ran
  unfold Effect.bind at ran
  split at ran
  · cases ran
  · cases ran
  · rename_i value middle passed
    exact ⟨value, middle, passed, ran⟩

theorem returned_ofExcept {result : Except Error Value} {state after : State} {value : Value}
    (ran : ofExcept result state = some (.ok value, after)) :
    result = .ok value ∧ after = state := by
  cases result with
  | ok other =>
      cases ran
      exact ⟨rfl, rfl⟩
  | error error => cases ran

theorem ensures_attempt {effect : Effect Error State Value}
    {handles : Error → State → Prop}
    (ensures : Ensures before effect returns handles) :
    Ensures before effect.attempt
      (fun result state => (∀ value, result = .ok value → returns value state) ∧
        ∀ error, result = .error error → handles error state) raises := by
  intro state start result after ended
  obtain ⟨⟨inner, last⟩, ran, same⟩ := Option.map_eq_some_iff.mp ended
  cases same
  refine ⟨fun value same => ?_, fun error same => ?_⟩
  · cases same
    exact ensures state start _ _ ran
  · cases same

/-- What holds however the computation ends holds when it is seen how. -/
theorem ensures_attempt_kept {effect : Effect Error State Value} {holds : State → Prop}
    (ensures : Ensures before effect (fun _ => holds) fun _ => holds) :
    Ensures before effect.attempt (fun _ => holds) raises := by
  intro state start result after ended
  obtain ⟨⟨inner, last⟩, ran, same⟩ := Option.map_eq_some_iff.mp ended
  cases same
  obtain ⟨returned, raised⟩ := ensures state start inner _ ran
  refine ⟨fun value same => ?_, fun error same => ?_⟩
  · cases inner with
    | ok value => exact returned value rfl
    | error error => exact raised error rfl
  · cases same

/-- A value that is known already, or an error that is. -/
theorem ensures_ofExcept_kept {result : Except Error Value} {holds : State → Prop} :
    Ensures holds (ofExcept result) (fun _ => holds) fun _ => holds := by
  cases result with
  | ok value => exact ensures_pure fun _ known => known
  | error error => exact ensures_raise fun _ known => known

/-- What each state in which it is started tells may be used. -/
theorem ensures_of {effect : Effect Error State Value} {fact : Prop}
    (known : ∀ state, before state → fact)
    (ensures : fact → Ensures before effect returns raises) :
    Ensures before effect returns raises :=
  fun state start => ensures (known state start) state start

/-- Two rules for one computation. -/
theorem Ensures.and {effect : Effect Error State Value} {alsoBefore : State → Prop}
    {alsoReturns : Value → State → Prop} {alsoRaises : Error → State → Prop}
    (first : Ensures before effect returns raises)
    (second : Ensures alsoBefore effect alsoReturns alsoRaises) :
    Ensures (fun state => before state ∧ alsoBefore state) effect
      (fun value state => returns value state ∧ alsoReturns value state)
      fun error state => raises error state ∧ alsoRaises error state := by
  intro state start result after ended
  obtain ⟨returned, raised⟩ := first state start.1 result after ended
  obtain ⟨alsoReturned, alsoRaised⟩ := second state start.2 result after ended
  exact ⟨fun value same => ⟨returned value same, alsoReturned value same⟩,
    fun error same => ⟨raised error same, alsoRaised error same⟩⟩

theorem Ensures.mono {effect : Effect Error State Value} {start : State → Prop}
    {ends : Value → State → Prop} {fails : Error → State → Prop}
    (ensures : Ensures before effect returns raises) (starts : ∀ state, start state → before state)
    (returned : ∀ value state, returns value state → ends value state)
    (raised : ∀ error state, raises error state → fails error state) :
    Ensures start effect ends fails := by
  intro state begin_ result after ended
  obtain ⟨value, error⟩ := ensures state (starts state begin_) result after ended
  exact ⟨fun other same => returned other after (value other same),
    fun other same => raised other after (error other same)⟩

end Rules

/-! ### Computations that end -/

def Ends (effect : Effect Error State Value) : Prop := ∀ state, (effect state).isSome

section Ends

variable {first : Effect Error State Value} {next : Value → Effect Error State Next}

theorem ends_update (change : State → Value × State) :
    (update change : Effect Error State Value).Ends :=
  fun _ => rfl

theorem ends_attempt {effect : Effect Error State Value} (ends : effect.Ends) :
    effect.attempt.Ends := by
  intro state
  unfold attempt
  rw [Option.isSome_map]
  exact ends state

theorem ends_ofExcept (result : Except Error Value) :
    (ofExcept result : Effect Error State Value).Ends := by
  intro state
  cases result with
  | ok value => rfl
  | error error => rfl

theorem isSome_bind {state : State} (firstEnds : (first state).isSome)
    (nextEnds : ∀ value, (next value).Ends) : ((first >>= next) state).isSome := by
  change (Effect.bind first next state).isSome
  obtain ⟨⟨result, after⟩, ran⟩ := Option.isSome_iff_exists.mp firstEnds
  rw [Effect.bind, ran]
  cases result with
  | ok value => exact nextEnds value after
  | error error => rfl

theorem ends_bind (firstEnds : first.Ends) (nextEnds : ∀ value, (next value).Ends) :
    (first >>= next).Ends :=
  fun state => isSome_bind (firstEnds state) nextEnds

end Ends

/-- Started in a state of `before`, the computation ends and returns as it is told. -/
def Achieves (before : State → Prop) (effect : Effect Error State Value)
    (returns : Value → State → Prop) : Prop :=
  ∀ state, before state → ∃ value after, effect state = some (.ok value, after) ∧
    returns value after

section Achieves

variable {before : State → Prop} {returns : Value → State → Prop} {ends : Next → State → Prop}

theorem achieves_of_ensures {effect : Effect Error State Value}
    (ensures : Ensures before effect returns fun _ _ => False)
    (some_result : ∀ state, before state → (effect state).isSome) :
    Achieves before effect returns := by
  intro state start
  obtain ⟨⟨result, after⟩, ran⟩ := Option.isSome_iff_exists.mp (some_result state start)
  obtain ⟨returned, raised⟩ := ensures state start result after ran
  cases result with
  | ok value => exact ⟨value, after, ran, returned value rfl⟩
  | error error => exact (raised error rfl).elim

theorem achieves_bind {first : Effect Error State Value}
    {next : Value → Effect Error State Next}
    (firstAchieves : Achieves before first returns)
    (nextAchieves : ∀ value, Achieves (returns value) (next value) ends) :
    Achieves before (first >>= next) ends := by
  intro state start
  obtain ⟨value, middle, ran, returned⟩ := firstAchieves state start
  obtain ⟨last, after, ranNext, ended⟩ := nextAchieves value middle returned
  refine ⟨last, after, ?_, ended⟩
  change Effect.bind first next state = _
  rw [Effect.bind, ran]
  exact ranNext

end Achieves

end Effect

/-! ### Results without a state -/

section Results

variable {Error Value Next : Type} {made : Except Error Value}

theorem eq_ok_of_bind {next : Value → Except Error Next} {result : Next}
    (same : made >>= next = .ok result) : ∃ value, made = .ok value ∧ next value = .ok result := by
  cases made with
  | error error => cases same
  | ok value => exact ⟨value, rfl, same⟩

theorem eq_ok_of_mapError {Other : Type} {change : Error → Other} {value : Value}
    (same : made.mapError change = .ok value) : made = .ok value := by
  cases made with
  | error error => cases same
  | ok value =>
      cases same
      rfl

end Results

end Tobiko.Foundation
