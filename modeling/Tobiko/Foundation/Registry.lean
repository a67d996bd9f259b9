import Tobiko.Foundation.Dictionary

/-!
Contract: a registry that makes the value of a key when it is asked for, and keeps it until
the key is removed.

Owns: the operations, that every value belongs to one key, and when two answers of a run are
the same value.

Does not own: how values are made, except that each one made is a new one.
-/

namespace Tobiko.Foundation

/-- How a value is made, which may fail. Each value has an identity, and the values that have
been made before have smaller ones. -/
structure Maker {Value : Type} (identity : Value → Nat) where
  make : Nat → Option Value
  new : ∀ count value, make count = some value → identity value = count

structure Registry (Key Value : Type) where
  entries : Dict Key Value
  made : Nat

namespace Registry

section Registry

variable {Key Value : Type} [DecidableEq Key] {identity : Value → Nat}

def empty : Registry Key Value := ⟨Dict.empty, 0⟩

def fetch (registry : Registry Key Value) (key : Key) (maker : Maker identity) :
    Option Value × Registry Key Value :=
  match registry.entries.get? key with
  | some value => (some value, registry)
  | none =>
      match maker.make registry.made with
      | none => (none, registry)
      | some value => (some value, ⟨registry.entries.set key value, registry.made + 1⟩)

def remove (registry : Registry Key Value) (key : Key) : Option Value × Registry Key Value :=
  (registry.entries.get? key, ⟨registry.entries.erase key, registry.made⟩)

variable (identity) in
inductive Operation (Key : Type) where
  | fetch (key : Key) (maker : Maker identity)
  | remove (key : Key)

def apply (registry : Registry Key Value) : Operation identity Key → Registry Key Value
  | .fetch key maker => (registry.fetch key maker).2
  | .remove key => (registry.remove key).2

def run (registry : Registry Key Value) (operations : List (Operation identity Key)) :
    Registry Key Value :=
  operations.foldl apply registry

/-! ### What an operation does -/

/-- The answer is the value of the key, or a new one. -/
theorem fetch_cases (registry : Registry Key Value) (key : Key) (maker : Maker identity) :
    registry.fetch key maker = (registry.entries.get? key, registry) ∨
      ∃ value, registry.entries.get? key = none ∧ identity value = registry.made ∧
        registry.fetch key maker =
          (some value, ⟨registry.entries.set key value, registry.made + 1⟩) := by
  unfold fetch
  cases present : registry.entries.get? key with
  | some value => exact .inl rfl
  | none =>
      cases made : maker.make registry.made with
      | none => exact .inl rfl
      | some value => exact .inr ⟨value, rfl, maker.new _ _ made, rfl⟩

theorem fetch_present {registry after : Registry Key Value} {key : Key} {maker : Maker identity}
    {value : Value} (fetched : registry.fetch key maker = (some value, after)) :
    after.entries.get? key = some value := by
  rcases fetch_cases registry key maker with same | ⟨made, _, _, same⟩
  · rw [fetched] at same
    obtain ⟨present, rfl⟩ := Prod.mk.inj same
    exact present.symm
  · rw [fetched] at same
    cases same
    rw [Dict.get?_set, if_pos rfl]

/-- The other keys keep their values when a key is removed. -/
theorem get?_remove_other {registry : Registry Key Value} {key other : Key}
    (different : other ≠ key) :
    (registry.remove key).2.entries.get? other = registry.entries.get? other :=
  Dict.get?_erase.trans (if_neg different)

/-! ### Every value belongs to one key -/

variable (identity) in
structure Sound (registry : Registry Key Value) : Prop where
  known : ∀ key value, registry.entries.get? key = some value → identity value < registry.made
  oneKey : ∀ key other value twin, registry.entries.get? key = some value →
    registry.entries.get? other = some twin → identity value = identity twin → key = other

theorem sound_empty : Sound identity (empty : Registry Key Value) := ⟨nofun, nofun⟩

theorem Sound.fetch {registry : Registry Key Value} (sound : Sound identity registry) (key : Key)
    (maker : Maker identity) : Sound identity (registry.fetch key maker).2 := by
  rcases fetch_cases registry key maker with same | ⟨value, _, new, same⟩
  · rw [same]
    exact sound
  · rw [same]
    have found : ∀ other held, (registry.entries.set key value).get? other = some held →
        other = key ∧ held = value ∨ other ≠ key ∧ registry.entries.get? other = some held := by
      intro other held present
      rw [Dict.get?_set] at present
      split at present
      · cases present
        exact .inl ⟨‹_›, rfl⟩
      · exact .inr ⟨‹_›, present⟩
    refine ⟨fun other held present => ?_, fun other third held twin one two equal => ?_⟩
    · rcases found other held present with ⟨_, rfl⟩ | ⟨_, before⟩
      · exact new ▸ Nat.lt_succ_self _
      · exact Nat.lt_succ_of_lt (sound.known other held before)
    · rcases found other held one with ⟨rfl, rfl⟩ | ⟨_, oneBefore⟩
      · rcases found third twin two with ⟨rfl, _⟩ | ⟨_, twoBefore⟩
        · rfl
        · have older := sound.known third twin twoBefore
          rw [← equal, new] at older
          exact (Nat.lt_irrefl _ older).elim
      · rcases found third twin two with ⟨rfl, rfl⟩ | ⟨_, twoBefore⟩
        · have older := sound.known other held oneBefore
          rw [equal, new] at older
          exact (Nat.lt_irrefl _ older).elim
        · exact sound.oneKey other third held twin oneBefore twoBefore equal

theorem Sound.remove {registry : Registry Key Value} (sound : Sound identity registry)
    (key : Key) : Sound identity (registry.remove key).2 := by
  have found : ∀ other held, (registry.remove key).2.entries.get? other = some held →
      registry.entries.get? other = some held := by
    intro other held present
    by_cases same : other = key
    · subst same
      have gone : (registry.remove other).2.entries.get? other = none :=
        Dict.get?_erase.trans (if_pos rfl)
      rw [gone] at present
      cases present
    · rw [get?_remove_other same] at present
      exact present
  exact ⟨fun other held present => sound.known other held (found other held present),
    fun other third held twin one two =>
      sound.oneKey other third held twin (found other held one) (found third twin two)⟩

theorem Sound.apply {registry : Registry Key Value} (sound : Sound identity registry)
    (operation : Operation identity Key) : Sound identity (registry.apply operation) := by
  cases operation with
  | fetch key maker => exact sound.fetch key maker
  | remove key => exact sound.remove key

theorem Sound.run {registry : Registry Key Value} (sound : Sound identity registry)
    (operations : List (Operation identity Key)) : Sound identity (registry.run operations) := by
  induction operations generalizing registry with
  | nil => exact sound
  | cons operation operations inductionHypothesis =>
      exact inductionHypothesis (sound.apply operation)

/-! ### One value during a run -/

/-- While its key is not removed, a value stays. -/
theorem stays_apply {registry : Registry Key Value} {key : Key} {value : Value}
    (present : registry.entries.get? key = some value) {operation : Operation identity Key}
    (kept : operation ≠ .remove key) :
    (registry.apply operation).entries.get? key = some value := by
  cases operation with
  | fetch other maker =>
      have step : registry.apply (.fetch other maker) = (registry.fetch other maker).2 := rfl
      rw [step]
      rcases fetch_cases registry other maker with same | ⟨made, missing, _, same⟩
      · rw [same]
        exact present
      · have different : key ≠ other := by
          rintro rfl
          rw [present] at missing
          cases missing
        rw [same, Dict.get?_set, if_neg different]
        exact present
  | remove other =>
      have different : key ≠ other := by
        rintro rfl
        exact kept rfl
      exact (get?_remove_other different).trans present

theorem stays_run {registry : Registry Key Value} {key : Key} {value : Value}
    (present : registry.entries.get? key = some value)
    {operations : List (Operation identity Key)}
    (kept : ∀ operation ∈ operations, operation ≠ .remove key) :
    (registry.run operations).entries.get? key = some value := by
  induction operations generalizing registry with
  | nil => exact present
  | cons operation operations inductionHypothesis =>
      exact inductionHypothesis (stays_apply present (kept operation List.mem_cons_self))
        fun later member => kept later (List.mem_cons_of_mem _ member)

variable (identity) in
/-- The value has been made, and no key has it. -/
structure Gone (registry : Registry Key Value) (value : Value) : Prop where
  known : identity value < registry.made
  absent : ∀ key twin, registry.entries.get? key = some twin → identity twin ≠ identity value

theorem Gone.apply {registry : Registry Key Value} {value : Value}
    (gone : Gone identity registry value) (operation : Operation identity Key) :
    Gone identity (registry.apply operation) value := by
  cases operation with
  | fetch other maker =>
      have step : registry.apply (.fetch other maker) = (registry.fetch other maker).2 := rfl
      rw [step]
      rcases fetch_cases registry other maker with same | ⟨made, _, new, same⟩
      · rw [same]
        exact gone
      · rw [same]
        refine ⟨Nat.lt_succ_of_lt gone.known, fun key twin present => ?_⟩
        rw [Dict.get?_set] at present
        split at present
        · cases present
          rw [new]
          exact Nat.ne_of_gt gone.known
        · exact gone.absent key twin present
  | remove other =>
      refine ⟨gone.known, fun key twin present => ?_⟩
      have erased : (if key = other then none else registry.entries.get? key) = some twin :=
        Dict.get?_erase.symm.trans present
      split at erased
      · cases erased
      · exact gone.absent key twin erased

theorem Gone.run {registry : Registry Key Value} {value : Value}
    (gone : Gone identity registry value) (operations : List (Operation identity Key)) :
    Gone identity (registry.run operations) value := by
  induction operations generalizing registry with
  | nil => exact gone
  | cons operation operations inductionHypothesis =>
      exact inductionHypothesis (gone.apply operation)

/-- Once its key is removed, a value is gone for the rest of the run. -/
theorem gone_of_removed {registry : Registry Key Value} (sound : Sound identity registry)
    {key : Key} {value : Value} (present : registry.entries.get? key = some value)
    {operations : List (Operation identity Key)} (removed : .remove key ∈ operations) :
    Gone identity (registry.run operations) value := by
  induction operations generalizing registry with
  | nil => cases removed
  | cons operation operations inductionHypothesis =>
      by_cases now : operation = .remove key
      · subst now
        have gone :
            Gone identity (registry.apply (.remove key : Operation identity Key)) value := by
          refine ⟨sound.known key value present, fun other twin found equal => ?_⟩
          have erased : (if other = key then none else registry.entries.get? other) = some twin :=
            Dict.get?_erase.symm.trans found
          split at erased
          · cases erased
          · exact ‹¬_› (sound.oneKey other key twin value erased present equal)
        exact gone.run operations
      · have later : .remove key ∈ operations := by
          rcases List.mem_cons.mp removed with same | later
          · exact (now same.symm).elim
          · exact later
        exact inductionHypothesis (sound.apply operation) (stays_apply present now) later

/-- **Two answers of a run are the same value exactly if they are for one key that has not
been removed in between.** -/
theorem same_value_iff {registry middle last : Registry Key Value}
    (sound : Sound identity registry) {key other : Key} {maker makerOther : Maker identity}
    {value twin : Value} (first : registry.fetch key maker = (some value, middle))
    {operations : List (Operation identity Key)}
    (second : (middle.run operations).fetch other makerOther = (some twin, last)) :
    identity value = identity twin ↔ key = other ∧ .remove key ∉ operations := by
  have present := fetch_present first
  have middleSound : Sound identity middle := by
    have fetched := sound.fetch key maker
    rw [first] at fetched
    exact fetched
  have answer : (middle.run operations).entries.get? other = some twin ∨
      identity twin = (middle.run operations).made := by
    rcases fetch_cases (middle.run operations) other makerOther with same | ⟨made, _, new, same⟩
    · rw [second] at same
      exact .inl (Prod.mk.inj same).1.symm
    · rw [second] at same
      cases same
      exact .inr new
  by_cases removed : .remove key ∈ operations
  · have gone := gone_of_removed middleSound present removed
    refine iff_of_false (fun equal => ?_) fun both => both.2 removed
    rcases answer with held | new
    · exact gone.absent other twin held equal.symm
    · exact (Nat.ne_of_lt gone.known) (equal.trans new)
  · have kept : ∀ operation ∈ operations, operation ≠ .remove key := by
      rintro operation member rfl
      exact removed member
    have stays := stays_run present kept
    have lastSound := middleSound.run operations
    rw [and_iff_left removed]
    constructor
    · intro equal
      rcases answer with held | new
      · exact lastSound.oneKey key other value twin stays held equal
      · have older := lastSound.known key value stays
        rw [equal, new] at older
        exact (Nat.lt_irrefl _ older).elim
    · rintro rfl
      rcases fetch_cases (middle.run operations) key makerOther with same | ⟨_, missing, _, _⟩
      · rw [second, stays] at same
        cases same
        rfl
      · rw [stays] at missing
        cases missing

end Registry

end Registry

end Tobiko.Foundation
