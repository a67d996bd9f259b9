import Tobiko.Foundation.Effect

/-!
Contract: computations that change a world and record what they do.

Owns: a record of events beside a world, the steps that add to it and the steps that do not, and
what these do to the record.

Does not own: what the events are.

The rules follow the record from a known one: a step that raises has been recorded like one that
returns.
-/

namespace Tobiko.Foundation.Recorded

section Steps

variable {Error World Event Exc Answer : Type}

/-- The world, with the events so far. -/
abbrev State (World Event : Type) := World × List Event

def record (event : Event) : Effect Error (State World Event) Unit :=
  Effect.modify fun (world, events) => (world, events ++ [event])

/-- A step of the world with an answer. -/
def ask (step : World → Answer × World) : Effect Error (State World Event) Answer :=
  Effect.update fun (world, events) => ((step world).1, (step world).2, events)

/-- A step of the world that may raise. -/
def perform (raised : Exc → Error) (step : World → Option Exc × World) :
    Effect Error (State World Event) Unit := do
  match ← ask step with
  | none => pure ()
  | some exception => Effect.raise (raised exception)

/-- A step of the world that raises or answers. -/
def request (raised : Exc → Error) (step : World → Except Exc Answer × World) :
    Effect Error (State World Event) Answer := do
  let answer ← ask step
  Effect.ofExcept (answer.mapError raised)

variable {events : List Event} {raised : Exc → Error}

theorem record_ensures (event : Event) {raises : Error → State World Event → Prop} :
    Effect.Ensures (fun state : State World Event => state.2 = events) (record event)
      (fun _ state => state.2 = events ++ [event]) raises := by
  apply Effect.ensures_modify
  rintro ⟨world, done⟩ same
  exact congrArg (· ++ [event]) same

theorem ask_ensures (step : World → Answer × World) {raises : Error → State World Event → Prop} :
    Effect.Ensures (fun state : State World Event => state.2 = events) (ask step)
      (fun _ state => state.2 = events) raises :=
  Effect.ensures_update fun _ same => same

theorem perform_ensures (raised : Exc → Error) (step : World → Option Exc × World) :
    Effect.Ensures (fun state : State World Event => state.2 = events) (perform raised step)
      (fun _ state => state.2 = events)
      fun error state => state.2 = events ∧ ∃ exception, error = raised exception := by
  apply Effect.ensures_bind _ (ask_ensures step)
  intro answer
  cases answer with
  | none => exact Effect.ensures_pure fun _ same => same
  | some exception => exact Effect.ensures_raise fun _ same => ⟨same, exception, rfl⟩

theorem request_ensures (raised : Exc → Error) (step : World → Except Exc Answer × World) :
    Effect.Ensures (fun state : State World Event => state.2 = events) (request raised step)
      (fun _ state => state.2 = events)
      fun error state => state.2 = events ∧ ∃ exception, error = raised exception := by
  apply Effect.ensures_bind _ (ask_ensures step)
  intro answer
  cases answer with
  | ok value => exact Effect.ensures_pure fun _ same => same
  | error exception => exact Effect.ensures_raise fun _ same => ⟨same, exception, rfl⟩

/-- A step that is recorded, however it ends. -/
theorem recorded_ensures (event : Event) (raised : Exc → Error)
    (step : World → Option Exc × World) :
    Effect.Ensures (fun state : State World Event => state.2 = events)
      (do record event; perform raised step) (fun _ state => state.2 = events ++ [event])
      fun error state => state.2 = events ++ [event] ∧ ∃ exception, error = raised exception :=
  Effect.ensures_bind _ (record_ensures event) fun _ => perform_ensures raised step

theorem perform_ends (raised : Exc → Error) (step : World → Option Exc × World) :
    (perform raised step : Effect Error (State World Event) Unit).Ends := by
  apply Effect.ends_bind (Effect.ends_update _)
  intro answer
  cases answer with
  | none => exact fun _ => rfl
  | some exception => exact fun _ => rfl

theorem recorded_ends (event : Event) (raised : Exc → Error) (step : World → Option Exc × World) :
    (do record event; perform raised step : Effect Error (State World Event) Unit).Ends :=
  Effect.ends_bind (Effect.ends_update _) fun _ => perform_ends raised step

theorem request_ends (raised : Exc → Error) (step : World → Except Exc Answer × World) :
    (request raised step : Effect Error (State World Event) Answer).Ends :=
  Effect.ends_bind (Effect.ends_update _) fun _ => Effect.ends_ofExcept _

end Steps

end Tobiko.Foundation.Recorded
