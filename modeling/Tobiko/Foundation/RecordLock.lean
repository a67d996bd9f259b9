import Mathlib.Logic.Function.Basic

/-!
Contract: lock files guarded by record locks that belong to a process.

Owns: the table of the lock files that are held, with the two operations a
process performs on one of them, and the facts about what another process may
do to a lock that somebody holds.

A record lock is not counted. Acquiring a lock again in the process that
already holds it succeeds at once, and one release gives the lock up whatever
the number of acquisitions was.
-/

namespace Tobiko.Foundation.RecordLock

variable {Name Worker : Type}

/-- The process that holds each lock file, if any. -/
abbrev Table (Name Worker : Type) := Name → Option Worker

namespace Table

/-- No process holds any lock. -/
def free : Table Name Worker := fun _ => none

/-- A blocking acquisition returns: the lock is free, or the caller has it. -/
def Grants (table : Table Name Worker) (name : Name) (worker : Worker) : Prop :=
  table name = none ∨ table name = some worker

instance [DecidableEq Worker] (table : Table Name Worker) (name : Name) (worker : Worker) :
    Decidable (table.Grants name worker) := by
  unfold Grants
  infer_instance

variable [DecidableEq Name]

def acquire (table : Table Name Worker) (name : Name) (worker : Worker) : Table Name Worker :=
  Function.update table name (some worker)

/-- Unlocking a file that the process does not hold changes nothing. -/
def release [DecidableEq Worker] (table : Table Name Worker) (name : Name) (worker : Worker) :
    Table Name Worker :=
  if table name = some worker then Function.update table name none else table

variable {table : Table Name Worker} {name other : Name} {worker holder : Worker}

@[simp] theorem acquire_same : table.acquire name worker name = some worker := by
  simp [acquire]

theorem acquire_other (different : other ≠ name) :
    table.acquire name worker other = table other := by
  simp [acquire, different]

/-- A granted acquisition never takes a lock away from another process. -/
theorem acquire_keeps_holder (granted : table.Grants name worker) (different : worker ≠ holder)
    (held : table other = some holder) : table.acquire name worker other = some holder := by
  by_cases same : other = name
  · subst same
    rcases granted with empty | own
    · rw [held] at empty
      contradiction
    · rw [held] at own
      exact absurd (Option.some.inj own).symm different
  · rw [acquire_other same, held]

variable [DecidableEq Worker]

/-- A release never takes a lock away from another process. -/
theorem release_keeps_holder (different : worker ≠ holder) (held : table other = some holder) :
    table.release name worker other = some holder := by
  unfold release
  split
  · rename_i own
    have elsewhere : other ≠ name := by
      rintro rfl
      rw [held] at own
      exact different (Option.some.inj own).symm
    simp [elsewhere, held]
  · exact held

theorem release_other (different : other ≠ name) :
    table.release name worker other = table other := by
  unfold release
  split <;> simp [different]

/-- One release gives the lock up for the whole process. -/
theorem release_same (held : table name = some worker) : table.release name worker name = none := by
  simp [release, held]

end Table

end Tobiko.Foundation.RecordLock
