import Mathlib.Data.List.Basic

/-!
Contract: the standard input of a shell process in `tobiko/shell/sh`.

Owns: the data that is sent, `ShellWritable` with the bytes that it records and those that
its delegate accepts, `_write_to_stdin`, and the sequence of writes that sends some data.

Does not own: the loop of `communicate`, and how a delegate decides what it accepts.
-/

namespace Tobiko.Shell.Sh

/-! ### Data -/

/-- What is sent: characters or bytes. -/
inductive Data where
  | str (text : List Char)
  | bytes (content : List UInt8)
deriving DecidableEq, Repr

/-- `data.encode()` where it is not `bytes` yet. -/
def Data.encode : Data → List UInt8
  | .str text => text.flatMap String.utf8EncodeChar
  | .bytes content => content

/-- `bool(data)` -/
def Data.truthy : Data → Bool
  | .str text => !text.isEmpty
  | .bytes content => !content.isEmpty

/-- `data[start:]`, which counts characters in a `str`. -/
def Data.after (start : Nat) : Data → Data
  | .str text => .str (text.drop start)
  | .bytes content => .bytes (content.drop start)

/-- `data[start:] or None` -/
def Data.rest (data : Data) (start : Nat) : Option Data :=
  if (data.after start).truthy then some (data.after start) else none

theorem encode_eq_nil_iff {data : Data} : data.encode = [] ↔ data.truthy = false := by
  cases data with
  | str text =>
      cases text with
      | nil => simp [Data.encode, Data.truthy]
      | cons head tail => simp [Data.encode, Data.truthy, String.utf8EncodeChar_ne_nil]
  | bytes content => simp [Data.encode, Data.truthy]

theorem encode_ne_nil {data : Data} (truthy : data.truthy = true) : data.encode ≠ [] := by
  intro empty
  rw [encode_eq_nil_iff.mp empty] at truthy
  cases truthy

theorem length_le_length_encode {text : List Char} :
    text.length ≤ (Data.encode (.str text)).length := by
  induction text with
  | nil => exact Nat.le_refl 0
  | cons head tail inductionHypothesis =>
      have positive : 0 < (String.utf8EncodeChar head).length :=
        List.length_pos_of_ne_nil String.utf8EncodeChar_ne_nil
      simp only [Data.encode, List.flatMap_cons, List.length_append, List.length_cons] at *
      omega

/-- Nothing is left after as many items as there are bytes. -/
theorem rest_length_encode {data : Data} : data.rest data.encode.length = none := by
  cases data with
  | str text =>
      have dropped : text.drop (Data.encode (.str text)).length = [] :=
        List.drop_eq_nil_of_le length_le_length_encode
      simp [Data.rest, Data.after, Data.truthy, dropped]
  | bytes content => simp [Data.rest, Data.after, Data.truthy, Data.encode]

theorem truthy_of_rest {data rest : Data} {start : Nat} (left : data.rest start = some rest) :
    rest.truthy = true := by
  unfold Data.rest at left
  split at left
  · cases left
    assumption
  · cases left

/-! ### Writing -/

/-- What `delegate.write` returns: `all` is `None`, after everything was accepted. -/
inductive Written where
  | raises
  | all
  | count (number : Nat)
deriving DecidableEq, Repr

/-- What the delegate answers to its writes, in order. -/
abbrev Delegate := Nat → List UInt8 → Written

/-- `chunks` are the recorded `_data_chunks`, and `accepted` is what the delegate took. -/
structure ShellWritable where
  chunks : List (List UInt8)
  accepted : List (List UInt8)
deriving DecidableEq, Repr

/-- `data`, which stays the same when it replaces the chunks by their join. -/
def ShellWritable.data (writable : ShellWritable) : Option (List UInt8) :=
  if writable.chunks = [] then none else some writable.chunks.flatten

/-- `write`, with the number of bytes that it returns, or `none` where it raises. -/
def ShellWritable.write (delegate : Delegate) (writable : ShellWritable) (data : Data) :
    Option (Nat × ShellWritable) :=
  match delegate writable.accepted.length data.encode with
  | .raises => none
  | .all => some (data.encode.length,
      ⟨writable.chunks ++ [data.encode], writable.accepted ++ [data.encode]⟩)
  | .count number => some (number,
      ⟨writable.chunks ++ [data.encode], writable.accepted ++ [data.encode.take number]⟩)

theorem data_getD {writable : ShellWritable} :
    writable.data.getD [] = writable.chunks.flatten := by
  unfold ShellWritable.data
  split
  · rename_i none
    rw [none]
    rfl
  · rfl

/-- How many of the offered bytes the delegate accepts. -/
def Written.accepts (offered : List UInt8) : Written → Option Nat
  | .raises => none
  | .all => some offered.length
  | .count number => some number

/-- Each write accepts some of what it is offered. -/
def Delegate.Accepting (delegate : Delegate) : Prop :=
  ∀ index offered, offered ≠ [] → ∃ number, 0 < number ∧ number ≤ offered.length ∧
    (delegate index offered).accepts offered = some number

theorem write_eq {delegate : Delegate} {writable : ShellWritable} {data : Data} {number : Nat}
    (accepts : (delegate writable.accepted.length data.encode).accepts data.encode =
      some number) :
    writable.write delegate data = some (number,
      ⟨writable.chunks ++ [data.encode], writable.accepted ++ [data.encode.take number]⟩) := by
  unfold ShellWritable.write
  cases answer : delegate writable.accepted.length data.encode with
  | raises =>
      rw [answer] at accepts
      cases accepts
  | all =>
      rw [answer] at accepts
      cases accepts
      simp
  | count other =>
      rw [answer] at accepts
      cases accepts
      rfl

/-! ### Sending -/

/-- The writes that send `pending`, up to what is left then. -/
inductive Sends (delegate : Delegate) :
    Option Data → ShellWritable → Option Data → ShellWritable → Prop
  | idle (pending writable) : Sends delegate pending writable pending writable
  | write (data : Data) (writable : ShellWritable) (number : Nat)
      (left : Option Data) (last : ShellWritable) (truthy : data.truthy = true)
      (accepts : (delegate writable.accepted.length data.encode).accepts data.encode =
        some number)
      (rest : Sends delegate (data.rest number)
        ⟨writable.chunks ++ [data.encode], writable.accepted ++ [data.encode.take number]⟩
        left last) :
      Sends delegate (some data) writable left last

variable {delegate : Delegate} {pending left : Option Data} {writable last : ShellWritable}

theorem Sends.nothing (sends : Sends delegate none writable left last) :
    left = none ∧ last = writable := by
  cases sends with
  | idle => exact ⟨rfl, rfl⟩

theorem Sends.of_empty {data : Data} (empty : data.truthy = false)
    (sends : Sends delegate (some data) writable left last) : last = writable := by
  cases sends with
  | idle => rfl
  | write _ _ _ _ _ truthy =>
      rw [empty] at truthy
      cases truthy

theorem Sends.trans {middle : Option Data} {between : ShellWritable}
    (first : Sends delegate pending writable middle between)
    (second : Sends delegate middle between left last) :
    Sends delegate pending writable left last := by
  induction first with
  | idle => exact second
  | write data writable number _ _ truthy accepts _ inductionHypothesis =>
      exact .write data writable number _ _ truthy accepts (inductionHypothesis second)

/-- What is left of some data is not empty. -/
theorem Sends.left_truthy (sends : Sends delegate pending writable left last)
    (truthy : ∀ data, pending = some data → data.truthy = true) :
    ∀ data, left = some data → data.truthy = true := by
  induction sends with
  | idle => exact truthy
  | write data writable number left last _ _ _ inductionHypothesis =>
      exact inductionHypothesis fun rest leftOver => truthy_of_rest leftOver

/-- Sending data to its end records it at least once. -/
theorem Sends.records (sends : Sends delegate pending writable left last) :
    ∃ recorded, last.chunks.flatten = writable.chunks.flatten ++ recorded ∧
      (∀ data, pending = some data → left ≠ pending → recorded ≠ []) := by
  induction sends with
  | idle pending writable => exact ⟨[], by simp, fun _ _ moved => (moved rfl).elim⟩
  | write data writable number left last truthy accepts rest inductionHypothesis =>
      obtain ⟨recorded, grown, _⟩ := inductionHypothesis
      refine ⟨data.encode ++ recorded, by simp [grown], fun _ _ _ => ?_⟩
      simp [encode_ne_nil truthy]

/-- Data that is sent to its end is accepted and recorded as it is exactly when the first
write accepts all of it. The data is recorded again in each further write, and when there is
none although bytes were left they are lost. -/
theorem Sends.faithful_iff {data : Data} (truthy : data.truthy = true)
    (accepting : delegate.Accepting)
    (sends : Sends delegate (some data) writable none last) :
    (last.accepted.flatten = writable.accepted.flatten ++ data.encode ∧
      last.chunks.flatten = writable.chunks.flatten ++ data.encode) ↔
    (delegate writable.accepted.length data.encode).accepts data.encode =
      some data.encode.length := by
  cases sends with
  | write _ _ number _ _ _ accepts rest =>
      obtain ⟨_, _, within, same⟩ :=
        accepting writable.accepted.length data.encode (encode_ne_nil truthy)
      cases accepts.symm.trans same
      rw [accepts, Option.some.injEq]
      constructor
      · rintro ⟨acceptedAll, recordedOnce⟩
        cases leftOver : data.rest number with
        | none =>
            rw [leftOver] at rest
            obtain ⟨_, rfl⟩ := rest.nothing
            have taken : data.encode.take number = data.encode := by simpa using acceptedAll
            have lengths := congrArg List.length taken
            rw [List.length_take] at lengths
            omega
        | some more =>
            rw [leftOver] at rest
            obtain ⟨recorded, grown, again⟩ := rest.records
            have repeated := again more rfl (by simp)
            rw [recordedOnce] at grown
            simp at grown
            exact (repeated grown).elim
      · rintro rfl
        rw [rest_length_encode] at rest
        obtain ⟨_, rfl⟩ := rest.nothing
        simp

end Tobiko.Shell.Sh
