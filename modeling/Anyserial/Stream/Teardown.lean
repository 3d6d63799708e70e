import Anyserial.Exceptions
import Anyserial.Kit.FairLock
import Anyserial.Kit.Transition

/-! The teardown protocol of a serial port: any number of `aclose()` calls that
meet at the close lock. A step is what one call does between two awaits. -/
set_option autoImplicit false

namespace Anyserial.Teardown

open Kit

/-- The two kinds of port. The POSIX one closes its backend synchronously, the
other one awaits `backend.aclose()`. -/
inductive Variant where
  | posix
  | asyncBackend
  deriving DecidableEq, Repr

/-- Where one call of `aclose()` stands. -/
inductive Progress where
  | acquired
  | queued
  | closing
  | returned
  | raised (exc : PyExc)
  deriving DecidableEq, Repr

def Progress.ended : Progress → Bool
  | returned | raised _ => true
  | _ => false

structure State where
  closed : Bool
  closeLock : FairLock Nat
  backendCloses : Nat
  calls : List Progress
  deriving DecidableEq

/-- An open port before the first `aclose()`. -/
def opened : State := ⟨false, .free, 0, []⟩

def outcome : Option PyExc → Progress
  | none => .returned
  | some exc => .raised exc

/-- `Lock.acquire` is a checkpoint: it raises when the calling scope is already
cancelled. A free lock is taken at once, and the yield that follows is shielded. -/
def acquire (state : State) (cancelled : Bool) : State :=
  let me := state.calls.length
  if cancelled then { state with calls := state.calls ++ [.raised .cancelled] }
  else if state.closeLock.owner = none then
    { state with closeLock := state.closeLock.join me, calls := state.calls ++ [.acquired] }
  else { state with closeLock := state.closeLock.join me, calls := state.calls ++ [.queued] }

/-- `__aexit__` of the lock: the call ends and the next one in the queue owns the lock. -/
def exit (state : State) (me : Nat) (ended : Progress) : State :=
  { state with closeLock := state.closeLock.leave me, calls := state.calls.set me ended }

/-- The body of `async with self._close_lock`, up to its end or its first await. -/
def body (variant : Variant) (state : State) (me : Nat) (close : Option PyExc) : State :=
  if state.closed then exit state me .returned
  else
    let state := { state with closed := true, backendCloses := state.backendCloses + 1 }
    match variant with
    | .posix => exit state me (outcome close)
    | .asyncBackend => { state with calls := state.calls.set me .closing }

/-- `call` starts an `aclose()` in a scope that is or is not already cancelled,
`resume` runs the body of the owner, `cancel` delivers a cancellation to a
parked waiter, `finish` ends the backend's own `aclose()`. -/
inductive Label where
  | call (cancelled : Bool)
  | resume (me : Nat) (close : Option PyExc)
  | cancel (me : Nat)
  | finish (me : Nat) (close : Option PyExc)
  deriving DecidableEq, Repr

/-- A waiter resumes once the lock was handed to it. Nothing is delivered inside
the shielded scope, so a call that owns the lock is not cancelled there. -/
def step (variant : Variant) (state : State) : Label → Option State
  | .call cancelled => some (acquire state cancelled)
  | .resume me close =>
      match state.calls[me]? with
      | some .acquired => some (body variant state me close)
      | some .queued => if state.closeLock.owner = some me then some (body variant state me close) else none
      | _ => none
  | .cancel me =>
      match state.calls[me]? with
      | some .queued => some (exit state me (.raised .cancelled))
      | _ => none
  | .finish me close =>
      match state.calls[me]? with
      | some .closing => some (exit state me (outcome close))
      | _ => none

/-- At least one call was made, and every call has returned or raised. -/
def Settled (state : State) : Prop :=
  state.calls ≠ [] ∧ ∀ progress ∈ state.calls, progress.ended = true

instance (state : State) : Decidable (Settled state) :=
  inferInstanceAs (Decidable (_ ∧ _))

/-- The calls of a schedule, each with the state of its scope at the call. -/
def callsOf (labels : List Label) : List Bool :=
  labels.filterMap fun label =>
    match label with
    | .call cancelled => some cancelled
    | _ => none

/-- The schedule delivers a cancellation to the call `me` while it acquires the
close lock: its scope is cancelled when it asks, or it is cancelled in the queue. -/
def CancelledAtLock (labels : List Label) (me : Nat) : Prop :=
  (callsOf labels)[me]? = some true ∨ .cancel me ∈ labels

end Anyserial.Teardown
