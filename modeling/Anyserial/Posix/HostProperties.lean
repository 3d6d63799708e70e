import Anyserial.Posix.Host
import Anyserial.Kit.Ownership

/-! How each call of the host ends, as rewriting rules. -/
set_option autoImplicit false

namespace Anyserial.Posix

open Kit

variable {ε δ : Type} {world : World ε δ} {fd : Int} {call : Syscall} {phase : Phase}

/-- The process holds the descriptor. -/
def Host.Holds (host : Host δ) (fd : Int) : Prop := 0 ≤ fd ∧ fd ∈ host.openFds

section Keeps

variable {related : World ε δ → World ε δ → Prop} [Std.Refl related]

theorem keeps_refuse {exception : OSErr → PyExc} (result : Option OSErr) :
    Keeps related (refuse exception result) := by
  cases result with
  | none => exact .pure ()
  | some err => exact .throw _

theorem keeps_fcntlCall : Keeps related (fcntlCall fd call phase) := by
  intro world
  by_cases negative : fd < 0
  · simpa [fcntlCall, negative] using Std.Refl.refl world
  · simpa [fcntlCall, negative] using keeps_refuse (world.host.refusal fd call phase) world

theorem keeps_termiosCall : Keeps related (termiosCall fd call) := by
  intro world
  by_cases negative : fd < 0
  · simpa [termiosCall, negative] using Std.Refl.refl world
  · simpa [termiosCall, negative] using keeps_refuse (world.host.refusal fd call .apply) world

theorem keeps_getHost : Keeps related (getHost : Py (World ε δ) (Host δ)) := Keeps.get.map _

theorem keeps_getBackend : Keeps related (getBackend : Py (World ε δ) (PosixBackend ε)) := Keeps.get.map _

theorem keeps_getDevice : Keeps related (getDevice : Py (World ε δ) δ) := Keeps.get.map _

end Keeps

section Rules

variable {returned : Unit → World ε δ → Prop} {raised : PyExc → World ε δ → Prop}

@[simp] theorem ends_refuse {exception : OSErr → PyExc} {result : Option OSErr} :
    Ends (refuse exception result) world returned raised ↔
      (∀ err, result = some err → raised (exception err) world) ∧ (result = none → returned () world) := by
  cases result <;> simp [refuse]

theorem ends_fcntlCall (held : world.host.Holds fd) :
    Ends (fcntlCall fd call phase) world returned raised ↔
      (∀ err, world.host.faults call phase = some err → raised (.osError err) world) ∧
        (world.host.faults call phase = none → returned () world) := by
  have sign : ¬fd < 0 := Int.not_lt.mpr held.1
  simp [fcntlCall, sign, Host.refusal, held.2]

theorem ends_termiosCall (held : world.host.Holds fd) :
    Ends (termiosCall fd call) world returned raised ↔
      (∀ err, world.host.faults call .apply = some err → raised (.termiosError err) world) ∧
        (world.host.faults call .apply = none → returned () world) := by
  have sign : ¬fd < 0 := Int.not_lt.mpr held.1
  simp [termiosCall, sign, Host.refusal, held.2]

/-- Whatever the descriptor, an `ioctl` or a lock changes nothing by itself. -/
theorem ends_fcntlCall_any (accepted : returned () world) (refused : ∀ exc, raised exc world) :
    Ends (fcntlCall fd call phase) world returned raised := by
  simp [fcntlCall, accepted, refused]

@[simp] theorem ends_modifyHost {f : Host δ → Host δ} :
    Ends (modifyHost f) world returned raised ↔ returned () { world with host := f world.host } := Iff.rfl

@[simp] theorem ends_modifyBackend {f : PosixBackend ε → PosixBackend ε} :
    Ends (modifyBackend f) world returned raised ↔ returned () { world with backend := f world.backend } := Iff.rfl

@[simp] theorem ends_modifyDevice {f : δ → δ} :
    Ends (modifyDevice f) world returned raised ↔
      returned () { world with host := { world.host with device := f world.host.device } } := Iff.rfl

@[simp] theorem ends_warn {message : String} :
    Ends (warn message) world returned raised ↔
      returned () { world with host := { world.host with warnings := world.host.warnings ++ [message] } } := Iff.rfl

end Rules

@[simp] theorem ends_getHost {returned : Host δ → World ε δ → Prop} {raised : PyExc → World ε δ → Prop} :
    Ends (getHost : Py (World ε δ) (Host δ)) world returned raised ↔ returned world.host world := Iff.rfl

@[simp] theorem ends_getBackend {returned : PosixBackend ε → World ε δ → Prop} {raised : PyExc → World ε δ → Prop} :
    Ends (getBackend : Py (World ε δ) (PosixBackend ε)) world returned raised ↔ returned world.backend world := Iff.rfl

@[simp] theorem ends_getDevice {returned : δ → World ε δ → Prop} {raised : PyExc → World ε δ → Prop} :
    Ends (getDevice : Py (World ε δ) δ) world returned raised ↔ returned world.host.device world := Iff.rfl

theorem lowestUnused_notMem (fds : List Int) : lowestUnused fds ∉ fds := by
  cases found : (List.range (fds.length + 1)).find? fun n => Int.ofNat n ∉ fds with
  | some n =>
    have unused := List.find?_some found
    rw [lowestUnused, found]
    simpa using unused
  | none =>
    obtain ⟨n, inside, unused⟩ := exists_fresh (fun _ _ same => Int.ofNat.inj same) fds
    exact absurd unused (by simpa using List.find?_eq_none.mp found n inside)

theorem lowestUnused_nonneg (fds : List Int) : 0 ≤ lowestUnused fds :=
  Int.natCast_nonneg _

theorem ends_osOpen {path : String} {returned : Int → World ε δ → Prop} {raised : PyExc → World ε δ → Prop} :
    Ends (osOpen path) world returned raised ↔
      (∀ exc, world.host.pathError path = some exc → raised exc world) ∧
      (world.host.pathError path = none →
        (∀ err, world.host.faults .openCall .apply = some err → raised (.osError err) world) ∧
        (world.host.faults .openCall .apply = none →
          returned (lowestUnused world.host.openFds)
            { world with
              host := { world.host with openFds := lowestUnused world.host.openFds :: world.host.openFds } })) := by
  simp only [osOpen, ends_bind, ends_getHost]
  cases world.host.pathError path with
  | some exc => simp
  | none => simp

/-- The descriptor is released whichever way `os.close` ends. -/
theorem ends_osClose {returned : Unit → World ε δ → Prop} {raised : PyExc → World ε δ → Prop}
    (onReturn : returned () { world with host := { world.host with openFds := world.host.openFds.erase fd } })
    (onRaise : ∀ err,
      raised (.osError err) { world with host := { world.host with openFds := world.host.openFds.erase fd } }) :
    Ends (osClose fd) world returned raised := by
  simp only [osClose, ends_bind, ends_getHost, ends_modifyHost, ends_refuse]
  exact ⟨fun err _ => onRaise err, fun _ => onReturn⟩

end Anyserial.Posix
