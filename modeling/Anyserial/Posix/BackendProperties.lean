import Anyserial.Posix.Backend
import Anyserial.Posix.HostProperties

/-! Opening, configuring and closing the POSIX backend, for any way to apply a
configuration that touches one part of the device only. -/
set_option autoImplicit false

namespace Anyserial.Posix

open Kit

variable {ε δ : Type} {world : World ε δ} {path className : String} {config : SerialConfig}
  {applyConfig : Int → SerialConfig → Py (World ε δ) Unit}

/-- Everything but the part of the device that `erase` resets. -/
def eraseDevice (erase : δ → δ) (world : World ε δ) : World ε δ :=
  { world with host := { world.host with device := erase world.host.device } }

/-- The world after a descriptor was opened, before the backend owns it. -/
def withDescriptor (world : World ε δ) : World ε δ :=
  { world with host := { world.host with openFds := lowestUnused world.host.openFds :: world.host.openFds } }

/-- The world after an open: the backend owns the descriptor that was opened. -/
def opened (world : World ε δ) (path : String) (config : SerialConfig) : World ε δ :=
  { withDescriptor world with
    backend := ⟨lowestUnused world.host.openFds, path, some config, world.backend.slots⟩ }

/-- The world after a close: the descriptor is given back. -/
def released (world : World ε δ) : World ε δ where
  backend := { world.backend with fd := -1 }
  host := { world.host with openFds := world.host.openFds.erase world.backend.fd }

theorem keeps_acquireExclusiveLock {related : World ε δ → World ε δ → Prop} [Std.Refl related]
    [IsTrans (World ε δ) related] {fd : Int} : Keeps related (acquireExclusiveLock fd path) :=
  keeps_fcntlCall.tryCatch fun _ => .ite (fun _ => .throw _) fun _ => .throw _

theorem keeps_setUp {related : World ε δ → World ε δ → Prop} [Std.Refl related] [IsTrans (World ε δ) related]
    {fd : Int} (keeps : Keeps related (applyConfig fd config)) : Keeps related (setUp applyConfig fd path config) :=
  (keeps_whenever keeps_acquireExclusiveLock).bind fun _ => keeps

/-- The moves that the lifecycle of the POSIX backend is made of. -/
structure DescriptorMoves (related : World ε δ → World ε δ → Prop) : Prop where
  openFds : ∀ (world : World ε δ) fds, related world { world with host := { world.host with openFds := fds } }
  backend : ∀ (world : World ε δ) fd path config,
    related world { world with backend := ⟨fd, path, config, world.backend.slots⟩ }

section Lifecycle

variable {related : World ε δ → World ε δ → Prop} [Std.Refl related] [IsTrans (World ε δ) related]

theorem keeps_osOpen (moves : DescriptorMoves related) : Keeps related (osOpen path) := by
  refine keeps_getHost.bind fun host => ?_
  cases host.pathError path with
  | some exc => exact .throw exc
  | none => exact (keeps_refuse _).bind fun _ => Keeps.bind (.modify fun world => moves.openFds world _) fun _ => .pure _

theorem keeps_osClose (moves : DescriptorMoves related) {fd : Int} : Keeps related (osClose fd) :=
  keeps_getHost.bind fun _ => Keeps.bind (.modify fun world => moves.openFds world _) fun _ => keeps_refuse _

theorem keeps_openPort (moves : DescriptorMoves related) (keeps : ∀ fd, Keeps related (applyConfig fd config)) :
    Keeps related (openPort className applyConfig path config) := by
  refine keeps_getBackend.bind fun _ => .ite (fun _ => .throw _) fun _ => (keeps_osOpen moves).bind fun fd => ?_
  refine .bind (.tryCatch (keeps_setUp (keeps fd)) fun exc => ?_) fun _ => .modify fun world => moves.backend world _ _ _
  exact (keeps_osClose moves).bind fun _ => .throw exc

theorem keeps_close (moves : DescriptorMoves related) : Keeps related close :=
  keeps_getBackend.bind fun _ => .ite (fun _ => .pure ()) fun _ =>
    .bind (.modify fun world => moves.backend world _ _ _) fun _ => keeps_osClose moves

theorem keeps_configure (moves : DescriptorMoves related) (keeps : ∀ fd, Keeps related (applyConfig fd config)) :
    Keeps related (configure applyConfig config) :=
  keeps_getBackend.bind fun backend => (keeps backend.fd).bind fun _ => .modify fun world => moves.backend world _ _ _

/-- A reconfiguration stays on the descriptor. -/
theorem keeps_configureWith (applies : ∀ fd, Keeps related (applyConfig fd config))
    (stored : ∀ (world : World ε δ) config, related world { world with backend := { world.backend with config := config } }) :
    Keeps related (configure applyConfig config) :=
  keeps_getBackend.bind fun _ => (applies _).bind fun _ => .modify fun world => stored world _

end Lifecycle

theorem openPort_of_open (isOpen : world.backend.isOpen = true) {returned : Unit → World ε δ → Prop}
    {raised : PyExc → World ε δ → Prop} :
    Ends (openPort className applyConfig path config) world returned raised ↔
      raised (alreadyOpen className world.backend.path) world := by
  simp only [openPort, ends_bind, ends_getBackend, isOpen, if_true, ends_throw]

/-- A closed backend owns the new descriptor when `open` returns. When it raises,
the descriptor has been closed again. -/
theorem openPort_spec {erase : δ → δ} (closed : world.backend.isOpen = false)
    (keeps : ∀ fd, Keeps (SameView (eraseDevice erase)) (applyConfig fd config)) :
    Ends (openPort className applyConfig path config) world
      (fun _ after => eraseDevice erase after = eraseDevice erase (opened world path config))
      (fun _ after => eraseDevice erase after = eraseDevice erase world) := by
  simp only [openPort, ends_bind, ends_getBackend, closed, Bool.false_eq_true, if_false, ends_osOpen, ends_tryCatch,
    ends_throw, ends_modifyBackend]
  refine ⟨fun _ _ => trivial, fun _ => ⟨fun _ _ => trivial, fun _ => ?_⟩⟩
  refine (keeps_setUp (keeps _) (withDescriptor world)).mono (fun _ after same => ?_) (fun exc after same => ?_)
  · have backend := congrArg World.backend same
    have host := congrArg World.host same
    simp only [eraseDevice, withDescriptor] at backend host
    simp only [eraseDevice, opened, withDescriptor, backend, host]
  · have backend := congrArg World.backend same
    have host := congrArg World.host same
    simp only [eraseDevice, withDescriptor] at backend host
    have fds := congrArg Host.openFds host
    simp only at fds
    have erased : (lowestUnused world.host.openFds :: world.host.openFds).erase (lowestUnused world.host.openFds) =
        world.host.openFds := List.erase_cons_head ..
    have final : eraseDevice erase { after with host := { after.host with
        openFds := after.host.openFds.erase (lowestUnused world.host.openFds) } } = eraseDevice erase world := by
      have reset := congrArg (fun host => { host with openFds := world.host.openFds }) host
      simp only [eraseDevice, fds, erased, backend]
      simpa using reset
    exact ends_osClose final fun _ => final

/-- `close` releases the descriptor whichever way it ends. -/
theorem close_spec (isOpen : world.backend.isOpen = true) :
    Ends close world (fun _ after => after = released world)
      (fun exc after => exc.isOSError = true ∧ after = released world) := by
  have notNegative : ¬world.backend.fd < 0 := by simpa [PosixBackend.isOpen] using isOpen
  simp only [close, ends_bind, ends_getBackend, notNegative, if_false, ends_modifyBackend]
  exact ends_osClose rfl fun _ => ⟨rfl, rfl⟩

theorem close_of_closed (closed : world.backend.isOpen = false) {returned : Unit → World ε δ → Prop}
    {raised : PyExc → World ε δ → Prop} : Ends close world returned raised ↔ returned () world := by
  have negative : world.backend.fd < 0 := by simpa [PosixBackend.isOpen] using closed
  simp only [close, ends_bind, ends_getBackend, negative, if_true, ends_pure]

theorem configure_spec {erase : δ → δ} (keeps : ∀ fd, Keeps (SameView (eraseDevice erase)) (applyConfig fd config)) :
    Ends (configure applyConfig config) world
      (fun _ after => eraseDevice erase after =
        eraseDevice erase { world with backend := { world.backend with config := some config } })
      (fun _ after => eraseDevice erase after = eraseDevice erase world) := by
  simp only [configure, ends_bind, ends_getBackend, ends_modifyBackend]
  refine (keeps world.backend.fd world).mono (fun _ after same => ?_) (fun _ _ same => same)
  have backend := congrArg World.backend same
  have host := congrArg World.host same
  simp only [eraseDevice] at backend host
  simp only [eraseDevice, backend, host]

end Anyserial.Posix
