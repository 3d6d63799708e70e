import Anyserial.CustomBaudProperties
import Anyserial.Linux.BackendProperties
import Anyserial.Linux.Lifecycle
import Anyserial.Posix.MachineProperties

/-! The four POSIX backends of the package, each with what it overrides. -/
set_option autoImplicit false

namespace Anyserial

open Kit Posix

section Moves

variable {ε δ : Type} {related : World ε δ → World ε δ → Prop} [Std.Refl related]

theorem keeps_commit [TermiosDevice δ] {fd : Int} {request : TermiosAttrs → Except PyExc TermiosAttrs}
    (device : ∀ (world : World ε δ) device, related world { world with host := { world.host with device := device } }) :
    Keeps related (commit fd request) := by
  intro world
  refine commit_spec.mono (fun _ after committed => ?_) fun _ after refused => ?_
  · obtain ⟨attrs, _, rfl⟩ := committed
    exact device world _
  · rw [refused.2]
    exact Std.Refl.refl world

variable [IsTrans (World ε δ) related]

theorem keeps_rejectUnsupported {platform : String} {config : SerialConfig}
    (warnings : ∀ (world : World ε δ) messages, related world { world with host := { world.host with warnings := messages } }) :
    Keeps related (rejectUnsupported platform config) := by
  have rejects : ∀ feature policy, Keeps related (rejectFeature platform feature policy : Py (World ε δ) Unit) := by
    intro feature policy
    cases policy with
    | raise => exact .throw _
    | warn => exact .modify fun world => warnings world _
    | ignore => exact .pure ()
  exact (keeps_whenever (rejects _ _)).bind fun _ => keeps_whenever (rejects _ _)

end Moves

section Generic

variable {δ : Type} [TermiosDevice δ] (termios : TermiosModule)

theorem descriptorMoves_sameBreak {ε δ : Type} : DescriptorMoves (@SameBreak ε δ) := ⟨fun _ _ => rfl, fun _ _ _ _ => rfl⟩

/-- One class serves every BSD. -/
def bsdSubclass : Subclass Unit δ where
  termios := termios
  openPort := Bsd.openPort termios
  close := Posix.close
  configure := Bsd.configure termios
  configureDescriptor config := by
    have applies : ∀ fd, Keeps SameFd (Bsd.applyConfigToFd termios fd config : Py (World Unit δ) Unit) := by
      intro fd
      unfold Bsd.applyConfigToFd
      rw [Bsd.applyCustomBaudConfig_eq_commit]
      exact .ite (fun _ => keeps_commit fun _ _ => ⟨rfl, rfl⟩) fun _ => keeps_commit fun _ _ => ⟨rfl, rfl⟩
    exact (keeps_rejectUnsupported fun _ _ => ⟨rfl, rfl⟩).bind fun _ => keeps_configureWith applies fun _ _ => ⟨rfl, rfl⟩
  configureBreak config := by
    have applies : ∀ fd, Keeps SameBreak (Bsd.applyConfigToFd termios fd config : Py (World Unit δ) Unit) := by
      intro fd
      unfold Bsd.applyConfigToFd
      rw [Bsd.applyCustomBaudConfig_eq_commit]
      exact .ite (fun _ => keeps_commit fun _ _ => rfl) fun _ => keeps_commit fun _ _ => rfl
    exact (keeps_rejectUnsupported fun _ _ => rfl).bind fun _ => keeps_configureWith applies fun _ _ => rfl
  closeBreak := keeps_close descriptorMoves_sameBreak

end Generic

theorem Darwin.keeps_applyConfigToFd {related : Darwin.DarwinWorld → Darwin.DarwinWorld → Prop} [Std.Refl related]
    [IsTrans Darwin.DarwinWorld related] {fd : Int} {config : SerialConfig}
    (device : ∀ (world : Darwin.DarwinWorld) device, related world { world with host := { world.host with device := device } }) :
    Keeps related (Darwin.applyConfigToFd fd config) := by
  unfold Darwin.applyConfigToFd
  rw [Darwin.applyCustomBaudConfig_eq_commit]
  refine .ite (fun _ => keeps_commit device) fun _ => (keeps_commit device).bind fun _ => ?_
  exact .ite (fun _ => .throw _) fun _ => keeps_fcntlCall.bind fun _ => .modify fun world => device world _

def darwinSubclass : Subclass Unit Darwin.Device where
  termios := Darwin.darwinTermios
  openPort := Darwin.openPort
  close := Posix.close
  configure := Darwin.configure
  configureDescriptor _ := (keeps_rejectUnsupported fun _ _ => ⟨rfl, rfl⟩).bind fun _ =>
    keeps_configureWith (fun _ => Darwin.keeps_applyConfigToFd fun _ _ => ⟨rfl, rfl⟩) fun _ _ => ⟨rfl, rfl⟩
  configureBreak _ := (keeps_rejectUnsupported fun _ _ => rfl).bind fun _ =>
    keeps_configureWith (fun _ => Darwin.keeps_applyConfigToFd fun _ _ => rfl) fun _ _ => rfl
  closeBreak := keeps_close descriptorMoves_sameBreak

section Linux

open Anyserial.Linux

variable {before after : LinuxWorld}

theorem sameFd_of_eraseTermios (same : SameView eraseTermios before after) : SameFd before after :=
  ⟨congrArg (fun world => world.backend.fd) same, congrArg (fun world => world.host.openFds) same⟩

theorem sameFd_of_eraseRs485 (same : SameView eraseRs485 before after) : SameFd before after :=
  ⟨congrArg (fun world => world.backend.fd) same, congrArg (fun world => world.host.openFds) same⟩

theorem sameBreak_of_eraseTermios (same : SameView eraseTermios before after) : SameBreak before after := by
  have host : (eraseTermios after).host.breakOn = (eraseTermios before).host.breakOn := congrArg (fun world => world.host.breakOn) same
  exact host

theorem sameBreak_of_eraseRs485 (same : SameView eraseRs485 before after) : SameBreak before after := by
  have host : (eraseRs485 after).host.breakOn = (eraseRs485 before).host.breakOn := congrArg (fun world => world.host.breakOn) same
  exact host

theorem lifecycleMoves_sameBreak : LifecycleMoves SameBreak where
  descriptor := descriptorMoves_sameBreak
  lowLatency := ⟨fun _ _ => rfl, fun _ _ => rfl, fun _ _ => rfl, fun _ _ => rfl, fun _ _ => rfl⟩
  termios _ _ := sameBreak_of_eraseTermios
  rs485 _ _ := sameBreak_of_eraseRs485

def linuxSubclass : Subclass Slots Device where
  termios := linuxTermios
  openPort := Linux.openPort
  close := Linux.close
  configure := Linux.configure
  configureDescriptor _ := by
    refine .bind (keeps_configureWith (fun _ => ?_) fun _ _ => ⟨rfl, rfl⟩) fun _ => ?_
    · exact keepsButTermios_applyConfigToFd.mono fun _ _ => sameFd_of_eraseTermios
    · exact keepsButRs485_configureRs485.mono fun _ _ => sameFd_of_eraseRs485
  configureBreak _ := Linux.keeps_configure lifecycleMoves_sameBreak
  closeBreak := Linux.keeps_close lifecycleMoves_sameBreak

end Linux

end Anyserial
