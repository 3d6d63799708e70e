import Anyserial.Linux.Containment

/-! Which exceptions escape from `open_serial_port` and from a port, on the four POSIX
backends. -/
set_option autoImplicit false

namespace Anyserial

open Kit Posix

section Generic

variable {δ : Type} [TermiosDevice δ] (termios : TermiosModule)

end Generic

section Rejecting

variable {δ : Type}

open Darwin

end Rejecting

section Escapes

variable {ε δ : Type} {subclass : Subclass ε δ}

end Escapes

end Anyserial
