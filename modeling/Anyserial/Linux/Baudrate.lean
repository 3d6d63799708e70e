import Anyserial.Linux.Device
import Anyserial.Kit.LittleEndian

/-! Custom baud rates: `struct termios2` and the pair of ioctls that carry it. -/
set_option autoImplicit false

namespace Anyserial.Linux

open Kit Posix

/-- Size of `struct termios2`. -/
def termios2Size : Nat := 44

/-- The fields of a `struct termios2`; the integers are unbounded. -/
structure Termios2Attrs where
  iflag : Nat
  oflag : Nat
  cflag : Nat
  lflag : Nat
  line : Nat
  cc : Bytes
  ispeed : Nat
  ospeed : Nat
  deriving DecidableEq

namespace Termios2Attrs

/-- `_TERMIOS2_STRUCT.unpack`: the payload has to have the exact size. -/
def unpack (buf : Bytes) : Except PyExc Termios2Attrs :=
  if buf.length ≠ termios2Size then .error .structError
  else
    .ok
      { iflag := unpackU32 (buf.take 4)
        oflag := unpackU32 ((buf.drop 4).take 4)
        cflag := unpackU32 ((buf.drop 8).take 4)
        lflag := unpackU32 ((buf.drop 12).take 4)
        line := ((buf.drop 16).head?.getD 0).toNat
        cc := (buf.drop 17).take nccs2
        ispeed := unpackU32 ((buf.drop 36).take 4)
        ospeed := unpackU32 ((buf.drop 40).take 4) }

/-- Every integer fits its field of the struct. -/
def Fits (attrs : Termios2Attrs) : Prop :=
  attrs.iflag < 2 ^ 32 ∧ attrs.oflag < 2 ^ 32 ∧ attrs.cflag < 2 ^ 32 ∧ attrs.lflag < 2 ^ 32 ∧
    attrs.line < 2 ^ 8 ∧ attrs.ispeed < 2 ^ 32 ∧ attrs.ospeed < 2 ^ 32

instance (attrs : Termios2Attrs) : Decidable attrs.Fits := inferInstanceAs (Decidable (_ ∧ _))

/-- `_TERMIOS2_STRUCT.pack`: an integer that does not fit its field raises, and
the `s` format pads or truncates the control characters. -/
def pack (attrs : Termios2Attrs) : Except PyExc Bytes :=
  if attrs.Fits then
    .ok (packU32 attrs.iflag ++ packU32 attrs.oflag ++ packU32 attrs.cflag ++ packU32 attrs.lflag ++
      [BitVec.ofNat 8 attrs.line] ++ (attrs.cc ++ List.replicate nccs2 0).take nccs2 ++
      packU32 attrs.ispeed ++ packU32 attrs.ospeed)
  else .error .structError

end Termios2Attrs

/-- The payload the kernel copies out for `TCGETS2`. -/
def KernelTermios.toPayload (termios : KernelTermios) : Bytes :=
  packU32 termios.iflag.toNat ++ packU32 termios.oflag.toNat ++ packU32 termios.cflag.toNat ++
    packU32 termios.lflag.toNat ++ [termios.line] ++ termios.cc.toList ++
    packU32 termios.ispeed.toNat ++ packU32 termios.ospeed.toNat

/-- The attributes the kernel copies in for `TCSETS2`. -/
def KernelTermios.ofPayload (payload : Bytes) : KernelTermios where
  iflag := BitVec.ofNat 32 (unpackU32 (payload.take 4))
  oflag := BitVec.ofNat 32 (unpackU32 ((payload.drop 4).take 4))
  cflag := BitVec.ofNat 32 (unpackU32 ((payload.drop 8).take 4))
  lflag := BitVec.ofNat 32 (unpackU32 ((payload.drop 12).take 4))
  line := (payload.drop 16).head?.getD 0
  cc := Vector.ofFn fun index => (payload[17 + index.val]?).getD 0
  ispeed := BitVec.ofNat 32 (unpackU32 ((payload.drop 36).take 4))
  ospeed := BitVec.ofNat 32 (unpackU32 ((payload.drop 40).take 4))

section Calls

variable {ε : Type}

def readTermios2 (fd : Int) : Py (World ε Device) Termios2Attrs := do
  fcntlCall fd .tcgets2 .apply
  let device ← getDevice
  liftExcept (Termios2Attrs.unpack device.termios.toPayload)

/-- The payload is packed before the ioctl is issued. -/
def writeTermios2 (fd : Int) (attrs : Termios2Attrs) : Py (World ε Device) Unit := do
  let payload ← liftExcept attrs.pack
  fcntlCall fd .tcsets2 .apply
  modifyDevice fun device => { device with termios := .ofPayload payload }

end Calls

def clearCbaud (cflag : Nat) : Nat := clearBits cflag cbaud

def markBother (cflag : Nat) : Nat := clearCbaud cflag ||| bother

end Anyserial.Linux
