set_option autoImplicit false

/-! The enumerations and the small records of the public interface. -/

namespace Anyserial

abbrev Byte := BitVec 8

abbrev Bytes := List Byte

inductive ByteSize where
  | five | six | seven | eight
  deriving DecidableEq, Repr

inductive Parity where
  | none | odd | even | mark | space
  deriving DecidableEq, Repr

inductive StopBits where
  | one | onePointFive | two
  deriving DecidableEq, Repr

/-- What the backend does with an optional feature that the device refuses. -/
inductive UnsupportedPolicy where
  | raise | warn | ignore
  deriving DecidableEq, Repr

structure ModemLines where
  cts : Bool
  dsr : Bool
  ri : Bool
  cd : Bool
  deriving DecidableEq, Repr

end Anyserial
