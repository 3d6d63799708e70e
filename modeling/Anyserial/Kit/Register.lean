set_option autoImplicit false

/-! A part of a store that is saved before it is overwritten and put back later.
`owed` is the store that putting the saved value back would leave. -/

namespace Anyserial.Kit

universe u v

structure Register (Store : Type u) (Value : Type v) where
  read : Store → Option Value
  write : Value → Store → Store
  write_write : ∀ first second store, write second (write first store) = write second store
  write_read : ∀ value store, read store = some value → write value store = store

namespace Register

variable {Store : Type u} {Value : Type v} (register : Register Store Value)

def owed (saved : Option Value) (store : Store) : Store :=
  match saved with
  | none => store
  | some value => register.write value store

@[simp] theorem owed_none (store : Store) : register.owed none store = store := rfl

@[simp] theorem owed_some (value : Value) (store : Store) :
    register.owed (some value) store = register.write value store := rfl

/-- Saving the value that is there owes the store as it is. -/
theorem owed_read {value : Value} {store : Store} (found : register.read store = some value) :
    register.owed (some value) store = store :=
  register.write_read value store found

/-- Overwriting a value that was saved does not change what is owed. -/
theorem owed_write (value other : Value) (store : Store) :
    register.owed (some value) (register.write other store) = register.owed (some value) store :=
  register.write_write other value store

end Register

end Anyserial.Kit
