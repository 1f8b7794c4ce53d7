import VoodooI2C.Driver.Basic

/-!
This module contains the simp set that computes which operations a function of the driver performs.
-/

namespace VoodooI2C

open Interaction

variable {P : Op → Prop} {α : Type}

@[simp]
theorem performs_pure (a : α) : (pure a : Driver α).Performs P :=
  Prog.performs_pure a

@[simp]
theorem performs_perform_bind (op : Op) (f : op.Ans → Driver α) :
    (Prog.perform op >>= f).Performs P ↔ P op ∧ ∀ r, (f r).Performs P := by
  rfl

@[simp]
theorem performs_perform (op : Op) : (Prog.perform op : Driver op.Ans).Performs P ↔ P op := by
  constructor
  . intro h
    apply h.1
  . intro h
    apply Prog.performs_perform h

@[simp]
theorem performs_readRegister_bind (reg : Register) (f : Word → Driver α) :
    (readRegister reg >>= f).Performs P ↔ P (.readRegister reg) ∧ ∀ v, (f v).Performs P := by
  rfl

@[simp]
theorem performs_writeRegister_bind (v : Word) (reg : Register) (f : Unit → Driver α) :
    (writeRegister v reg >>= f).Performs P ↔ P (.writeRegister v reg) ∧ (f ()).Performs P := by
  constructor
  . intro h
    exact ⟨h.1, h.2 ()⟩
  . intro h
    exact ⟨h.1, fun _ => h.2⟩

@[simp]
theorem performs_device_bind (f : BusDevice → Driver α) :
    (device >>= f).Performs P ↔ P .device ∧ ∀ d, (f d).Performs P := by
  rfl

@[simp]
theorem performs_update_bind (g : BusDevice → BusDevice) (f : Unit → Driver α) :
    (update g >>= f).Performs P ↔ P (.update g) ∧ (f ()).Performs P := by
  constructor
  . intro h
    exact ⟨h.1, h.2 ()⟩
  . intro h
    exact ⟨h.1, fun _ => h.2⟩

@[simp]
theorem performs_message_bind (p : Pointer) (i : Nat) (f : BusMessage → Driver α) :
    (message p i >>= f).Performs P ↔ P (.message p i) ∧ ∀ m, (f m).Performs P := by
  rfl

@[simp]
theorem performs_load_bind (a : Address) (f : Byte → Driver α) :
    (load a >>= f).Performs P ↔ P (.load a) ∧ ∀ b, (f b).Performs P := by
  rfl

@[simp]
theorem performs_store_bind (a : Address) (b : Byte) (f : Unit → Driver α) :
    (store a b >>= f).Performs P ↔ P (.store a b) ∧ (f ()).Performs P := by
  constructor
  . intro h
    exact ⟨h.1, h.2 ()⟩
  . intro h
    exact ⟨h.1, fun _ => h.2⟩

@[simp]
theorem performs_reach_bind (point : Point) (f : Unit → Driver α) :
    (reach point >>= f).Performs P ↔ P (.reach point) ∧ (f ()).Performs P := by
  constructor
  . intro h
    exact ⟨h.1, h.2 ()⟩
  . intro h
    exact ⟨h.1, fun _ => h.2⟩

@[simp]
theorem performs_readRegister (reg : Register) :
    (readRegister reg).Performs P ↔ P (.readRegister reg) := by
  apply performs_perform

@[simp]
theorem performs_writeRegister (v : Word) (reg : Register) :
    (writeRegister v reg).Performs P ↔ P (.writeRegister v reg) := by
  apply performs_perform

@[simp]
theorem performs_update (g : BusDevice → BusDevice) :
    (update g).Performs P ↔ P (.update g) := by
  apply performs_perform

@[simp]
theorem performs_commandWakeup : commandWakeup.Performs P ↔ P .commandWakeup := by
  apply performs_perform

@[simp]
theorem performs_disableInterrupt : disableInterrupt.Performs P ↔ P .disableInterrupt := by
  apply performs_perform

@[simp]
theorem performs_enableInterrupt : enableInterrupt.Performs P ↔ P .enableInterrupt := by
  apply performs_perform

end VoodooI2C
