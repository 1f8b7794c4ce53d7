import VoodooI2C.Driver.Basic
import Mathlib.Logic.Relation

/-!
This module contains what the driver sees of a controller and the laws of the registers that hold
the last value written to them.
-/

namespace VoodooI2C

/--
A controller. `canRead reg h v` holds if a read of `reg` in the state `h` can return `v` and `step`
is what the controller does on its own. `reset f h` is the state after a loss of power that leaves
`f` in the registers.
-/
structure Hardware where
  State : Type
  canRead : Register → State → Word → Prop
  read : Register → Word → State → State
  write : Word → Register → State → State
  step : State → State → Prop
  reset : (Register → Word) → State → State

abbrev Hardware.Steps (H : Hardware) : H.State → H.State → Prop :=
  Relation.ReflTransGen H.step

def Register.Holds (reg : Register) : Bool :=
  match reg with
  | .con | .tar | .ssSclHcnt | .ssSclLcnt | .fsSclHcnt | .fsSclLcnt | .intrMask | .rxTl | .txTl
  | .enable | .sdaHold => true
  | _ => false

/--
A controller whose configuration registers, `IC_INTR_MASK` and `IC_ENABLE` hold the last value
written to them and whose `IC_INTR_STAT` is masked by `IC_INTR_MASK`.
-/
class RegisterFile (H : Hardware) where
  value : H.State → Register → Word
  canRead_holds : H.canRead reg h v → reg.Holds → v = value h reg
  canRead_intrStat : H.canRead .intrStat h v → v &&& value h .intrMask = v
  value_read : reg'.Holds → value (H.read reg v h) reg' = value h reg'
  value_write_self : reg.Holds → value (H.write v reg h) reg = v
  value_write_ne : reg'.Holds → reg' ≠ reg → value (H.write v reg h) reg' = value h reg'
  value_step : H.step h h' → reg.Holds → value h' reg = value h reg
  value_reset : reg.Holds → value (H.reset f h) reg = f reg

theorem RegisterFile.value_steps {H : Hardware} [RegisterFile H] {h h' : H.State} {reg : Register}
    (hsteps : H.Steps h h') (hreg : reg.Holds) : value h' reg = value h reg := by
  induction hsteps with
  | refl => rfl
  | tail _ hstep ih => rw [value_step hstep hreg, ih]

/--
A controller whose `IC_ENABLE_STATUS` follows `IC_ENABLE` while the driver polls it. `lag` bounds the
number of polls that it still takes.
-/
class Prompt (H : Hardware) [RegisterFile H] where
  lag : H.State → Nat
  lag_le : lag h ≤ 1000
  canRead_enableStatus : H.canRead .enableStatus h v → lag h = 0 →
    v &&& 1 = RegisterFile.value h .enable &&& 1
  lag_poll : lag (H.read .enableStatus v h) ≤ lag h - 1
  lag_read : lag (H.read reg v h) ≤ lag h
  lag_write : (reg = .enable → v = RegisterFile.value h .enable) → lag (H.write v reg h) ≤ lag h
  lag_step : H.step h h' → lag h' ≤ lag h

/--
The controller `H` restricted to runs in which `IC_ENABLE_STATUS` follows `IC_ENABLE` at once.
-/
def Hardware.prompt (H : Hardware) [RegisterFile H] : Hardware :=
  { H with
    canRead := fun reg h v =>
      H.canRead reg h v
        ∧ (reg = .enableStatus → v &&& 1 = RegisterFile.value h .enable &&& 1) }

namespace Hardware

variable {H : Hardware} [RegisterFile H]

instance : RegisterFile H.prompt where
  value := RegisterFile.value (H := H)
  canRead_holds hread hreg := RegisterFile.canRead_holds hread.1 hreg
  canRead_intrStat hread := RegisterFile.canRead_intrStat hread.1
  value_read := RegisterFile.value_read (H := H)
  value_write_self := RegisterFile.value_write_self (H := H)
  value_write_ne := RegisterFile.value_write_ne (H := H)
  value_step := RegisterFile.value_step (H := H)
  value_reset := RegisterFile.value_reset (H := H)

instance : Prompt H.prompt where
  lag _ := 0
  lag_le := Nat.zero_le _
  canRead_enableStatus hread _ := hread.2 rfl
  lag_poll := Nat.le_refl _
  lag_read := Nat.le_refl _
  lag_write _ := Nat.le_refl _
  lag_step _ := Nat.le_refl _

end Hardware

/--
A predicate that disabling the controller establishes and that only accesses to `IC_DATA_CMD` can
invalidate.
-/
structure Calm {H : Hardware} (K : H.State → Prop) : Prop where
  off : ∀ h, K (H.write 0 .enable h)
  step : ∀ h h', K h → H.step h h' → K h'
  read : ∀ reg h v, K h → reg ≠ .dataCmd → H.canRead reg h v → K (H.read reg v h)
  write : ∀ v reg h, K h → reg ≠ .dataCmd → K (H.write v reg h)
  reset : ∀ f h, K h → K (H.reset f h)

theorem Calm.true {H : Hardware} : Calm fun _ : H.State => True := by
  constructor <;> simp

end VoodooI2C
