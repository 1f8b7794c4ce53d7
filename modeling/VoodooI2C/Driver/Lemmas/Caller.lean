import VoodooI2C.Driver.Impl.Transfer
import VoodooI2C.Driver.Lemmas.Performs

/-!
This module contains which operations the functions perform that run on the threads of callers.
-/

namespace VoodooI2C

open Interaction

def RoutineOp (op : Op) : Prop :=
  match op with
  | .readRegister reg => reg ≠ .dataCmd
  | .writeRegister _ reg => reg = .enable ∨ reg = .intrMask
  | .device | .update _ | .disableInterrupt | .enableInterrupt | .registerInterrupt
  | .unregisterInterrupt => True
  | _ => False

def CallerOp (op : Op) : Prop :=
  match op with
  | .readRegister reg | .writeRegister _ reg => reg ≠ .dataCmd
  | .message _ _ | .enterSleep | .leaveSleep | .reach (.prepareTransferI2C _)
  | .reach .prepareTransferI2CReturns => True
  | op => RoutineOp op

theorem RoutineOp.callerOp {op : Op} (h : RoutineOp op) : CallerOp op := by
  cases op with
  | writeRegister v reg => rcases h with rfl | rfl <;> simp [CallerOp]
  | message _ _ | enterSleep | leaveSleep | reach _ => contradiction
  | _ => apply h

theorem performs_of_routine {α : Type} {p : Driver α} (hp : p.Performs RoutineOp) :
    p.Performs CallerOp :=
  Prog.performs_mono hp fun _ h => h.callerOp

theorem performs_toggleBusState (enabled : VoodooI2CState) :
    (toggleBusState enabled).Performs RoutineOp := by
  unfold toggleBusState
  generalize 1000 = timeout
  induction timeout with
  | zero =>
    unfold toggleBusState.go
    simp only [performs_writeRegister_bind, performs_readRegister_bind]
    refine ⟨.inl rfl, by simp [RoutineOp], fun status => ?_⟩
    split <;> simp
  | succ timeout ih =>
    unfold toggleBusState.go
    simp only [performs_writeRegister_bind, performs_readRegister_bind]
    refine ⟨.inl rfl, by simp [RoutineOp], fun status => ?_⟩
    split
    . simp
    . apply ih

theorem performs_waitBusNotBusyI2C : waitBusNotBusyI2C.Performs RoutineOp := by
  unfold waitBusNotBusyI2C
  generalize 20 * 150 = timeout
  induction timeout with
  | zero =>
    unfold waitBusNotBusyI2C.go
    simp only [performs_readRegister_bind]
    refine ⟨by simp [RoutineOp], fun status => ?_⟩
    split <;> simp
  | succ timeout ih =>
    unfold waitBusNotBusyI2C.go
    simp only [performs_readRegister_bind]
    refine ⟨by simp [RoutineOp], fun status => ?_⟩
    split
    . apply ih
    . simp

theorem performs_initialiseBus : initialiseBus.Performs CallerOp := by
  unfold initialiseBus
  apply Prog.performs_bind (performs_of_routine (performs_toggleBusState _))
  intro ret
  split
  . simp
  . have hrest : ∀ d : BusDevice, (initialiseBus.writeSdaHold d).Performs CallerOp := by
      intro d
      unfold initialiseBus.writeSdaHold
      split <;> simp [CallerOp]
    simp only [performs_device_bind, performs_writeRegister_bind]
    refine ⟨trivial, fun d => ?_⟩
    refine ⟨by simp [CallerOp], by simp [CallerOp], by simp [CallerOp], by simp [CallerOp], ?_⟩
    apply Prog.performs_bind (hrest d)
    intro _
    simp only [performs_writeRegister_bind]
    refine ⟨by simp [CallerOp], by simp [CallerOp], by simp [CallerOp], ?_⟩
    apply performs_pure

theorem performs_toggleInterrupts (enabled : VoodooI2CState) :
    (toggleInterrupts enabled).Performs RoutineOp := by
  unfold toggleInterrupts
  split <;> simp [RoutineOp]

theorem performs_writeConfiguration (orig i2cConfiguration : Word) :
    (requestTransferI2C.writeConfiguration orig i2cConfiguration).Performs CallerOp := by
  unfold requestTransferI2C.writeConfiguration
  split
  . apply Prog.performs_perform
    simp [CallerOp]
  . simp

theorem performs_requestTransferI2C : requestTransferI2C.Performs CallerOp := by
  unfold requestTransferI2C
  simp only [performs_device_bind]
  refine ⟨trivial, fun d => ?_⟩
  apply Prog.performs_bind
  . unfold requestTransferI2C.disable
    split
    . apply performs_initialiseBus
    . apply performs_of_routine (performs_toggleBusState _)
  . intro _
    simp only [performs_readRegister_bind, performs_device_bind, performs_message_bind]
    refine ⟨by simp [CallerOp], fun orig => ⟨trivial, fun d => ⟨trivial, fun m => ?_⟩⟩⟩
    apply Prog.performs_bind (performs_writeConfiguration _ _)
    intro _
    simp only [performs_device_bind, performs_message_bind, performs_writeRegister_bind]
    refine ⟨trivial, fun d => ⟨trivial, fun m => ⟨by simp [CallerOp], ?_⟩⟩⟩
    apply Prog.performs_bind (performs_of_routine (performs_toggleInterrupts _))
    intro _
    apply Prog.performs_bind (performs_of_routine (performs_toggleBusState _))
    intro _
    simp only [performs_readRegister_bind]
    refine ⟨by simp [CallerOp], fun _ => ?_⟩
    apply performs_of_routine (performs_toggleInterrupts _)

theorem performs_result : prepareTransferI2C.result.Performs RoutineOp := by
  unfold prepareTransferI2C.result
  simp only [performs_device_bind]
  refine ⟨trivial, fun d => ?_⟩
  split
  . simp
  . simp only [performs_device_bind]
    refine ⟨trivial, fun d => ?_⟩
    split
    . simp
    . simp only [performs_device_bind]
      refine ⟨trivial, fun d => ?_⟩
      split <;> simp

theorem performs_prepareTransferI2C (messages : Pointer) (number : Nat) :
    (prepareTransferI2C messages number).Performs CallerOp := by
  unfold prepareTransferI2C
  simp only [performs_reach_bind]
  refine ⟨trivial, ?_⟩
  apply Prog.performs_bind
  . unfold prepareTransferI2C.go
    simp only [performs_device_bind]
    refine ⟨trivial, fun d => ?_⟩
    split
    . simp
    . apply Prog.performs_bind (performs_of_routine performs_waitBusNotBusyI2C)
      intro ret
      split
      . simp
      . simp only [performs_update_bind]
        refine ⟨trivial, trivial, trivial, trivial, trivial, trivial, trivial, trivial, trivial, ?_⟩
        apply Prog.performs_bind performs_requestTransferI2C
        intro _
        apply Prog.performs_bind
        . exact ⟨trivial, fun _ => ⟨trivial, fun _ => trivial⟩⟩
        intro sleep
        split
        . apply Prog.performs_bind performs_initialiseBus
          intro _
          simp
        . apply Prog.performs_bind (performs_of_routine (performs_toggleBusState _))
          intro _
          apply performs_of_routine performs_result
  . intro ret
    exact ⟨trivial, fun _ => trivial⟩

theorem performs_transferI2C (messages : Pointer) (number : Nat) :
    (transferI2C messages number).Performs CallerOp := by
  unfold transferI2C transferI2CGated
  generalize 5 = tries
  induction tries with
  | zero => apply performs_prepareTransferI2C
  | succ tries ih =>
    unfold transferI2CGated.go
    apply Prog.performs_bind (performs_prepareTransferI2C _ _)
    intro ret
    split
    . simp
    . apply ih

theorem performs_startI2CInterrupt : startI2CInterrupt.Performs RoutineOp := by
  unfold startI2CInterrupt
  simp only [performs_device_bind]
  refine ⟨trivial, fun d => ?_⟩
  split
  . simp
  . apply Prog.performs_bind (Prog.performs_perform (by trivial))
    intro ret
    split
    . exact ⟨trivial, fun _ => ⟨trivial, fun _ => trivial⟩⟩
    . simp

theorem performs_stopI2CInterrupt : stopI2CInterrupt.Performs RoutineOp := by
  unfold stopI2CInterrupt
  simp only [performs_device_bind]
  refine ⟨trivial, fun d => ?_⟩
  split
  . exact ⟨trivial, fun _ => ⟨trivial, fun _ => ⟨trivial, fun _ => trivial⟩⟩⟩
  . simp

theorem performs_powerOff : setPowerState.powerOff.Performs RoutineOp := by
  unfold setPowerState.powerOff
  simp only [performs_update_bind]
  refine ⟨trivial, ?_⟩
  apply Prog.performs_bind (performs_toggleBusState _)
  intro _
  apply performs_stopI2CInterrupt

theorem performs_setPowerState (whichState : Nat) (forThis : Bool) :
    (setPowerState whichState forThis).Performs CallerOp := by
  unfold setPowerState
  split
  . simp
  . apply Prog.performs_bind
    . unfold setPowerState.change
      simp only [performs_device_bind]
      refine ⟨trivial, fun d => ?_⟩
      split
      . split
        . apply performs_of_routine performs_powerOff
        . simp
      . split
        . unfold setPowerState.powerOn
          apply Prog.performs_bind (performs_of_routine (performs_toggleBusState _))
          intro _
          apply Prog.performs_bind performs_initialiseBus
          intro _
          apply Prog.performs_bind (performs_of_routine (performs_toggleInterrupts _))
          intro _
          simp only [performs_update_bind]
          refine ⟨trivial, ?_⟩
          apply Prog.performs_bind (performs_of_routine performs_startI2CInterrupt)
          intro _
          simp
        . simp
    . intro _
      simp

end VoodooI2C
