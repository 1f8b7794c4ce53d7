import VoodooI2C.Driver.Lemmas.Caller
import VoodooI2C.Isolation.Run

/-!
This module contains what calls do not change: a transfer leaves everything alone that outlasts it, and
no call changes the part of `bus_device` that is set up before `start` programs the controller.
-/

namespace VoodooI2C

open Interaction

variable {α : Type}

def BusDevice.constants (d : BusDevice) : BusConfig × Word × Word × Word × Bool :=
  (d.acpiConfig, d.busConfig, d.transactionFifoDepth, d.receiveFifoDepth, d.accessIntrMaskWorkaround)

def SteadyOp (op : Op) : Prop :=
  match op with
  | .update f => ∀ d, (f d).constants = d.constants
  | _ => True

def BusDevice.lasting (d : BusDevice) : (BusConfig × Word × Word × Word × Bool) × Bool × Bool :=
  (d.constants, d.awake, d.isInterruptRegistered)

def TransferOp (op : Op) : Prop :=
  match op with
  | .update f => ∀ d, (f d).lasting = d.lasting
  | .registerInterrupt | .unregisterInterrupt => False
  | _ => True

theorem TransferOp.steadyOp {op : Op} (h : TransferOp op) : SteadyOp op := by
  cases op with
  | update f => exact fun d => congrArg Prod.fst (h d)
  | _ => trivial

theorem steady_of_transferOp {q : Driver α} (hq : q.Performs TransferOp) : q.Performs SteadyOp :=
  Prog.performs_mono hq fun _ h => TransferOp.steadyOp h

def RequestOp (op : Op) : Prop :=
  match op with
  | .readRegister _ | .writeRegister _ _ | .device | .message _ _ => True
  | _ => False

theorem RequestOp.transferOp {op : Op} (h : RequestOp op) : TransferOp op := by
  cases op with
  | update f | registerInterrupt | unregisterInterrupt => contradiction
  | _ => trivial

theorem transferOp_of_requestOp {q : Driver α} (hq : q.Performs RequestOp) :
    q.Performs TransferOp :=
  Prog.performs_mono hq fun _ h => RequestOp.transferOp h

theorem requestOp_of_registerOp {enabled : VoodooI2CState} {q : Driver α}
    (hq : q.Performs (Isolation.RegisterOp enabled)) : q.Performs RequestOp := by
  apply Prog.performs_mono hq
  intro op h
  cases op with
  | readRegister _ | writeRegister _ _ => trivial
  | _ => contradiction

theorem requestOp_toggleBusState (enabled : VoodooI2CState) :
    (toggleBusState enabled).Performs RequestOp :=
  requestOp_of_registerOp (Isolation.registerOp_toggleBusState enabled)

theorem requestOp_toggleInterrupts (enabled : VoodooI2CState) :
    (toggleInterrupts enabled).Performs RequestOp :=
  requestOp_of_registerOp (Isolation.registerOp_toggleInterrupts enabled)

theorem requestOp_initialiseBus : initialiseBus.Performs RequestOp := by
  apply Prog.performs_mono Isolation.busOp_initialiseBus
  rintro op (h | rfl)
  . cases op with
    | readRegister _ | writeRegister _ _ => trivial
    | _ => contradiction
  . trivial

theorem requestOp_requestTransferI2C : requestTransferI2C.Performs RequestOp := by
  unfold requestTransferI2C
  simp only [performs_device_bind]
  refine ⟨trivial, fun d => ?_⟩
  apply Prog.performs_bind
  . unfold requestTransferI2C.disable
    split
    . apply requestOp_initialiseBus
    . apply requestOp_toggleBusState .off
  . intro _
    simp only [performs_readRegister_bind, performs_device_bind, performs_message_bind]
    refine ⟨trivial, fun orig => ⟨trivial, fun d => ⟨trivial, fun m => ?_⟩⟩⟩
    apply Prog.performs_bind (requestOp_of_registerOp (Isolation.registerOp_writeConfiguration _ _))
    intro _
    simp only [performs_device_bind, performs_message_bind, performs_writeRegister_bind]
    refine ⟨trivial, fun d => ⟨trivial, fun m => ⟨trivial, ?_⟩⟩⟩
    apply Prog.performs_bind (requestOp_toggleInterrupts .off)
    intro _
    apply Prog.performs_bind (requestOp_toggleBusState .on)
    intro _
    simp only [performs_readRegister_bind]
    refine ⟨trivial, fun _ => ?_⟩
    apply requestOp_toggleInterrupts .on

theorem transferOp_toggleBusState (enabled : VoodooI2CState) :
    (toggleBusState enabled).Performs TransferOp :=
  transferOp_of_requestOp (requestOp_toggleBusState enabled)

theorem transferOp_toggleInterrupts (enabled : VoodooI2CState) :
    (toggleInterrupts enabled).Performs TransferOp :=
  transferOp_of_requestOp (requestOp_toggleInterrupts enabled)

theorem transferOp_initialiseBus : initialiseBus.Performs TransferOp :=
  transferOp_of_requestOp requestOp_initialiseBus

theorem transferOp_result : prepareTransferI2C.result.Performs TransferOp := by
  unfold prepareTransferI2C.result
  simp only [performs_device_bind]
  refine ⟨trivial, fun d => ?_⟩
  split
  . apply performs_pure
  . simp only [performs_device_bind]
    refine ⟨trivial, fun d => ?_⟩
    split
    . apply performs_pure
    . simp only [performs_device_bind]
      refine ⟨trivial, fun d => ?_⟩
      split <;> apply performs_pure

theorem transferOp_prepareTransferI2C (messages : Pointer) (number : Nat) :
    (prepareTransferI2C messages number).Performs TransferOp := by
  unfold prepareTransferI2C
  simp only [performs_reach_bind]
  refine ⟨trivial, ?_⟩
  apply Prog.performs_bind
  . unfold prepareTransferI2C.go
    simp only [performs_device_bind]
    refine ⟨trivial, fun d => ?_⟩
    split
    . apply performs_pure
    . have hwait := requestOp_of_registerOp Isolation.registerOp_waitBusNotBusyI2C
      apply Prog.performs_bind (transferOp_of_requestOp hwait)
      intro ret
      split
      . apply performs_pure
      . simp only [performs_update_bind]
        iterate 9 refine ⟨fun _ => rfl, ?_⟩
        apply Prog.performs_bind (transferOp_of_requestOp requestOp_requestTransferI2C)
        intro _
        apply Prog.performs_bind
        . exact ⟨trivial, fun _ => ⟨trivial, fun _ => trivial⟩⟩
        . intro sleep
          split
          . apply Prog.performs_bind transferOp_initialiseBus
            intro _
            apply performs_pure
          . apply Prog.performs_bind (transferOp_toggleBusState .off)
            intro _
            apply transferOp_result
  . intro ret
    exact ⟨trivial, fun _ => trivial⟩

theorem transferOp_transferI2C (messages : Pointer) (number : Nat) :
    (transferI2C messages number).Performs TransferOp := by
  unfold transferI2C transferI2CGated
  generalize 5 = tries
  induction tries with
  | zero => apply transferOp_prepareTransferI2C
  | succ tries ih =>
    unfold transferI2CGated.go
    apply Prog.performs_bind (transferOp_prepareTransferI2C _ _)
    intro ret
    split
    . apply performs_pure
    . apply ih

theorem steady_startI2CInterrupt : startI2CInterrupt.Performs SteadyOp := by
  unfold startI2CInterrupt
  simp only [performs_device_bind]
  refine ⟨trivial, fun d => ?_⟩
  split
  . apply performs_pure
  . apply Prog.performs_bind (Prog.performs_perform (by trivial))
    intro ret
    split
    . exact ⟨trivial, fun _ => ⟨fun _ => rfl, fun _ => trivial⟩⟩
    . apply performs_pure

theorem steady_stopI2CInterrupt : stopI2CInterrupt.Performs SteadyOp := by
  unfold stopI2CInterrupt
  simp only [performs_device_bind]
  refine ⟨trivial, fun d => ?_⟩
  split
  . exact ⟨trivial, fun _ => ⟨trivial, fun _ => ⟨fun _ => rfl, fun _ => trivial⟩⟩⟩
  . apply performs_pure

theorem steady_change (whichState : Nat) : (setPowerState.change whichState).Performs SteadyOp := by
  unfold setPowerState.change
  simp only [performs_device_bind]
  refine ⟨trivial, fun d => ?_⟩
  split
  . split
    . unfold setPowerState.powerOff
      simp only [performs_update_bind]
      refine ⟨fun _ => rfl, ?_⟩
      apply Prog.performs_bind (steady_of_transferOp (transferOp_toggleBusState .off))
      intro _
      apply steady_stopI2CInterrupt
    . apply performs_pure
  . split
    . unfold setPowerState.powerOn
      apply Prog.performs_bind (steady_of_transferOp (transferOp_toggleBusState .on))
      intro _
      apply Prog.performs_bind (steady_of_transferOp transferOp_initialiseBus)
      intro _
      apply Prog.performs_bind (steady_of_transferOp (transferOp_toggleInterrupts .off))
      intro _
      simp only [performs_update_bind]
      refine ⟨fun _ => rfl, ?_⟩
      apply Prog.performs_bind steady_startI2CInterrupt
      intro _
      apply performs_pure
    . apply performs_pure

theorem Call.steady (call : Call) : call.run.Performs SteadyOp := by
  cases call with
  | transferI2C messages list =>
    unfold Call.run
    apply Prog.performs_bind (Prog.performs_perform (by trivial))
    intro _
    apply Prog.performs_bind (steady_of_transferOp (transferOp_transferI2C _ _))
    intro _
    exact ⟨trivial, fun _ => trivial⟩
  | setPowerState whichState forThis =>
    unfold Call.run VoodooI2C.setPowerState
    apply Prog.performs_bind
    . split
      . apply performs_pure
      . apply Prog.performs_bind (steady_change whichState)
        intro _
        apply performs_pure
    . intro _
      apply performs_pure
  | losePower =>
    unfold Call.run
    simp only [performs_device_bind]
    refine ⟨trivial, fun d => ?_⟩
    split
    . exact ⟨trivial, fun _ => trivial⟩
    . apply performs_pure

section Constants

variable {H : Hardware} {s s' : State H}

theorem SteadyOp.constants {op : Op} {r : op.Ans} (hop : SteadyOp op) :
    (State.next op s r).device.constants = s.device.constants := by
  cases op with
  | update f => apply hop
  | reach point => cases point <;> rfl
  | _ => rfl

theorem HandlerOp.steadyOp {op : Op} (h : HandlerOp op) : SteadyOp op := by
  cases op with
  | update f =>
    intro d
    have hconstants : (f d).fixed.constants = d.fixed.constants := congrArg _ (h d)
    exact hconstants
  | _ => trivial

theorem stable_constants (d : BusDevice) :
    (interrupted H).Stable fun s => s.device.constants = d.constants := by
  have hstable : (system H).Stable fun s : State H => s.device.constants = d.constants := by
    rintro s _ h ⟨hw, _, rfl⟩
    apply h
  apply hstable.interrupted
  intro s s' h hexec
  have hq := Prog.performs_mono performs_handleInterrupt fun _ h => HandlerOp.steadyOp h
  refine hexec.wp (Q := fun _ (s : State H) => s.device.constants = d.constants)
    (wp_performs (G := fun _ _ => True) hq hstable (fun _ _ _ _ => trivial) ?_ h)
  intro op s r hop h _
  exact hop.constants.trans h

theorem constants_of_exec {q : Driver α} {a : α} (hq : q.Performs SteadyOp)
    (hexec : Exec (interrupted H) q s a s') : s'.device.constants = s.device.constants := by
  refine hexec.wp (Q := fun _ (s' : State H) => s'.device.constants = s.device.constants)
    (wp_performs (G := fun _ _ => True) hq (stable_constants s.device) (fun _ _ _ _ => trivial) ?_ rfl)
  intro op s r hop h _
  exact hop.constants.trans h

theorem TransferOp.lasting {op : Op} {r : op.Ans} (hop : TransferOp op) :
    (State.next op s r).device.lasting = s.device.lasting := by
  cases op with
  | update f => apply hop
  | reach point => cases point <;> rfl
  | _ => rfl

theorem HandlerOp.transferOp {op : Op} (h : HandlerOp op) : TransferOp op := by
  cases op with
  | update f =>
    intro d
    have hlasting : (f d).fixed.lasting = d.fixed.lasting := congrArg _ (h d)
    exact hlasting
  | registerInterrupt | unregisterInterrupt => contradiction
  | _ => trivial

theorem stable_lasting (d : BusDevice) :
    (interrupted H).Stable fun s => s.device.lasting = d.lasting := by
  have hstable : (system H).Stable fun s : State H => s.device.lasting = d.lasting := by
    rintro s _ h ⟨hw, _, rfl⟩
    apply h
  apply hstable.interrupted
  intro s s' h hexec
  have hq := Prog.performs_mono performs_handleInterrupt fun _ h => HandlerOp.transferOp h
  refine hexec.wp (Q := fun _ (s : State H) => s.device.lasting = d.lasting)
    (wp_performs (G := fun _ _ => True) hq hstable (fun _ _ _ _ => trivial) ?_ h)
  intro op s r hop h _
  exact hop.lasting.trans h

theorem transferI2C_lasting {p : Pointer} {number : Nat} {c : Config (system H) IOReturn}
    (hc : Reachable (system H) handleInterrupt s (transferI2C p number) c)
    (hnone : c.handler = none) : c.state.device.lasting = s.device.lasting := by
  have hp : wp (interrupted H) (fun _ (s' : State H) => s'.device.lasting = s.device.lasting)
      (transferI2C p number) (fun _ s' => s'.device.lasting = s.device.lasting) s := by
    refine wp_performs (transferOp_transferI2C p number) (stable_lasting s.device)
      (fun _ _ _ h => h) ?_ rfl
    intro op s' r hop h _
    exact hop.lasting.trans h
  have hhandler : ∀ s' : State H, s'.device.lasting = s.device.lasting →
      wp (system H) (fun _ _ => True) handleInterrupt (fun _ _ => True) s' := by
    intro s' _
    exact wp_true (wp_of_performs performs_handleInterrupt)
  exact hc.idle (J := fun s' : State H => s'.device.lasting = s.device.lasting)
    (fun _ _ h => h) (fun _ _ h => h) hhandler hp hnone

end Constants

end VoodooI2C
