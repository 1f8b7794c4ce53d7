import VoodooI2C.Concurrency.Basic
import VoodooI2C.Interaction.Serial
import VoodooI2C.Driver.Lemmas.Caller

/-!
This module contains that all threads take their locks in the order of the levels of the locks, and
that they access the driver only while they have taken `i2c_bus_lock`.
-/

namespace VoodooI2C

namespace Concurrency

open Interaction Pool

variable {Nub α β : Type} {taken taken' : Set (Lock Nub)}

/--
The gate of a nub is taken before `i2c_bus_lock`, and that before the gate of the driver.
-/
def level (l : Lock Nub) : Fin 3 :=
  match l with
  | .nubGate _ => 0
  | .i2cBusLock => 1
  | .driverGate => 2

/-! Sleeping callers. -/

def Sleeps (p : Driver α) (asleep : Prop) : Prop :=
  match p with
  | .ret _ => ¬ asleep
  | .call .enterSleep k => ¬ asleep ∧ Sleeps (k ()) True
  | .call .leaveSleep k => asleep ∧ ∀ r, Sleeps (k r) False
  | .call _ k => ¬ asleep ∧ ∀ r, Sleeps (k r) False

def AwakeOp (op : Op) : Prop :=
  match op with
  | .enterSleep | .leaveSleep => False
  | _ => True

theorem sleeps_bind {p : Driver α} {f : α → Driver β} {asleep : Prop} (hp : Sleeps p asleep)
    (hf : ∀ a, Sleeps (f a) False) : Sleeps (p >>= f) asleep := by
  induction p generalizing asleep with
  | ret a =>
    have hasleep : asleep = False := eq_false hp
    rw [hasleep]
    apply hf
  | call op k ih =>
    cases op with
    | enterSleep => exact ⟨hp.1, ih () hp.2⟩
    | leaveSleep => exact ⟨hp.1, fun r => ih r (hp.2 r)⟩
    | _ => exact ⟨hp.1, fun r => ih r (hp.2 r)⟩

theorem sleeps_perform_bind {op : Op} {f : op.Ans → Driver α} (hop : AwakeOp op)
    (hf : ∀ r, Sleeps (f r) False) : Sleeps (Prog.perform op >>= f) False := by
  cases op with
  | enterSleep | leaveSleep => contradiction
  | _ => exact ⟨not_false, hf⟩

theorem sleeps_commandSleep : Sleeps commandSleep False :=
  ⟨not_false, trivial, fun _ => not_false⟩

theorem sleeps_of_performs {p : Driver α} (hp : p.Performs AwakeOp) : Sleeps p False := by
  induction p with
  | ret a => apply not_false
  | call op k ih =>
    cases op with
    | enterSleep | leaveSleep => exact absurd hp.1 id
    | _ => exact ⟨not_false, fun r => ih r (hp.2 r)⟩

theorem RoutineOp.awakeOp {op : Op} (h : RoutineOp op) : AwakeOp op := by
  cases op with
  | enterSleep | leaveSleep => contradiction
  | _ => trivial

theorem awakeOp_of_routine {p : Driver α} (hp : p.Performs RoutineOp) : p.Performs AwakeOp :=
  Prog.performs_mono hp fun _ h => RoutineOp.awakeOp h

theorem awakeOp_initialiseBus : initialiseBus.Performs AwakeOp := by
  unfold initialiseBus
  apply Prog.performs_bind (awakeOp_of_routine (performs_toggleBusState _))
  intro ret
  split
  . simp
  . have hrest : ∀ d : BusDevice, (initialiseBus.writeSdaHold d).Performs AwakeOp := by
      intro d
      unfold initialiseBus.writeSdaHold
      split <;> simp [AwakeOp]
    simp only [performs_device_bind, performs_writeRegister_bind]
    refine ⟨trivial, fun d => ⟨trivial, trivial, trivial, trivial, ?_⟩⟩
    apply Prog.performs_bind (hrest d)
    intro _
    exact ⟨trivial, fun _ => ⟨trivial, fun _ => ⟨trivial, fun _ => trivial⟩⟩⟩

theorem awakeOp_writeConfiguration (orig i2cConfiguration : Word) :
    (requestTransferI2C.writeConfiguration orig i2cConfiguration).Performs AwakeOp := by
  unfold requestTransferI2C.writeConfiguration
  split
  . apply Prog.performs_perform
    trivial
  . trivial

theorem awakeOp_requestTransferI2C : requestTransferI2C.Performs AwakeOp := by
  unfold requestTransferI2C
  simp only [performs_device_bind]
  refine ⟨trivial, fun d => ?_⟩
  apply Prog.performs_bind
  . unfold requestTransferI2C.disable
    split
    . apply awakeOp_initialiseBus
    . apply awakeOp_of_routine (performs_toggleBusState _)
  . intro _
    simp only [performs_readRegister_bind, performs_device_bind, performs_message_bind]
    refine ⟨trivial, fun orig => ⟨trivial, fun d => ⟨trivial, fun m => ?_⟩⟩⟩
    apply Prog.performs_bind (awakeOp_writeConfiguration _ _)
    intro _
    simp only [performs_device_bind, performs_message_bind, performs_writeRegister_bind]
    refine ⟨trivial, fun d => ⟨trivial, fun m => ⟨trivial, ?_⟩⟩⟩
    apply Prog.performs_bind (awakeOp_of_routine (performs_toggleInterrupts _))
    intro _
    apply Prog.performs_bind (awakeOp_of_routine (performs_toggleBusState _))
    intro _
    simp only [performs_readRegister_bind]
    refine ⟨trivial, fun _ => ?_⟩
    apply awakeOp_of_routine (performs_toggleInterrupts _)

theorem sleeps_prepareTransferI2C (messages : Pointer) (number : Nat) :
    Sleeps (prepareTransferI2C messages number) False := by
  have hpure : ∀ ret : IOReturn, Sleeps (pure ret) False := fun _ => not_false
  unfold prepareTransferI2C
  refine sleeps_perform_bind (by trivial) fun _ => ?_
  apply sleeps_bind
  . unfold prepareTransferI2C.go
    refine sleeps_perform_bind (by trivial) fun d => ?_
    split
    . apply hpure
    . apply sleeps_bind (sleeps_of_performs (awakeOp_of_routine performs_waitBusNotBusyI2C))
      intro ret
      split
      . apply hpure
      . iterate 9
          refine sleeps_perform_bind (by trivial) fun _ => ?_
        apply sleeps_bind (sleeps_of_performs awakeOp_requestTransferI2C)
        intro _
        apply sleeps_bind sleeps_commandSleep
        intro sleep
        split
        . apply sleeps_bind (sleeps_of_performs awakeOp_initialiseBus)
          intro _
          apply hpure
        . apply sleeps_bind (sleeps_of_performs (awakeOp_of_routine (performs_toggleBusState _)))
          intro _
          apply sleeps_of_performs (awakeOp_of_routine performs_result)
  . intro ret
    refine sleeps_perform_bind (by trivial) fun _ => ?_
    apply hpure

theorem sleeps_transferI2CGated (messages : Pointer) (number : Nat) :
    Sleeps (transferI2CGated messages number) False := by
  unfold transferI2CGated
  generalize 5 = tries
  induction tries with
  | zero => apply sleeps_prepareTransferI2C
  | succ tries ih =>
    unfold transferI2CGated.go
    apply sleeps_bind (sleeps_prepareTransferI2C messages number)
    intro ret
    split
    . apply not_false
    . apply ih

theorem awakeOp_change (whichState : Nat) :
    (setPowerState.change whichState).Performs AwakeOp := by
  unfold setPowerState.change
  rw [performs_device_bind]
  refine ⟨trivial, fun d => ?_⟩
  split
  . split
    . apply awakeOp_of_routine performs_powerOff
    . apply performs_pure
  . split
    . unfold setPowerState.powerOn
      apply Prog.performs_bind (awakeOp_of_routine (performs_toggleBusState _))
      intro _
      apply Prog.performs_bind awakeOp_initialiseBus
      intro _
      apply Prog.performs_bind (awakeOp_of_routine (performs_toggleInterrupts _))
      intro _
      rw [performs_update_bind]
      refine ⟨trivial, ?_⟩
      apply Prog.performs_bind (awakeOp_of_routine performs_startI2CInterrupt)
      intro _
      apply performs_pure
    . apply performs_pure

/-! The order of the locks. -/

theorem ordered_gated_bind_of_sleeps {p : Driver α} {f : α → Client Nub β} {asleep : Prop}
    (hgate : .driverGate ∈ taken)
    (hbelow : ∀ l ∈ taken \ {.driverGate}, level l < level (.driverGate : Lock Nub))
    (hp : Sleeps p asleep) (hf : ∀ a, Ordered level (f a) taken)
    (htaken : taken' = { l ∈ taken | asleep → l ≠ .driverGate }) :
    Ordered level (gated p >>= f) taken' := by
  have hawake : ∀ {P : Prop}, ¬ P → { l ∈ taken | P → l ≠ .driverGate } = taken := by
    intro P hP
    ext l
    simp [hP]
  induction p generalizing asleep taken' with
  | ret a =>
    rw [htaken, hawake hp]
    apply hf
  | call op k ih =>
    cases op with
    | enterSleep =>
      rw [htaken, hawake hp.1]
      intro _
      refine ⟨hgate, ?_⟩
      apply ih () hp.2
      ext l
      simp
    | leaveSleep =>
      have hdiff : taken' = taken \ {.driverGate} := by
        rw [htaken]
        ext l
        simp [hp.1]
      rw [hdiff]
      refine ⟨hbelow, ?_⟩
      rw [Set.insert_sdiff_singleton, Set.insert_eq_of_mem hgate]
      intro r
      apply ih r (hp.2 r) (hawake not_false).symm
    | _ =>
      rw [htaken, hawake hp.1]
      intro r
      apply ih r (hp.2 r) (hawake not_false).symm

theorem ordered_gated_bind {p : Driver α} {f : α → Client Nub β} (hgate : .driverGate ∈ taken)
    (hbelow : ∀ l ∈ taken \ {.driverGate}, level l < level (.driverGate : Lock Nub))
    (hp : Sleeps p False) (hf : ∀ a, Ordered level (f a) taken) :
    Ordered level (gated p >>= f) taken := by
  apply ordered_gated_bind_of_sleeps hgate hbelow hp hf
  ext l
  simp

theorem ordered_transferI2C_bind {messages : Pointer} {list : List BusMessage}
    {f : IOReturn → Client Nub β}
    (hbelow : ∀ l ∈ taken, level l < level (.i2cBusLock : Lock Nub))
    (hf : ∀ ret, Ordered level (f ret) taken) :
    Ordered level (transferI2C messages list >>= f) taken := by
  have hbus : .i2cBusLock ∉ taken := fun h => absurd (hbelow _ h) (lt_irrefl _)
  have hgate : .driverGate ∉ insert (.i2cBusLock : Lock Nub) taken := by
    intro h
    rcases Set.mem_insert_iff.mp h with heq | h
    . contradiction
    . exact absurd (hbelow _ h) (not_lt_of_gt (Fin.mk_lt_mk.mpr (by decide)))
  have hlevel : ∀ l ∈ insert (.i2cBusLock : Lock Nub) taken,
      level l < level (.driverGate : Lock Nub) := by
    intro l hl
    rcases Set.mem_insert_iff.mp hl with rfl | hl
    . apply Fin.mk_lt_mk.mpr
      decide
    . apply (hbelow l hl).trans
      apply Fin.mk_lt_mk.mpr
      decide
  unfold transferI2C runAction
  simp only [bind_assoc]
  refine ⟨hbelow, fun _ => ⟨hlevel, ?_⟩⟩
  apply ordered_gated_bind (Set.mem_insert _ _) _ (sleeps_transferI2CGated _ _)
  . intro ret
    refine ⟨Set.mem_insert _ _, ?_⟩
    rw [Set.insert_sdiff_self_of_notMem hgate]
    intro _
    refine ⟨Set.mem_insert _ _, ?_⟩
    rw [Set.insert_sdiff_self_of_notMem hbus]
    apply hf
  . rw [Set.insert_sdiff_self_of_notMem hgate]
    apply hlevel

theorem ordered_gated_bind_of_performs {p : Driver α} {f : α → Client Nub β}
    (hp : p.Performs AwakeOp) (hf : ∀ a, Ordered level (f a) taken) :
    Ordered level (gated p >>= f) taken := by
  induction p with
  | ret a => apply hf
  | call op k ih =>
    cases op with
    | enterSleep | leaveSleep => exact absurd hp.1 id
    | _ => exact fun r => ih r (hp.2 r)

theorem ordered_setPowerState_bind {whichState : Nat} {forThis : Bool}
    {f : IOReturn → Client Nub β} (hf : ∀ ret, Ordered level (f ret) ∅) :
    Ordered level (setPowerState whichState forThis >>= f) ∅ := by
  unfold setPowerState
  split
  . apply hf
  . simp only [bind_assoc]
    refine ⟨by simp, ?_⟩
    apply ordered_gated_bind_of_performs (awakeOp_change whichState)
    intro _
    refine ⟨Set.mem_insert _ _, ?_⟩
    rw [Set.insert_sdiff_self_of_notMem (Set.notMem_empty _)]
    apply hf

section Nub

variable {n : Nub} {messages : Pointer} {list : List BusMessage}

theorem ordered_transfer_in_gate {f : IOReturn → Client Nub β}
    (hf : ∀ ret, Ordered level (f ret) ∅) :
    Ordered level
      (transferI2C messages list >>= fun ret => Thread.release (.nubGate n) >>= fun _ => f ret)
      (insert (.nubGate n) ∅) := by
  apply ordered_transferI2C_bind
  . intro l hl
    rw [Set.mem_insert_iff, Set.mem_empty_iff_false, or_false] at hl
    subst hl
    apply Fin.mk_lt_mk.mpr
    decide
  . intro ret
    refine ⟨Set.mem_insert _ _, ?_⟩
    rw [Set.insert_sdiff_self_of_notMem (Set.notMem_empty _)]
    apply hf

theorem ordered_runAction_bind {f : IOReturn → Client Nub β}
    (hf : ∀ ret, Ordered level (f ret) ∅) :
    Ordered level (runAction (.nubGate n) (transferI2C messages list) >>= f) ∅ := by
  unfold runAction
  simp only [bind_assoc]
  exact ⟨by simp, ordered_transfer_in_gate hf⟩

theorem ordered_attemptAction_bind {f : Option IOReturn → Client Nub β}
    (hf : ∀ ret, Ordered level (f ret) ∅) :
    Ordered level (attemptAction (.nubGate n) (transferI2C messages list) >>= f) ∅ := by
  unfold attemptAction
  rw [bind_assoc, ordered_tryAcquire_bind]
  constructor
  . simp only [if_pos, bind_assoc, pure_bind]
    exact ordered_transfer_in_gate fun ret => hf (some ret)
  . apply hf

end Nub

variable (nubs : Nub → DeviceNub)

theorem ordered_run_bind (request : BusRequest Nub) {f : Unit → Client Nub β}
    (hf : Ordered level (f ()) ∅) : Ordered level (request.run nubs >>= f) ∅ := by
  cases request with
  | nub n msgs request =>
    cases request with
    | readI2C values length =>
      unfold BusRequest.run readI2C
      simp only [bind_assoc]
      exact ordered_attemptAction_bind fun _ => hf
    | writeI2C values length =>
      unfold BusRequest.run writeI2C
      simp only [bind_assoc]
      exact ordered_runAction_bind fun _ => hf
    | writeReadI2C writeBuffer writeLength readBuffer readLength =>
      unfold BusRequest.run writeReadI2C
      simp only [bind_assoc]
      exact ordered_runAction_bind fun _ => hf
  | transferI2C messages list =>
    unfold BusRequest.run
    simp only [bind_assoc]
    exact ordered_transferI2C_bind (by simp) fun _ => hf
  | setPowerState whichState forThis =>
    unfold BusRequest.run
    simp only [bind_assoc]
    exact ordered_setPowerState_bind fun _ => hf

theorem ordered_thread (requests : List (BusRequest Nub)) :
    Ordered level (thread nubs requests) ∅ := by
  induction requests with
  | nil => rfl
  | cons request requests ih =>
    unfold thread
    apply ordered_run_bind nubs request ih

/-! What happens while a thread has taken `i2c_bus_lock`. -/

section Guarded

variable [DecidableEq Nub] {calls : List Call}

theorem untilRelease_gated_bind (p : Driver α) (f : α → Client Nub β) :
    untilRelease .i2cBusLock (gated p >>= f) = p >>= fun a => untilRelease .i2cBusLock (f a) := by
  induction p with
  | ret a => rfl
  | call op k ih =>
    rw [Prog.call_bind]
    cases op with
    | enterSleep =>
      have hih : (fun r => untilRelease .i2cBusLock (gated (k r) >>= f)) = fun r => k r >>= _ :=
        funext ih
      rw [← hih]
      rfl
    | _ =>
      have hih : (fun r => untilRelease .i2cBusLock (gated (k r) >>= f)) = fun r => k r >>= _ :=
        funext ih
      rw [← hih]
      rfl

theorem guarded_gated_bind {p : Driver α} {f : α → Client Nub β}
    (hf : ∀ a, Guarded .i2cBusLock Call.run calls (f a) True) :
    Guarded .i2cBusLock Call.run calls (gated p >>= f) True := by
  induction p with
  | ret a => apply hf
  | call op k ih =>
    cases op with
    | enterSleep =>
      refine ⟨trivial, fun _ => ?_⟩
      apply (guarded_release_bind_ne (by simp)).mpr
      apply ih
    | leaveSleep =>
      apply (guarded_acquire_bind_ne (by simp)).mpr
      exact ⟨trivial, ih⟩
    | _ => exact ⟨trivial, ih⟩

theorem guarded_transferI2C_bind {messages : Pointer} {list : List BusMessage}
    {f : IOReturn → Client Nub β} (hf : ∀ ret, Guarded .i2cBusLock Call.run calls (f ret) False) :
    Guarded .i2cBusLock Call.run (.transferI2C messages list :: calls)
      (transferI2C messages list >>= f) False := by
  unfold transferI2C runAction
  simp only [bind_assoc, pure_bind]
  rw [guarded_acquire_bind]
  refine ⟨not_false, .transferI2C messages list, calls, List.Sublist.refl _, ?_, ?_⟩
  . simp only [untilRelease_perform_bind, untilRelease_acquire_bind, untilRelease_gated_bind,
      untilRelease_release_bind, reduceCtorEq, if_false, if_true]
    rfl
  . rw [guarded_perform_bind]
    refine ⟨trivial, fun _ => ?_⟩
    rw [guarded_acquire_bind_ne (by simp)]
    apply guarded_gated_bind
    intro ret
    rw [guarded_release_bind_ne (by simp), guarded_perform_bind]
    refine ⟨trivial, fun _ => ?_⟩
    rw [guarded_release_bind]
    exact ⟨trivial, hf ret⟩

theorem guarded_setPowerState_bind {whichState : Nat} {forThis : Bool}
    {f : IOReturn → Client Nub β} (hf : ∀ ret, Guarded .i2cBusLock Call.run calls (f ret) False) :
    Guarded .i2cBusLock Call.run (.setPowerState whichState forThis :: calls)
      (setPowerState whichState forThis >>= f) False := by
  unfold setPowerState
  split
  . apply guarded_mono (hf _)
    apply List.sublist_cons_self
  . next hthis =>
    simp only [bind_assoc, pure_bind]
    rw [guarded_acquire_bind]
    refine ⟨not_false, .setPowerState whichState forThis, calls, List.Sublist.refl _, ?_, ?_⟩
    . simp only [untilRelease_gated_bind, untilRelease_release_bind, if_true]
      unfold Call.run
      dsimp only
      unfold VoodooI2C.setPowerState
      rw [if_neg hthis, bind_assoc]
      rfl
    . apply guarded_gated_bind
      intro _
      rw [guarded_release_bind]
      exact ⟨trivial, hf _⟩

section Nub

variable {n : Nub} {messages : Pointer} {list : List BusMessage}

theorem guarded_transfer_in_gate {f : IOReturn → Client Nub β}
    (hf : ∀ ret, Guarded .i2cBusLock Call.run calls (f ret) False) :
    Guarded .i2cBusLock Call.run (.transferI2C messages list :: calls)
      (transferI2C messages list >>= fun ret => Thread.release (.nubGate n) >>= fun _ => f ret)
      False := by
  apply guarded_transferI2C_bind
  intro ret
  rw [guarded_release_bind_ne (by simp)]
  apply hf

theorem guarded_runAction_bind {f : IOReturn → Client Nub β}
    (hf : ∀ ret, Guarded .i2cBusLock Call.run calls (f ret) False) :
    Guarded .i2cBusLock Call.run (.transferI2C messages list :: calls)
      (runAction (.nubGate n) (transferI2C messages list) >>= f) False := by
  unfold runAction
  simp only [bind_assoc, pure_bind]
  rw [guarded_acquire_bind_ne (by simp)]
  apply guarded_transfer_in_gate hf

theorem guarded_attemptAction_bind {f : Option IOReturn → Client Nub β}
    (hf : ∀ ret, Guarded .i2cBusLock Call.run calls (f ret) False) :
    Guarded .i2cBusLock Call.run (.transferI2C messages list :: calls)
      (attemptAction (.nubGate n) (transferI2C messages list) >>= f) False := by
  unfold attemptAction
  rw [bind_assoc, guarded_tryAcquire_bind]
  refine ⟨by simp, not_false, fun b => ?_⟩
  cases b with
  | true =>
    simp only [if_pos, bind_assoc, pure_bind]
    exact guarded_transfer_in_gate fun ret => hf (some ret)
  | false =>
    apply guarded_mono (hf none)
    apply List.sublist_cons_self

end Nub

variable (nubs : Nub → DeviceNub)

theorem guarded_run_bind (request : BusRequest Nub) {f : Unit → Client Nub β}
    (hf : Guarded .i2cBusLock Call.run calls (f ()) False) :
    Guarded .i2cBusLock Call.run (request.call nubs :: calls) (request.run nubs >>= f) False := by
  cases request with
  | nub n msgs request =>
    cases request with
    | readI2C values length =>
      unfold BusRequest.run readI2C
      simp only [bind_assoc]
      exact guarded_attemptAction_bind fun _ => hf
    | writeI2C values length =>
      unfold BusRequest.run writeI2C
      simp only [bind_assoc]
      exact guarded_runAction_bind fun _ => hf
    | writeReadI2C writeBuffer writeLength readBuffer readLength =>
      unfold BusRequest.run writeReadI2C
      simp only [bind_assoc]
      exact guarded_runAction_bind fun _ => hf
  | transferI2C messages list =>
    unfold BusRequest.run
    simp only [bind_assoc]
    exact guarded_transferI2C_bind fun _ => hf
  | setPowerState whichState forThis =>
    unfold BusRequest.run
    simp only [bind_assoc]
    exact guarded_setPowerState_bind fun _ => hf

theorem guarded_thread (requests : List (BusRequest Nub)) :
    Guarded .i2cBusLock Call.run (requests.map fun request => request.call nubs)
      (thread nubs requests) False := by
  induction requests with
  | nil => apply not_false
  | cons request requests ih =>
    unfold thread
    apply guarded_run_bind nubs request ih

end Guarded

end Concurrency

end VoodooI2C
