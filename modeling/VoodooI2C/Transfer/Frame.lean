import VoodooI2C.Transfer.Receive
import VoodooI2C.Transfer.Send
import VoodooI2C.Driver.Lemmas.Main

/-!
This module contains what `handleInterrupt` cannot change, whatever state it is called in.
-/

namespace VoodooI2C

open Interaction

def BusDevice.fixed (d : BusDevice) : BusDevice :=
  { d with
    abortSource := 0
    commandError := 0
    messageError := 0
    messageReadIndex := 0
    messageWriteIndex := 0
    receiveBufferLength := 0
    receiveBuffer := 0
    receiveOutstanding := 0
    status := 0
    transactionBufferLength := 0
    transactionBuffer := 0 }

def HandlerOp (op : Op) : Prop :=
  match op with
  | .writeRegister _ reg => reg = .dataCmd ∨ reg = .intrMask
  | .update f => ∀ d, (f d).fixed = d.fixed
  | .readRegister reg => reg ≠ .enableStatus
  | .device | .message _ _ | .load _ | .store _ _ | .commandWakeup
  | .disableInterrupt | .enableInterrupt | .reach .readFromBus | .reach .transferMessageToBus =>
    True
  | _ => False

theorem QuietOp.handlerOp {op : Op} (h : QuietOp op) : HandlerOp op := by
  cases op with
  | readRegister reg => apply h.2.1
  | device | disableInterrupt | enableInterrupt => trivial
  | _ => contradiction

theorem ClearOp.handlerOp {op : Op} (h : ClearOp op) : HandlerOp op := by
  rcases h with h | ⟨a, rfl⟩
  . apply h.handlerOp
  . intro d
    rfl

theorem ReadFromBusOp.handlerOp {op : Op} (h : ReadFromBusOp op) : HandlerOp op := by
  cases op with
  | update f =>
    intro d
    rcases h d with ⟨o, st, l, b, i, heq, _⟩
    rw [heq]
    rfl
  | readRegister reg => rcases h with rfl | rfl <;> simp [HandlerOp]
  | device | message _ _ | store _ _ => trivial
  | reach point =>
    cases point with
    | readFromBus => trivial
    | _ => contradiction
  | _ => contradiction

theorem TransferMessageToBusOp.handlerOp {op : Op} (h : TransferMessageToBusOp op) :
    HandlerOp op := by
  cases op with
  | update f =>
    intro d
    rcases h d with ⟨o, st, l, b, i, e, heq, _⟩
    rw [heq]
    rfl
  | writeRegister v reg => apply h
  | readRegister reg => rcases h with rfl | rfl <;> simp [HandlerOp]
  | device | message _ _ | load _ => trivial
  | reach point =>
    cases point with
    | transferMessageToBus => trivial
    | _ => contradiction
  | _ => contradiction

/--
The part of `serviceInterrupt` after `IC_INTR_STAT` was read.
-/
def service (status : Word) : Driver Unit := do
  readClearInterruptBits.clear status
  if status &&& intrTxAbrt ≠ 0 then
    serviceInterrupt.abort
    serviceInterrupt.wakeup status
  else
    serviceInterrupt.receive status
    serviceInterrupt.send status
    serviceInterrupt.wakeup status

theorem serviceInterrupt_eq : serviceInterrupt = readRegister .intrStat >>= service := by
  unfold serviceInterrupt readClearInterruptBits service
  simp only [bind_assoc, pure_bind]

theorem performs_service {P : Op → Prop} (status : Word)
    (hP : ∀ op, HandlerOp op → (∀ v, op ≠ .writeRegister v .dataCmd) → P op)
    (hsend : (serviceInterrupt.send status).Performs P) : (service status).Performs P := by
  have hwakeup : (serviceInterrupt.wakeup status).Performs P := by
    unfold serviceInterrupt.wakeup
    simp only [performs_device_bind]
    refine ⟨hP _ trivial (by simp), fun d => ?_⟩
    split
    . exact Prog.performs_perform (hP .commandWakeup trivial (by simp))
    . split
      . simp only [performs_readRegister_bind, performs_writeRegister_bind]
        refine ⟨hP _ (by simp [HandlerOp]) (by simp), fun _ => ⟨hP _ (.inr rfl) (by simp), ?_⟩⟩
        exact Prog.performs_perform (hP (.writeRegister _ .intrMask) (.inr rfl) (by simp))
      . simp
  unfold service
  apply Prog.performs_bind
  . apply Prog.performs_mono (performs_clear status)
    intro op h
    apply hP op h.handlerOp
    rintro v rfl
    rcases h with h | ⟨a, h⟩ <;> contradiction
  . intro _
    split
    . apply Prog.performs_bind
      . simp only [serviceInterrupt.abort, performs_update_bind]
        refine ⟨hP _ (fun _ => rfl) (by simp), hP _ (fun _ => rfl) (by simp),
          hP _ (fun _ => rfl) (by simp), ?_⟩
        exact Prog.performs_perform (hP (.writeRegister _ .intrMask) (.inr rfl) (by simp))
      . intro _
        apply hwakeup
    . apply Prog.performs_bind
      . unfold serviceInterrupt.receive
        split
        . apply Prog.performs_mono performs_readFromBus
          intro op h
          apply hP op h.handlerOp
          rintro v rfl
          contradiction
        . simp
      . intro _
        apply Prog.performs_bind hsend
        intro _
        apply hwakeup

theorem performs_service_handlerOp (status : Word) : (service status).Performs HandlerOp := by
  apply performs_service status fun _ h _ => h
  unfold serviceInterrupt.send
  split
  . apply Prog.performs_mono performs_transferMessageToBus
    intro op h
    apply h.handlerOp
  . apply performs_pure

theorem performs_serviceInterrupt : serviceInterrupt.Performs HandlerOp := by
  rw [serviceInterrupt_eq, performs_readRegister_bind]
  exact ⟨by simp [HandlerOp], performs_service_handlerOp⟩

theorem performs_handleInterrupt : handleInterrupt.Performs HandlerOp := by
  unfold handleInterrupt
  apply Prog.performs_bind
  . simp [HandlerOp]
  . intro _
    apply Prog.performs_bind
    . unfold handleInterrupt.body
      simp only [performs_device_bind]
      refine ⟨trivial, fun d => ?_⟩
      split
      . simp only [performs_readRegister_bind]
        refine ⟨by simp [HandlerOp], fun enabled => ⟨by simp [HandlerOp], fun status => ?_⟩⟩
        split
        . apply performs_serviceInterrupt
        . simp
      . simp
    . intro _
      simp [HandlerOp]

variable {H : Hardware} {A : State H → Prop}

theorem stable_of_handlerOp (hA : (system H).Stable A)
    (hnext : ∀ op s r, HandlerOp op → A s → State.admits op s r → A (State.next op s r)) :
    (interrupted H).Stable A := by
  apply hA.interrupted
  intro s s' h hexec
  apply hexec.wp (Q := fun _ => A)
  apply wp_performs (G := fun _ _ => True) performs_handleInterrupt hA _ hnext h
  intro _ _ _ _
  trivial

theorem stable_running : (interrupted H).Stable fun s => s.sleeper = .running := by
  apply stable_of_handlerOp
  . rintro s _ h ⟨hw, _, rfl⟩
    apply h
  . intro op s r hop h _
    cases op with
    | commandWakeup => simp [State.next, h]
    | reach point => cases point <;> apply h
    | enterSleep | leaveSleep | beginTransfer _ _ | endTransfer => contradiction
    | _ => apply h

theorem stable_sleeping : (interrupted H).Stable fun s => s.sleeper ≠ .running := by
  apply stable_of_handlerOp
  . rintro s _ h ⟨hw, _, rfl⟩
    apply h
  . intro op s r hop h _
    cases op with
    | commandWakeup =>
      simp only [State.next]
      split
      . simp
      . apply h
    | reach point => cases point <;> apply h
    | enterSleep | leaveSleep | beginTransfer _ _ | endTransfer => contradiction
    | _ => apply h

theorem wp_fixed {α : Type} {q : Driver α} {d : BusDevice} {s : State H}
    (h : s.device.fixed = d.fixed) (hq : q.Performs HandlerOp) :
    wp (system H) (fun _ _ => True) q (fun _ s' => s'.device.fixed = d.fixed) s := by
  apply wp_performs hq
  . rintro s _ h ⟨hw, _, rfl⟩
    apply h
  . intro _ _ _ _
    trivial
  . intro op s r hop h _
    cases op with
    | update f =>
      rw [← h]
      apply hop
    | reach point => cases point <;> apply h
    | _ => apply h
  . apply h

end VoodooI2C
