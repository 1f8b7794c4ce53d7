import VoodooI2C.Configuration.Basic

/-!
This module contains what is known about the configuration registers while a transfer is in
progress.
-/

namespace VoodooI2C

open Interaction RegisterFile

variable {H : Hardware} [RegisterFile H] {G : Op → State H → Prop} {s : State H}
  {c : Register → Word → Prop} {d : BusDevice} {messages : Pointer → Nat → BusMessage}
  {m : BusMessage}

def programming (d : BusDevice) (m : BusMessage) (reg : Register) (v : Word) : Prop :=
  match reg with
  | .con => v = if m.IsTen then d.busConfig ||| con10bitaddrMaster else d.busConfig
  | .tar => v = m.address.setWidth 32 ||| if m.IsTen then tar10bitaddrMaster else 0
  | reg => configuration d reg v

structure Blocked (d : BusDevice) (messages : Pointer → Nat → BusMessage) (s : State H) : Prop where
  device : s.device = d
  message : s.memory.message = messages
  bit : d.busConfig &&& con10bitaddrMaster = 0
  messageError : d.messageError = 0
  mask : value s.hw .intrMask = 0
  known : ∀ reg, reg.Holds → programming d (messages d.messages 0) reg (value s.hw reg)

structure Programmed (s : State H) : Prop where
  bit : s.device.busConfig &&& con10bitaddrMaster = 0
  known : ∀ reg, reg.Holds →
    programming s.device (s.memory.message s.device.messages 0) reg (value s.hw reg)

def Staged (s : State H) : Prop :=
  (∃ c d messages, Kept c d messages s) ∨ (∃ d messages, Blocked d messages s) ∨ Programmed s

def StagedGuard (op : Op) (s : State H) : Prop :=
  Staged s ∧ ∀ v, op ≠ .writeRegister v .dataCmd

theorem AccessOp.ne_dataCmd {op : Op} (hop : AccessOp op) (v : Word) :
    op ≠ .writeRegister v .dataCmd := by
  rintro rfl
  exact hop.1 rfl

theorem Kept.guard (op : Op) (s : State H) (c : Register → Word → Prop) (d : BusDevice)
    (messages : Pointer → Nat → BusMessage) (hop : AccessOp op) (h : Kept c d messages s) :
    StagedGuard op s :=
  ⟨.inl ⟨c, d, messages, h⟩, hop.ne_dataCmd⟩

theorem Blocked.guard (op : Op) (s : State H) (hop : AccessOp op) (h : Blocked d messages s) :
    StagedGuard op s :=
  ⟨.inr (.inl ⟨d, messages, h⟩), hop.ne_dataCmd⟩

theorem Programmed.guard (op : Op) (s : State H) (hop : ∀ v, op ≠ .writeRegister v .dataCmd)
    (h : Programmed s) : StagedGuard op s :=
  ⟨.inr (.inr h), hop⟩

omit [RegisterFile H] in
theorem programming.configuration {reg : Register} {v : Word}
    (hbit : d.busConfig &&& con10bitaddrMaster = 0) (h : programming d m reg v) :
    configuration d reg v := by
  cases reg with
  | con =>
    unfold programming at h
    dsimp only at h
    split at h
    . unfold VoodooI2C.configuration
      dsimp only
      rw [h, or_and_not_cancel, and_not_of_and_eq_zero hbit]
    . apply configuration_con hbit h
  | tar => trivial
  | _ => apply h

namespace Blocked

theorem masked (d : BusDevice) (messages : Pointer → Nat → BusMessage) :
    Masked (H := H) (Blocked d messages) where
  step s hw h hstep :=
    { h with
      mask := by
        rw [value_step hstep (by rfl)]
        apply h.mask
      known := by
        intro reg hreg
        rw [value_step hstep hreg]
        apply h.known reg hreg }
  read s reg v h _ _ :=
    { h with
      mask := by
        rw [value_read (by rfl)]
        apply h.mask
      known := by
        intro reg' hreg'
        rw [value_read hreg']
        apply h.known reg' hreg' }
  mask s h := h.mask
  messageError s h := by
    rw [h.device]
    apply h.messageError
  write s h :=
    { h with
      mask := value_write_self (by rfl)
      known := by
        intro reg hreg
        by_cases heq : reg = .intrMask
        . rw [heq]
          trivial
        . rw [value_write_ne hreg heq]
          apply h.known reg hreg }

theorem enable (h : Blocked d messages s) :
    Blocked d messages { s with hw := H.write 1 .enable s.hw, log := s.log ++ [.write 1 .enable] } :=
  { h with
    mask := by
      rw [value_write_ne (by rfl) (by simp)]
      apply h.mask
    known := by
      intro reg hreg
      by_cases heq : reg = .enable
      . rw [heq]
        trivial
      . rw [value_write_ne hreg heq]
        apply h.known reg hreg }

theorem programmed (h : Blocked d messages s) :
    Programmed { s with
      hw := H.write intrDefaultMask .intrMask s.hw
      log := s.log ++ [.write intrDefaultMask .intrMask] } where
  bit := by
    rw [h.device]
    apply h.bit
  known := by
    intro reg hreg
    rw [h.device, h.message]
    by_cases heq : reg = .intrMask
    . rw [heq]
      trivial
    . rw [value_write_ne hreg heq]
      apply h.known reg hreg

end Blocked

theorem fixed_eq {d d' : BusDevice} (h : d.fixed = d'.fixed) :
    d.acpiConfig = d'.acpiConfig ∧ d.busConfig = d'.busConfig ∧ d.messages = d'.messages
      ∧ d.transactionFifoDepth = d'.transactionFifoDepth := by
  simp only [BusDevice.fixed, BusDevice.mk.injEq] at h
  simp [h]

namespace Programmed

theorem update (h : Programmed s) {d : BusDevice} (hd : d.fixed = s.device.fixed) :
    Programmed { s with device := d } := by
  rcases fixed_eq hd with ⟨hacpi, hbus, hmessages, hdepth⟩
  have hprogramming : ∀ m reg v, programming s.device m reg v → programming d m reg v := by
    intro m reg v h
    unfold programming configuration at *
    rw [hacpi, hbus, hdepth]
    apply h
  constructor
  . rw [hbus]
    apply h.bit
  . intro reg hreg
    apply hprogramming
    have := h.known reg hreg
    rw [← hmessages] at this
    apply this

theorem next {op : Op} {r : op.Ans} (hop : HandlerOp op) (h : Programmed s) :
    Programmed (State.next op s r) := by
  cases op with
  | readRegister reg =>
    exact { h with
      known := by
        intro reg' hreg'
        have : value (H.read reg r s.hw) reg' = value s.hw reg' := value_read hreg'
        simp only [State.next, this]
        apply h.known reg' hreg' }
  | writeRegister v reg =>
    exact { h with
      known := by
        intro reg' hreg'
        by_cases heq : reg' = reg
        . subst heq
          rcases hop with rfl | rfl
          . contradiction
          . trivial
        . simp only [State.next, value_write_ne hreg' heq]
          apply h.known reg' hreg' }
  | update f => apply h.update (hop s.device)
  | store a b => exact { h with }
  | reach point => cases point <;> exact { h with }
  | device | message _ _ | load _ | commandWakeup | disableInterrupt | enableInterrupt =>
    exact { h with }
  | _ => contradiction

theorem stable : (system H).Stable Programmed := by
  rintro s _ h ⟨hw, hstep, rfl⟩
  exact { h with
    known := by
      intro reg hreg
      rw [value_step hstep hreg]
      apply h.known reg hreg }

theorem stable_interrupted : (interrupted H).Stable Programmed := by
  apply stable_of_handlerOp stable
  intro op s r hop h _
  apply h.next hop

theorem disabled (h : Programmed s) :
    Kept (Function.update (configuration s.device) .enable (· = 0)) s.device s.memory.message
      { s with hw := H.write 0 .enable s.hw, log := s.log ++ [.write 0 .enable] } where
  device := rfl
  message := rfl
  off _ := value_write_self (by rfl)
  known := by
    intro reg hreg
    by_cases heq : reg = .enable
    . subst heq
      rw [Function.update_self, value_write_self (by rfl)]
    . rw [Function.update_of_ne heq, value_write_ne hreg heq]
      apply (h.known reg hreg).configuration h.bit

end Programmed

end VoodooI2C
