import VoodooI2C.Isolation.WP
import VoodooI2C.Transfer.Extend

/-!
This module contains the programs that run on both sides and keep both drivers in the middle of the
same transfer because they do not look at leftovers.
-/

namespace VoodooI2C

namespace Isolation

open Interaction

variable {H : Hardware} {α : Type} {p : Pointer} {number : Nat} {sending sending' : Prop}
  {s t : State H} {d d' : BusDevice} {f : BusDevice → BusDevice}

structure Plain (f : BusDevice → BusDevice) : Prop where
  withLeftover : ∀ d l, f (withLeftover d l) = withLeftover (f d) l
  status : ∀ d bit, (f d).status &&& bit ≠ 0 → d.status &&& bit ≠ 0
  messages : ∀ d, (f d).messages = d.messages
  messageNumber : ∀ d, (f d).messageNumber = d.messageNumber
  messageWriteIndex : ∀ d, (f d).messageWriteIndex = d.messageWriteIndex
  transactionBuffer : ∀ d, (f d).transactionBuffer = d.transactionBuffer
  transactionBufferLength : ∀ d, (f d).transactionBufferLength = d.transactionBufferLength
  receiveBuffer : ∀ d, (f d).receiveBuffer = d.receiveBuffer
  receiveBufferLength : ∀ d, (f d).receiveBufferLength = d.receiveBufferLength

theorem Alike.mono (h : Alike sending d d') (hsending : sending' → sending) :
    Alike sending' d d' := by
  rcases h with ⟨l, heq, hwrite, hread⟩
  exact ⟨l, heq, fun h => hwrite (hsending h), hread⟩

theorem Alike.update (h : Alike sending d d') (hf : Plain f) : Alike sending (f d) (f d') := by
  rcases h with ⟨l, rfl, hwrite, hread⟩
  refine ⟨l, hf.withLeftover d l, ?_, ?_⟩
  . rw [hf.transactionBuffer, hf.transactionBufferLength]
    apply hwrite
  . intro h
    rw [hf.receiveBuffer, hf.receiveBufferLength]
    apply hread (hf.status _ _ h)

theorem Near.update (h : Near p number sending s t) (hf : Plain f) :
    Near p number sending { s with device := f s.device } { t with device := f t.device } :=
  { h with
    messages := by rw [hf.messages, h.messages]
    messageNumber := by rw [hf.messageNumber, h.messageNumber]
    device := h.device.update hf }

theorem Twin.update (h : Twin p number s t) (hf : Plain f) :
    Twin p number { s with device := f s.device } { t with device := f t.device } :=
  { h.toNear.update hf with
    device := (h.device.update hf).mono (hf.status _ _)
    cursor := by
      intro hwrite
      simp only [hf.messageWriteIndex, hf.transactionBuffer, hf.transactionBufferLength]
      apply h.cursor (hf.status _ _ hwrite) }

theorem Near.append (h : Near p number sending s t) (e : Event) (hw hw' : H.State) :
    Near p number sending { s with hw := hw, log := s.log ++ [e] }
      { t with hw := hw', log := t.log ++ [e] } :=
  { h with log := by simp only [h.log] }

theorem Twin.append (h : Twin p number s t) (e : Event) (hw hw' : H.State) :
    Twin p number { s with hw := hw, log := s.log ++ [e] }
      { t with hw := hw', log := t.log ++ [e] } :=
  { h.toNear.append e hw hw', h with }

theorem Twin.stable (p : Pointer) (number : Nat) :
    (pair H).Stable fun x => Twin p number x.1 x.2 := by
  apply stable_of_hw
  intro s t hw hw' h
  exact { h with }

def TwinOp (op : Op) : Prop :=
  match op with
  | .update f => Plain f
  | .message _ _ | .load _ => False
  | .readRegister _ | .writeRegister _ _ | .device | .store _ _ | .enterSleep | .leaveSleep
  | .commandWakeup | .disableInterrupt | .enableInterrupt | .reach _ => True
  | _ => False

theorem Twin.next {op : Op} (h : Twin p number s t) (hop : TwinOp op) (r : op.Ans × op.Ans)
    (hr : (pair H).admits (op, op) (s, t) r) :
    Indifferent (Alike False) op r.1 r.2
      ∧ Twin p number (State.next op s r.1) (State.next op t r.2) := by
  rcases r with ⟨r, r'⟩
  rcases hr with ⟨hr, hr', hsame⟩
  cases op with
  | readRegister reg =>
    have heq : r = r' := hsame rfl
    subst heq
    exact ⟨rfl, h.append _ _ _⟩
  | writeRegister v reg => exact ⟨rfl, h.append _ _ _⟩
  | device =>
    have hr : r = s.device := hr
    have hr' : r' = t.device := hr'
    subst hr hr'
    exact ⟨h.device.weaken, h⟩
  | update f => exact ⟨rfl, h.update hop⟩
  | store a b =>
    have happend := h.append (.store a b) s.hw t.hw
    exact ⟨rfl, { happend with memory := h.memory.store a b }⟩
  | enterSleep =>
    have happend := h.append .enterSleep s.hw t.hw
    exact ⟨rfl, { happend with }⟩
  | leaveSleep =>
    have heq : r = r' := hsame
    subst heq
    have happend := h.append (.sleep r) s.hw t.hw
    exact ⟨rfl, { happend with }⟩
  | commandWakeup =>
    have happend := h.append .wakeup s.hw t.hw
    exact ⟨rfl, { happend with }⟩
  | disableInterrupt | enableInterrupt => exact ⟨rfl, h⟩
  | reach point =>
    cases point with
    | readFromBus | transferMessageToBus => exact ⟨rfl, h⟩
    | prepareTransferI2C _ | prepareTransferI2CReturns => exact ⟨rfl, { h with }⟩
  | _ => contradiction

def Stays (H : Hardware) (p : Pointer) (number : Nat) (q : Driver α) : Prop :=
  ∀ s t : State H, Twin p number s t →
    Pair.wp (pair H) SameLog q q (fun a b y => a = b ∧ Twin p number y.1 y.2) (s, t)

theorem stays_pure (a : α) : Stays H p number (pure a) := by
  intro s t h
  apply Pair.wp_pure (V := pair H) _ ⟨rfl, h⟩
  intro x y hx henv
  exact ⟨hx.1, Twin.stable p number x y hx.2 henv⟩

theorem stays_bind {β : Type} {q : Driver α} {g : α → Driver β} (hq : Stays H p number q)
    (hg : ∀ a, Stays H p number (g a)) : Stays H p number (q >>= g) := by
  intro s t h
  apply Pair.wp_bind
  apply Pair.wp_post (hq s t h)
  rintro a _ ⟨s', t'⟩ ⟨rfl, h'⟩
  apply hg a s' t' h'

theorem stays_of_performs {q : Driver α} (hq : q.Performs TwinOp)
    (hS : q.Respects (Indifferent (Alike False))) : Stays H p number q := by
  intro s t h
  apply Pair.wp_same (V := pair H) hq hS (Twin.stable p number) _ _ h
  . intro op x _ hx
    apply hx.log
  . rintro op ⟨s, t⟩ r hop hx hr
    apply hx.next hop r hr

theorem Near.wp_device {g : BusDevice → Driver α} {Q : α → α → State H × State H → Prop}
    (h : Near p number sending s t) (hD : ∀ d d', Alike False d d' → g d = g d')
    (hg : Pair.wp (pair H) SameLog (g s.device) (g s.device) Q (s, t)) :
    Pair.wp (pair H) SameLog (VoodooI2C.device >>= g) (VoodooI2C.device >>= g) Q (s, t) :=
  wp_device_eq h.log (hD _ _ h.device.weaken) hg

theorem stays_device {g : BusDevice → Driver α}
    (hD : ∀ d d', Alike False d d' → g d = g d') (hg : ∀ d, Stays H p number (g d)) :
    Stays H p number (device >>= g) := by
  intro s t h
  apply h.wp_device hD
  apply hg _ s t h

theorem stays_readRegister (reg : Register) : Stays H p number (readRegister reg) := by
  apply stays_of_performs
  . simp [TwinOp]
  . apply respects_of_performs
    simp

theorem stays_writeRegister (v : Word) (reg : Register) :
    Stays H p number (writeRegister v reg) := by
  apply stays_of_performs
  . simp [TwinOp]
  . apply respects_of_performs
    simp

theorem stays_update (hf : Plain f) : Stays H p number (update f) := by
  apply stays_of_performs
  . exact Prog.performs_perform hf
  . apply respects_of_performs
    simp

theorem stays_store (a : Address) (b : Byte) : Stays H p number (store a b) := by
  apply stays_of_performs
  . exact Prog.performs_perform trivial
  . apply respects_of_performs
    exact Prog.performs_perform (by simp)

theorem respects_access (reg : Register) :
    (readRegister reg >>= fun _ => pure () : Driver Unit).Respects (Indifferent (Alike False)) := by
  apply respects_of_performs
  simp only [performs_readRegister_bind, performs_pure]
  simp

theorem plain_abortSource (a : Word) : Plain fun d => { d with abortSource := a } := by
  constructor <;> intros <;> first | rfl | assumption

theorem stays_clear (status : Word) : Stays H p number (readClearInterruptBits.clear status) := by
  apply stays_of_performs
  . apply Prog.performs_mono (performs_clear status)
    rintro op (hop | ⟨a, rfl⟩)
    . cases op with
      | readRegister _ | device | disableInterrupt | enableInterrupt => trivial
      | _ => contradiction
    . apply plain_abortSource
  . have hread : ∀ bit reg, (clearInterrupt status bit reg).Respects (Indifferent (Alike False)) := by
      intro bit reg
      unfold clearInterrupt
      split
      . apply respects_access
      . apply Prog.respects_pure
    unfold readClearInterruptBits.clear
    apply Prog.respects_bind (hread _ _) fun _ => ?_
    apply Prog.respects_bind (hread _ _) fun _ => ?_
    apply Prog.respects_bind (hread _ _) fun _ => ?_
    apply Prog.respects_bind (hread _ _) fun _ => ?_
    apply Prog.respects_bind _ fun _ => ?_
    . apply respects_of_performs
      unfold readClearInterruptBits.clearTxAbrt
      split
      . simp only [performs_readRegister_bind, performs_update_bind, performs_pure]
        simp
      . apply performs_pure
    apply Prog.respects_bind (hread _ _) fun _ => ?_
    apply Prog.respects_bind (hread _ _) fun _ => ?_
    apply Prog.respects_bind _ fun _ => ?_
    . unfold readClearInterruptBits.clearStopDet
      apply respects_device_bind
      . rintro d _ ⟨l, rfl, _⟩
        rfl
      . intro d
        split
        . apply respects_access
        . apply Prog.respects_pure
    apply Prog.respects_bind (hread _ _) fun _ => ?_
    apply hread

theorem stays_abort : Stays H p number serviceInterrupt.abort := by
  unfold serviceInterrupt.abort
  apply stays_of_performs
  . simp only [performs_update_bind, performs_writeRegister, TwinOp, and_true]
    refine ⟨?_, ?_, ?_⟩
    . constructor <;> intros <;> first | rfl | assumption
    . constructor <;> intros <;> first | rfl | exact absurd BitVec.zero_and ‹_›
    . constructor <;> intros <;> first | rfl | assumption
  . apply respects_of_performs
    simp

theorem stays_wakeup (status : Word) : Stays H p number (serviceInterrupt.wakeup status) := by
  apply stays_of_performs
  . apply Prog.performs_mono (performs_wakeup status)
    intro op hop
    cases op with
    | readRegister _ | writeRegister _ _ | device | commandWakeup => trivial
    | _ => contradiction
  . unfold serviceInterrupt.wakeup
    apply respects_device_bind
    . rintro d _ ⟨l, rfl, _⟩
      rfl
    . intro d
      apply respects_of_performs
      split
      . simp
      . split <;> simp

end Isolation

end VoodooI2C
