import VoodooI2C.Refusal.Send

/-!
This module contains what the parts of the handler do to what the caller is woken up for, as long as
no message was refused.
-/

namespace VoodooI2C

open Interaction RegisterFile

variable {txDepth rxDepth : Word} {list : List BusMessage} {p : Pointer}
  {byte₀ : Address → Byte} {status : Word} {s s₀ : State (steadyFifo txDepth rxDepth)}
  {log t : List Event} {e : Event}

def Event.Plain (e : Event) : Prop :=
  match e with
  | .read _ _ | .write _ _ | .store _ _ => True
  | .enterSleep | .sleep _ | .wakeup => False

/--
The caller and the log from `s₀` on, if it is neither woken up nor runs.
-/
structure Grown (s₀ s : State (steadyFifo txDepth rxDepth)) : Prop where
  sleeper : s.sleeper = s₀.sleeper
  command : s.device.commandError = s₀.device.commandError
  log : ∃ t, s.log = s₀.log ++ t ∧ ∀ e ∈ t, e.Plain
  endless : Endless s.hw

namespace Grown

theorem refl (h : Endless s.hw) : Grown s s where
  sleeper := rfl
  command := rfl
  log := ⟨[], by simp⟩
  endless := h

theorem append {hw : Fifo} {memory : Memory} (h : Grown s₀ s) (he : e.Plain) (hend : Endless hw) :
    Grown s₀ { s with hw := hw, memory := memory, log := s.log ++ [e] } where
  sleeper := h.sleeper
  command := h.command
  log := by
    rcases h.log with ⟨t, ht, hplain⟩
    refine ⟨t ++ [e], ?_, ?_⟩
    . simp only [ht, List.append_assoc]
    . intro e' he'
      rw [List.mem_append, List.mem_singleton] at he'
      rcases he' with he' | rfl
      . apply hplain e' he'
      . apply he
  endless := hend

theorem stable : (system (steadyFifo txDepth rxDepth)).Stable (Grown s₀) := by
  rintro s _ h ⟨hw, hstep, rfl⟩
  exact { h with endless := h.endless.step hstep.1 hstep.2 }

theorem inTime (h : Grown s₀ s) (htime : InTime list s.log) : InTime list s₀.log := by
  rcases h.log with ⟨t, ht, _⟩
  rw [ht] at htime
  apply htime.of_append

theorem mem_iff (h : Grown s₀ s) (he : ¬ e.Plain) : e ∈ s.log ↔ e ∈ s₀.log := by
  rcases h.log with ⟨t, ht, hplain⟩
  rw [ht, List.mem_append]
  constructor
  . rintro (hmem | hmem)
    . apply hmem
    . exact absurd (hplain e hmem) he
  . apply Or.inl

theorem mem (h : Grown s₀ s) (he : e ∈ s₀.log) : e ∈ s.log := by
  rcases h.log with ⟨t, ht, _⟩
  rw [ht]
  apply List.mem_append_left _ he

end Grown

structure Unchanged (s₀ s : State (steadyFifo txDepth rxDepth)) : Prop extends Grown s₀ s where
  error : s.device.messageError = s₀.device.messageError

namespace Unchanged

theorem refl (h : Endless s.hw) : Unchanged s s :=
  { Grown.refl h with error := rfl }

theorem stable : (system (steadyFifo txDepth rxDepth)).Stable (Unchanged s₀) := by
  rintro s _ h ⟨hw, hstep, rfl⟩
  exact { h with endless := h.endless.step hstep.1 hstep.2 }

theorem steps {hw : Fifo} (h : Unchanged s₀ s)
    (hsteps : (steadyFifo txDepth rxDepth).Steps s.hw hw) : Unchanged s₀ { s with hw := hw } := by
  apply stable.env h
  rw [system_env]
  exact ⟨hw, hsteps, rfl⟩

theorem append {hw : Fifo} {memory : Memory} (h : Unchanged s₀ s) (he : e.Plain)
    (hend : Endless hw) :
    Unchanged s₀ { s with hw := hw, memory := memory, log := s.log ++ [e] } :=
  { h.toGrown.append he hend with error := h.error }

theorem read (reg : Register) (v : Word) (h : Unchanged s₀ s) :
    Unchanged s₀ { s with hw := s.hw.read reg, log := s.log ++ [.read reg v] } := by
  apply h.append
  . trivial
  . apply h.endless.read

theorem write (v : Word) (reg : Register) (h : Unchanged s₀ s) (hreg : reg ≠ .dataCmd) :
    Unchanged s₀ { s with
      hw := s.hw.write txDepth.toNat v reg, log := s.log ++ [.write v reg] } := by
  apply h.append
  . trivial
  . apply h.endless.write
    intro heq
    exact absurd heq hreg

theorem next_quiet {op : Op} {r : op.Ans} (h : Unchanged s₀ s) (hop : QuietOp op) :
    Unchanged s₀ (State.next op s r) := by
  cases op with
  | readRegister reg => apply h.read
  | device | disableInterrupt | enableInterrupt => apply h
  | _ => contradiction

end Unchanged

def SleepGuard (op : Op) (_ : State (steadyFifo txDepth rxDepth)) : Prop :=
  match op with
  | .leaveSleep => False
  | _ => True

instance : Lenient (@SleepGuard txDepth rxDepth) where
  device _ := trivial
  update _ _ := trivial
  commandWakeup _ := trivial

theorem HandlerOp.sleepGuard {op : Op} (h : HandlerOp op) : SleepGuard op s := by
  cases op with
  | leaveSleep => contradiction
  | _ => trivial

namespace Unchanged

theorem wp_clear (h : Unchanged s₀ s) :
    wp (system (steadyFifo txDepth rxDepth)) SleepGuard (readClearInterruptBits.clear status)
      (fun _ => Unchanged s₀) s := by
  apply wp_performs (performs_clear status) stable
  . intro op s hop _
    apply hop.handlerOp.sleepGuard
  . rintro op s r (hop | ⟨a, rfl⟩) h hr
    . apply h.next_quiet hop
    . exact { h with }
  . apply h

theorem wp_receive (h : Unchanged s₀ s) :
    wp (system (steadyFifo txDepth rxDepth)) SleepGuard (serviceInterrupt.receive status)
      (fun _ => Unchanged s₀) s := by
  unfold serviceInterrupt.receive
  split
  . apply wp_performs performs_readFromBus stable
    . intro op s hop _
      apply hop.handlerOp.sleepGuard
    . intro op s r hop h _
      cases op with
      | readRegister reg => apply h.read
      | update f =>
        rcases hop s.device with ⟨o, st, l, b, i, heq, _⟩
        have hdevice : (State.next (.update f) s r).device = f s.device := rfl
        rw [heq] at hdevice
        refine { h with command := ?_, error := ?_ }
        . rw [hdevice]
          apply h.command
        . rw [hdevice]
          apply h.error
      | store a b =>
        apply h.append
        . trivial
        . apply h.endless
      | device | message _ _ => apply h
      | reach point =>
        cases point with
        | readFromBus => exact { h with }
        | _ => contradiction
      | _ => contradiction
    . apply h
  . apply wp_done
    intro hw hsteps
    apply h.steps hsteps

end Unchanged

theorem Unchanged.wp_workaround (h : Unchanged s₀ s) :
    wp (system (steadyFifo txDepth rxDepth)) SleepGuard
      (do
        let status ← readRegister .intrMask
        writeRegister 0 .intrMask
        writeRegister status .intrMask)
      (fun _ => Unchanged s₀) s := by
  apply wp_readRegister
  intro hw₁ hsteps₁
  refine ⟨trivial, ?_⟩
  intro v _
  have h₁ := (h.steps hsteps₁).read .intrMask v
  apply wp_writeRegister
  intro hw₂ hsteps₂
  have h₂ := (h₁.steps hsteps₂).write 0 .intrMask (by simp)
  refine ⟨trivial, ?_⟩
  apply wp_tail
  apply wp_writeRegister
  intro hw₃ hsteps₃
  have h₃ := (h₂.steps hsteps₃).write v .intrMask (by simp)
  refine ⟨trivial, ?_⟩
  apply wp_done
  intro hw₄ hsteps₄
  apply h₃.steps hsteps₄

/--
What `transferMessageToBus` leaves if it begins with a message that it does not refuse at once.
-/
structure Sending (list : List BusMessage) (s₀ s : State (steadyFifo txDepth rxDepth)) : Prop
    extends Grown s₀ s where
  error : s₀.device.messageError = 0
  refused : s.device.messageError ≠ 0 → InTime list s.log →
    .enterSleep ∈ s.log ∧ s.device.receiveOutstanding = 0

theorem Grown.next_send {op : Op} {r : op.Ans} (hfaulty : Faulty list) (h : Grown s₀ s)
    (hguard : Guard p list byte₀ op s) (hop : TransferMessageToBusOp op) :
    Grown s₀ (State.next op s r) := by
  cases op with
  | readRegister reg =>
    apply h.append
    . trivial
    . apply h.endless.read
  | writeRegister v reg =>
    apply h.append
    . trivial
    . apply h.endless.write
      intro heq
      rcases hguard.2 heq with ⟨place, hplace, hv⟩
      apply hfaulty.and_stop hplace hv
  | update f =>
    rcases hop s.device with ⟨o, st, l, b, i, e, heq, _⟩
    refine { h with command := ?_ }
    show (f s.device).commandError = _
    rw [heq]
    apply h.command
  | device | message _ _ | load _ => apply h
  | reach point =>
    cases point with
    | transferMessageToBus => apply h
    | _ => contradiction
  | _ => contradiction

theorem Grown.refused (h : Grown s₀ s) (hbegun : Begun s₀.log)
    (hside : WriteSide list s.device (words s.log).length) (houtstanding : Outstanding s.device s.log)
    (hrefused : RefusedAt list s.device.messageWriteIndex) (hlog : s.log = log ++ [.write 0 .intrMask])
    (htime : InTime list s.log) : .enterSleep ∈ s.log ∧ s.device.receiveOutstanding = 0 := by
  have hbegun' : Begun log := by
    have hmem := h.mem hbegun
    rw [hlog, List.mem_append, List.mem_singleton] at hmem
    rcases hmem with hmem | heq
    . apply hmem
    . simp [intrDefaultMask] at heq
      contradiction
  have hwords : words s.log = words log := by simp [hlog]
  have hpops : pops s.log = pops log := by simp [hlog]
  have hfinished := hrefused.finished hside
  rw [hwords] at hfinished
  rcases htime log [] hlog hbegun' hfinished with ⟨henter, hread⟩
  constructor
  . rw [hlog]
    apply List.mem_append_left _ henter
  . rw [houtstanding, hwords, hpops, hread]
    omega

theorem wp_send_refused (hfaulty : Faulty list) (hon : On p list byte₀ s)
    (hstatus : Unmasked status s) (hbegun : Begun s.log) (hend : Endless s.hw) :
    wp (system (steadyFifo txDepth rxDepth)) SleepGuard (serviceInterrupt.send status)
      (fun _ s' => Unchanged s s' ∨ Sending list s s') s := by
  unfold serviceInterrupt.send
  split
  . next hempty =>
    rcases hon with ⟨hsession, hsettled, ⟨hcommand, hwrite, hread, hmask⟩ | haborted⟩
    . have hnumber := hsession.2.2.2.1
      rcases hmask.of_txEmpty hnumber hwrite.1 hstatus hempty with ⟨hindex, hfirst⟩
      have hzero : s.device.messageError = 0 := by
        by_contra herror
        unfold MaskFits at hmask
        rw [if_pos herror] at hmask
        apply hempty
        rw [← hstatus, hmask]
        simp
      have hwp := wp_and
        (wp_transferMessageToBus (by simpa using hindex) hfirst hwrite hsettled hsession)
        (wp_and
          (wp_transferMessageToBus_frame (G := fun _ _ => True) (by simp) hread hcommand)
          (wp_and
            (wp_transferMessageToBus_refused hfirst hwrite hsession hzero)
            (wp_of_performs performs_transferMessageToBus)))
      apply wp_mono (wp_keeping hwp Grown.stable _ (Grown.refl hend))
      . intro op s h
        apply h.1.2.2.2.handlerOp.sleepGuard
      . rintro _ s' ⟨⟨⟨hside, hsettled', _⟩, ⟨_, hcommand'⟩, hrefused, _⟩, hgrown⟩
        right
        refine { hgrown with error := hzero, refused := ?_ }
        intro herror htime
        rcases hrefused herror with ⟨hrefused, log, hlog⟩
        apply hgrown.refused hbegun hside (hsettled'.2.2 hcommand') hrefused hlog htime
      . intro op s' r h hgrown _
        apply hgrown.next_send hfaulty h.1 h.2.2.2
    . rw [eq_zero_of_aborted haborted hstatus] at hempty
      simp at hempty
  . apply wp_done
    intro hw hsteps
    left
    apply (Unchanged.refl hend).steps hsteps

end VoodooI2C
