import VoodooI2C.Driver.Lemmas.Caller
import VoodooI2C.Isolation.Run

/-!
This module contains that a transfer writes `IC_TAR` before it enables the controller.
-/

namespace VoodooI2C

open Interaction Isolation

variable {H : Hardware} {α β : Type} {log : List Event} {s : State H}

def Targeted (log : List Event) : Prop := ∃ v, .write v .tar ∈ log

theorem Targeted.append (h : Targeted log) (t : List Event) : Targeted (log ++ t) := by
  rcases h with ⟨v, hmem⟩
  exact ⟨v, List.mem_append_left t hmem⟩

theorem Targeted.next {op : Op} {r : op.Ans} (h : Targeted s.log)
    (hop : ∀ messages list, op ≠ .beginTransfer messages list) :
    Targeted (State.next op s r).log := by
  cases op with
  | readRegister _ | writeRegister _ _ | store _ _ | enterSleep | leaveSleep | commandWakeup =>
    apply h.append
  | reach point => cases point <;> exact h
  | beginTransfer messages list => exact absurd rfl (hop messages list)
  | _ => exact h

/--
The program writes `IC_TAR` before it enables the controller.
-/
def Addresses (p : Driver α) : Prop :=
  match p with
  | .ret _ => True
  | .call (.writeRegister v reg) k => reg = .tar ∨ (reg = .enable → v = 0) ∧ Addresses (k ())
  | .call _ k => ∀ r, Addresses (k r)

def OffOp (op : Op) : Prop := ∀ v, op = .writeRegister v .enable → v = 0

theorem addresses_bind {p : Driver α} {f : α → Driver β} (hp : Addresses p)
    (hf : ∀ a, Addresses (f a)) : Addresses (p >>= f) := by
  induction p with
  | ret a => apply hf
  | call op k ih =>
    cases op with
    | writeRegister v reg => exact hp.imp_right fun h => ⟨h.1, ih () h.2⟩
    | _ => exact fun r => ih r (hp r)

theorem addresses_of_performs {p : Driver α} (hp : p.Performs OffOp) : Addresses p := by
  induction p with
  | ret a => trivial
  | call op k ih =>
    cases op with
    | writeRegister v reg =>
      right
      refine ⟨?_, ih () (hp.2 ())⟩
      rintro rfl
      apply hp.1 v rfl
    | _ => exact fun r => ih r (hp.2 r)

theorem RegisterOp.offOp {op : Op} (h : RegisterOp .off op) : OffOp op := by
  rintro v rfl
  apply h rfl

theorem BusOp.offOp {op : Op} (h : BusOp .off op) : OffOp op := by
  rcases h with h | rfl
  . apply RegisterOp.offOp h
  . intro v heq
    contradiction

theorem addresses_of_registerOp {p : Driver α} (hp : p.Performs (RegisterOp .off)) : Addresses p :=
  addresses_of_performs (Prog.performs_mono hp fun _ h => RegisterOp.offOp h)

theorem addresses_initialiseBus : Addresses initialiseBus :=
  addresses_of_performs (Prog.performs_mono busOp_initialiseBus fun _ h => BusOp.offOp h)

theorem addresses_perform_bind {op : Op} {f : op.Ans → Driver α}
    (hop : ∀ v reg, op ≠ .writeRegister v reg) (hf : ∀ r, Addresses (f r)) :
    Addresses (Prog.perform op >>= f) := by
  cases op with
  | writeRegister v reg => exact absurd rfl (hop v reg)
  | _ => exact hf

theorem addresses_requestTransferI2C : Addresses requestTransferI2C := by
  unfold requestTransferI2C
  apply addresses_perform_bind (by simp)
  intro d
  apply addresses_bind
  . unfold requestTransferI2C.disable
    split
    . apply addresses_initialiseBus
    . apply addresses_of_registerOp (registerOp_toggleBusState .off)
  . intro _
    apply addresses_perform_bind (by simp)
    intro orig
    apply addresses_perform_bind (by simp)
    intro d
    apply addresses_perform_bind (by simp)
    intro m
    apply addresses_bind (addresses_of_registerOp (registerOp_writeConfiguration _ _))
    intro _
    apply addresses_perform_bind (by simp)
    intro d
    apply addresses_perform_bind (by simp)
    intro m
    exact .inl rfl

theorem addresses_prepareTransferI2C (messages : Pointer) (number : Nat) :
    Addresses (prepareTransferI2C messages number) := by
  have hupdate : ∀ (g : BusDevice → BusDevice) (q : Driver IOReturn), Addresses q →
      Addresses (update g >>= fun _ => q) :=
    fun _ _ h => addresses_perform_bind (by simp) fun _ => h
  unfold prepareTransferI2C
  apply addresses_perform_bind (by simp)
  intro _
  apply addresses_bind
  . unfold prepareTransferI2C.go
    apply addresses_perform_bind (by simp)
    intro d
    split
    . trivial
    . apply addresses_bind (addresses_of_registerOp registerOp_waitBusNotBusyI2C)
      intro ret
      split
      . trivial
      . iterate 9 apply hupdate
        apply addresses_bind addresses_requestTransferI2C
        intro _
        apply addresses_bind
        . exact fun _ _ => trivial
        . intro sleep
          split
          . apply addresses_bind addresses_initialiseBus
            intro _
            trivial
          . apply addresses_bind (addresses_of_registerOp (registerOp_toggleBusState .off))
            intro _
            unfold prepareTransferI2C.result
            apply addresses_perform_bind (by simp)
            intro d
            split
            . trivial
            . apply addresses_perform_bind (by simp)
              intro d
              split
              . trivial
              . apply addresses_perform_bind (by simp)
                intro d
                split <;> trivial
  . intro ret
    exact fun _ => trivial

theorem addresses_transferI2C (messages : Pointer) (number : Nat) :
    Addresses (transferI2C messages number) := by
  unfold transferI2C transferI2CGated
  generalize 5 = tries
  induction tries with
  | zero => apply addresses_prepareTransferI2C
  | succ tries ih =>
    unfold transferI2CGated.go
    apply addresses_bind (addresses_prepareTransferI2C _ _)
    intro ret
    split
    . trivial
    . apply ih

section Runs

variable {s₀ : State H} {p : Pointer} {n : Nat} {c : Config (system H) IOReturn}
  (hc : Reachable (system H) handleInterrupt s₀ (transferI2C p n) c)
include hc

theorem reachable_handlerOp {op : Op} {k : op.Ans → Driver Unit}
    (hhd : c.handler = some (.call op k)) : HandlerOp op := by
  have hhandler : ∀ s : State H, True →
      wp (system H) (fun op _ => HandlerOp op) handleInterrupt (fun _ _ => True) s :=
    fun _ _ => wp_of_performs performs_handleInterrupt
  have hp := wp_of_performs (W := interrupted H) (s := s₀)
    (Prog.performs_true (transferI2C p n))
  exact hc.handler_guard (fun _ _ _ => trivial) (fun _ _ _ => trivial) hhandler hp hhd

theorem reachable_callerOp {op : Op} {k : op.Ans → Driver IOReturn} (hnone : c.handler = none)
    (hmain : c.main = .call op k) : CallerOp op := by
  have hhandler : ∀ s : State H, True →
      wp (system H) (fun _ _ => True) handleInterrupt (fun _ _ => True) s :=
    fun _ _ => wp_of_performs (Prog.performs_true _)
  have hp := wp_of_performs (W := interrupted H) (s := s₀) (performs_transferI2C p n)
  exact hc.main_guard (fun _ _ _ => trivial) (fun _ _ _ => trivial) hhandler hp hnone hmain

theorem targeted_or_addresses : Targeted c.state.log ∨ Addresses c.main := by
  induction hc with
  | start => exact .inr (addresses_transferI2C p n)
  | step hprev hstep ih =>
    cases hstep with
    | env henv =>
      rcases henv with ⟨hw, _, rfl⟩
      apply ih
    | @main op s r k hr =>
      have hop := reachable_callerOp hprev rfl rfl
      rcases ih with ih | ih
      . left
        apply ih.next
        rintro messages list rfl
        contradiction
      . cases op with
        | writeRegister v reg =>
          rcases ih with rfl | ih
          . left
            exact ⟨v, List.mem_append_right _ (List.mem_singleton_self _)⟩
          . exact .inr ih.2
        | _ => exact .inr (ih r)
    | enter | leave => apply ih
    | handler hr =>
      refine ih.imp_left fun ih => ih.next ?_
      rintro messages list rfl
      exact absurd (reachable_handlerOp hprev rfl) id

theorem targeted_of_enable {v : Word} {k : Unit → Driver IOReturn}
    (hmain : c.main = .call (.writeRegister v .enable) k) (hv : v ≠ 0) : Targeted c.state.log := by
  rcases targeted_or_addresses hc with h | h
  . apply h
  . rw [hmain] at h
    rcases h with h | h
    . contradiction
    . exact absurd (h.1 rfl) hv

end Runs

end VoodooI2C
