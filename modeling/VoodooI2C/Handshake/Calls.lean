import VoodooI2C.Handshake.Basic

/-!
This module contains that the writes of any number of calls that configure the controller follow
handshakes that disable it.
-/

namespace VoodooI2C

open Interaction

variable {H : Hardware} {α : Type} {s : State H}

def Known (s : State H) : Prop := Clear s.log ∨ Stuck s.log

theorem Decided.known {ret : IOReturn} (h : Decided ret s) : Known s := by
  unfold Decided at h
  split at h
  . apply Or.inl h
  . apply Or.inr h

theorem stable_known : (interrupted H).Stable Known :=
  stable_statuses fun readings =>
    (∃ v, readings.getLast? = some v ∧ v &&& 1 = 0) ∨ Misses 1001 readings

def ConfigureOp (op : Op) : Prop :=
  match op with
  | .readRegister reg => reg ≠ .enableStatus
  | .writeRegister _ _ | .device | .message _ _ => True
  | _ => False

namespace Known

theorem guard (op : Op) (h : Known s) : HandshakeGuard op s := fun _ => clear_iff_not_stuck h

theorem next {op : Op} {r : op.Ans} (hop : ConfigureOp op) (h : Known s) :
    Known (State.next op s r) := by
  have hstatuses : statuses (State.next op s r).log = statuses s.log := by
    cases op with
    | readRegister reg =>
      simp only [State.next, statuses_append, statuses_ne _ (show reg ≠ .enableStatus from hop),
        List.append_nil]
    | writeRegister v reg => apply statuses_write
    | device | message _ _ => rfl
    | _ => contradiction
  unfold Known Clear Stuck
  rw [hstatuses]
  apply h

theorem wp_step {op : Op} {f : op.Ans → Driver α} {Q : α → State H → Prop} (hop : ConfigureOp op)
    (h : Known s) (hf : ∀ r s, Known s → wp (interrupted H) HandshakeGuard (f r) Q s) :
    wp (interrupted H) HandshakeGuard (Prog.perform op >>= f) Q s := by
  apply Interaction.wp_step stable_known h
  intro s' h'
  refine ⟨h'.guard op, ?_⟩
  intro r _
  apply hf r _ (h'.next hop)

theorem wp_performs {p : Driver α} (hp : p.Performs ConfigureOp) (h : Known s) :
    wp (interrupted H) HandshakeGuard p (fun _ => Known) s := by
  apply Interaction.wp_performs hp stable_known
  . intro op s _ h
    apply h.guard op
  . intro op s r hop h _
    apply h.next hop
  . apply h

end Known

theorem wp_return (a : α) : wp (interrupted H) HandshakeGuard (pure a) (fun _ _ => True) s :=
  fun _ _ => trivial

theorem wp_any {op : Op} {f : op.Ans → Driver α} {Q : α → State H → Prop} (hop : ¬ op.Programs)
    (hf : ∀ r s, wp (interrupted H) HandshakeGuard (f r) Q s) :
    wp (interrupted H) HandshakeGuard (Prog.perform op >>= f) Q s := by
  rw [wp_perform_bind]
  intro s' _
  refine ⟨fun hprograms => absurd hprograms hop, ?_⟩
  intro r _
  apply hf r

theorem wp_initialiseBus_known :
    wp (interrupted H) HandshakeGuard initialiseBus (fun _ => Known) s := by
  unfold initialiseBus
  rw [wp_bind]
  apply wp_post wp_off
  intro ret s₁ h₁
  split
  . exact wp_main_return stable_known h₁.known fun _ h => h
  . apply h₁.known.wp_performs
    have hhold : ∀ d, (initialiseBus.writeSdaHold d).Performs ConfigureOp := by
      intro d
      unfold initialiseBus.writeSdaHold
      split
      . apply Prog.performs_perform
        trivial
      . apply performs_pure
    simp only [performs_device_bind, performs_writeRegister_bind]
    refine ⟨trivial, fun d => ⟨trivial, trivial, trivial, trivial, ?_⟩⟩
    apply Prog.performs_bind (hhold d)
    intro _
    simp only [performs_writeRegister_bind]
    exact ⟨trivial, trivial, trivial, performs_pure _⟩

theorem wp_disable_known (accessIntrMaskWorkaround : Bool) :
    wp (interrupted H) HandshakeGuard (requestTransferI2C.disable accessIntrMaskWorkaround)
      (fun _ => Known) s := by
  unfold requestTransferI2C.disable
  split
  . apply wp_initialiseBus_known
  . apply wp_post wp_off
    intro ret s h
    apply h.known

theorem wp_requestTransferI2C_known :
    wp (interrupted H) HandshakeGuard requestTransferI2C (fun _ _ => True) s := by
  have hrest : ∀ s : State H, wp (interrupted H) HandshakeGuard
      (do
        toggleInterrupts .off
        let _ ← toggleBusState .on
        let _ ← readRegister .enableStatus
        toggleInterrupts .on)
      (fun _ _ => True) s := by
    intro s
    apply wp_of_routine
    apply Prog.performs_bind (performs_toggleInterrupts _)
    intro _
    apply Prog.performs_bind (performs_toggleBusState _)
    intro _
    simp only [performs_readRegister_bind]
    exact ⟨by simp [RoutineOp], fun _ => performs_toggleInterrupts _⟩
  have hconfiguration : ∀ orig i2cConfiguration,
      (requestTransferI2C.writeConfiguration orig i2cConfiguration).Performs ConfigureOp := by
    intro orig i2cConfiguration
    unfold requestTransferI2C.writeConfiguration
    split
    . apply Prog.performs_perform
      trivial
    . apply performs_pure
  unfold requestTransferI2C
  apply wp_any (by simp [Op.Programs])
  intro d s₁
  rw [wp_bind]
  apply wp_post (wp_disable_known _)
  intro _ s₂ h₂
  apply h₂.wp_step (by simp [ConfigureOp])
  intro orig s₃ h₃
  apply h₃.wp_step (by trivial)
  intro d s₄ h₄
  apply h₄.wp_step (by trivial)
  intro m s₅ h₅
  rw [wp_bind]
  apply wp_post (h₅.wp_performs (hconfiguration _ _))
  intro _ s₆ h₆
  apply h₆.wp_step (by trivial)
  intro d s₇ h₇
  apply h₇.wp_step (by trivial)
  intro m s₈ h₈
  apply h₈.wp_step (by trivial)
  intro _ s₉ _
  apply hrest s₉

theorem wp_wakeUp_known {sleep : SleepResult} :
    wp (interrupted H) HandshakeGuard
      (if sleep = .timedOut then do
        let _ ← initialiseBus
        return IOReturn.timeout
      else do
        let _ ← toggleBusState .off
        prepareTransferI2C.result)
      (fun _ _ => True) s := by
  split
  . rw [wp_bind]
    apply wp_post wp_initialiseBus_known
    intro _ s _
    apply wp_return
  . rw [wp_bind]
    apply wp_post wp_off
    intro _ s _
    apply wp_of_routine performs_result

theorem wp_prepareTransferI2C_known {messages : Pointer} {number : Nat} :
    wp (interrupted H) HandshakeGuard (prepareTransferI2C messages number) (fun _ _ => True) s := by
  unfold prepareTransferI2C
  apply wp_any (by simp [Op.Programs])
  intro _ s
  rw [wp_bind]
  apply wp_post (Q := fun _ _ => True)
  . unfold prepareTransferI2C.go
    apply wp_any (by simp [Op.Programs])
    intro d s
    split
    . apply wp_return
    . rw [wp_bind]
      apply wp_post (wp_of_routine performs_waitBusNotBusyI2C)
      intro ret s _
      split
      . apply wp_return
      . iterate 9
          apply wp_any (by simp [Op.Programs])
          intro _ s
        rw [wp_bind]
        apply wp_post wp_requestTransferI2C_known
        intro _ s _
        apply wp_any (by simp [Op.Programs])
        intro _ s
        apply wp_any (by simp [Op.Programs])
        intro sleep s
        apply wp_wakeUp_known
  . intro ret s _
    apply wp_any (by simp [Op.Programs])
    intro _ s
    apply wp_return

theorem wp_transferI2C_known {messages : Pointer} {number : Nat} :
    wp (interrupted H) HandshakeGuard (transferI2C messages number) (fun _ _ => True) s := by
  unfold transferI2C transferI2CGated
  generalize 5 = tries
  induction tries generalizing s with
  | zero => apply wp_prepareTransferI2C_known
  | succ tries ih =>
    unfold transferI2CGated.go
    rw [wp_bind]
    apply wp_post wp_prepareTransferI2C_known
    intro ret s _
    split
    . apply wp_return
    . apply ih

theorem wp_setPowerState_known {whichState : Nat} {forThis : Bool} :
    wp (interrupted H) HandshakeGuard (setPowerState whichState forThis) (fun _ _ => True) s := by
  have hon : ∀ s : State H,
      wp (interrupted H) HandshakeGuard setPowerState.powerOn (fun _ _ => True) s := by
    intro s
    unfold setPowerState.powerOn
    rw [wp_bind]
    apply wp_post (wp_of_routine (performs_toggleBusState _))
    intro _ s _
    rw [wp_bind]
    apply wp_post wp_initialiseBus_known
    intro _ s _
    apply wp_of_routine
    apply Prog.performs_bind (performs_toggleInterrupts _)
    intro _
    simp only [performs_update_bind]
    refine ⟨trivial, ?_⟩
    apply Prog.performs_bind performs_startI2CInterrupt
    intro _
    apply performs_pure
  unfold setPowerState
  split
  . apply wp_return
  . rw [wp_bind]
    apply wp_post (Q := fun _ _ => True)
    . unfold setPowerState.change
      apply wp_any (by simp [Op.Programs])
      intro d s
      split
      . split
        . apply wp_of_routine performs_powerOff
        . apply wp_return
      . split
        . apply hon
        . apply wp_return
    . intro _ s _
      apply wp_return

theorem wp_call_known {call : Call} :
    wp (interrupted H) HandshakeGuard call.run (fun _ _ => True) s := by
  unfold Call.run
  cases call with
  | transferI2C messages list =>
    apply wp_any (by simp [Op.Programs])
    intro memory s
    rw [wp_bind]
    apply wp_post wp_transferI2C_known
    intro _ s _
    apply wp_tail
    apply wp_any (by simp [Op.Programs])
    intro _ s
    apply wp_return
  | setPowerState whichState forThis =>
    dsimp only
    rw [wp_bind]
    apply wp_post wp_setPowerState_known
    intro _ s _
    apply wp_return
  | losePower =>
    apply wp_any (by simp [Op.Programs])
    intro d s
    split
    . apply wp_any (by simp [Op.Programs])
      intro _ s
      apply wp_return
    . apply wp_return

theorem wp_runCalls_known {calls : List Call} :
    wp (interrupted H) HandshakeGuard (runCalls calls) (fun _ _ => True) s := by
  induction calls generalizing s with
  | nil => apply wp_return
  | cons call calls ih =>
    unfold runCalls
    rw [wp_bind]
    apply wp_post wp_call_known
    intro _ s _
    apply ih

end VoodooI2C
