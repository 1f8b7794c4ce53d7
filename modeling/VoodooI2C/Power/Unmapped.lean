import VoodooI2C.Power.Basic
import VoodooI2C.Transaction.Steady

/-!
This module contains transfers on a controller whose registers are not mapped, as they are after a wake
whose `mapMemory` failed.
-/

namespace VoodooI2C

open Interaction

/--
The registers as `readRegister` and `writeRegister` of `VoodooI2CController` access them. `accessible`
says that `mmap` is set and has a virtual address.
-/
def Hardware.behind (H : Hardware) (accessible : Bool) : Hardware where
  State := H.State
  canRead reg h v := if accessible then H.canRead reg h v else v = 0
  read reg v h := if accessible then H.read reg v h else h
  write v reg h := if accessible then H.write v reg h else h
  step := H.step
  reset := H.reset

abbrev Hardware.unmapped (H : Hardware) : Hardware := H.behind false

def sleeps (log : List Event) : List SleepResult :=
  log.filterMap fun
    | .sleep r => some r
    | _ => none

variable {H : Hardware} {s₀ s : State H.unmapped} {d : BusDevice} {results : List SleepResult}
  {α : Type}

/--
What a run has done so far: the controller has not been accessed, nothing has been stored and nobody
has been woken up.
-/
structure CutOff (s₀ : State H.unmapped) (d : BusDevice) (results : List SleepResult)
    (s : State H.unmapped) : Prop where
  device : s.device = d
  memory : s.memory = s₀.memory
  hw : H.Steps s₀.hw s.hw
  sleeper : s.sleeper ≠ .woken
  slept : sleeps s.log = sleeps s₀.log ++ results

namespace CutOff

theorem next {op : Op} {r : op.Ans} (h : CutOff s₀ d results s) (hop : RequestOp op) :
    CutOff s₀ d results (State.next op s r) := by
  cases op with
  | readRegister reg | writeRegister v reg =>
    refine ⟨h.device, h.memory, h.hw, h.sleeper, ?_⟩
    unfold State.next sleeps
    simp only [List.filterMap_append, List.filterMap_cons, List.filterMap_nil, List.append_nil]
    exact h.slept
  | device | message messages i => exact ⟨h.device, h.memory, h.hw, h.sleeper, h.slept⟩
  | _ => contradiction

theorem stable_system : (system H.unmapped).Stable (CutOff s₀ d results) := by
  rintro s _ h ⟨hw, hstep, rfl⟩
  exact ⟨h.device, h.memory, h.hw.tail hstep, h.sleeper, h.slept⟩

/-! The handler. -/

def HarmlessOp (op : Op) : Prop :=
  match op with
  | .commandWakeup | .message _ _ | .load _ | .store _ _ | .update _ | .writeRegister _ _ => False
  | _ => True

def HandlerGuard (s₀ : State H.unmapped) (op : Op) (s : State H.unmapped) : Prop :=
  HarmlessOp op ∧ s.memory = s₀.memory ∧ H.Steps s₀.hw s.hw

/--
All registers are zero, so the handler finds nothing to do.
-/
theorem wp_handleInterrupt (h : CutOff s₀ d results s) :
    wp (system H.unmapped) (HandlerGuard s₀) handleInterrupt
      (fun _ => CutOff s₀ d results) s := by
  have hstable : (system H.unmapped).Stable (CutOff s₀ d results) := stable_system
  have henable : ∀ s, CutOff s₀ d results s →
      wp (system H.unmapped) (HandlerGuard s₀) enableInterrupt
        (fun _ => CutOff s₀ d results) s := by
    intro s h
    refine wp_perform (fun _ => hstable) fun s' henv => ?_
    have h' := hstable.env h henv
    exact ⟨⟨trivial, h'.memory, h'.hw⟩, fun _ _ => h'⟩
  unfold handleInterrupt
  apply wp_step hstable h
  intro s₁ h₁
  refine ⟨⟨trivial, h₁.memory, h₁.hw⟩, fun _ _ => ?_⟩
  rw [wp_bind]
  have hbody : wp (system H.unmapped) (HandlerGuard s₀) handleInterrupt.body
      (fun _ => CutOff s₀ d results) s₁ := by
    unfold handleInterrupt.body
    apply wp_step hstable h₁
    intro s₂ h₂
    refine ⟨⟨trivial, h₂.memory, h₂.hw⟩, fun d _ => ?_⟩
    split
    . apply wp_step hstable (h₂.next (r := d) trivial)
      intro s₃ h₃
      refine ⟨⟨trivial, h₃.memory, h₃.hw⟩, fun enabled henabled => ?_⟩
      apply wp_step hstable (h₃.next (r := enabled) trivial)
      intro s₄ h₄
      refine ⟨⟨trivial, h₄.memory, h₄.hw⟩, fun status _ => ?_⟩
      have hzero : enabled = 0 := henabled
      rw [if_neg (not_not_intro (.inl hzero))]
      exact wp_pure hstable (h₄.next (r := status) trivial)
    . exact wp_pure hstable (h₂.next (r := d) trivial)
  apply wp_post hbody
  intro _ s h
  exact henable s h

theorem stable : (interrupted H.unmapped).Stable (CutOff s₀ d results) := by
  apply stable_system.interrupted
  intro s s' h hexec
  exact hexec.wp h.wp_handleInterrupt

/-! The caller. -/

def Guard (s₀ : State H.unmapped) (_ : Op) (s : State H.unmapped) : Prop :=
  ∃ d results, CutOff s₀ d results s

theorem wp_return {a : α} {Q : α → State H.unmapped → Prop} (h : CutOff s₀ d results s)
    (hQ : ∀ s, CutOff s₀ d results s → Q a s) :
    wp (interrupted H.unmapped) (Guard s₀) (pure a) Q s := by
  intro s' henv
  apply hQ
  exact stable.env h henv

theorem wp_request {q : Driver α} (h : CutOff s₀ d results s) (hq : q.Performs RequestOp) :
    wp (interrupted H.unmapped) (Guard s₀) q (fun _ => CutOff s₀ d results) s := by
  refine wp_performs hq stable (fun _ _ _ h => ⟨d, results, h⟩) ?_ h
  intro op s r hop h _
  exact h.next hop

theorem wp_device {f : BusDevice → Driver α} {Q : α → State H.unmapped → Prop}
    (h : CutOff s₀ d results s)
    (hf : ∀ s, CutOff s₀ d results s → wp (interrupted H.unmapped) (Guard s₀) (f d) Q s) :
    wp (interrupted H.unmapped) (Guard s₀) (VoodooI2C.device >>= f) Q s := by
  apply wp_step stable h
  intro s h
  refine ⟨⟨d, results, h⟩, ?_⟩
  rintro r rfl
  have hnext : CutOff s₀ d results (State.next .device s s.device) := h.next trivial
  rw [← h.device] at hf hnext
  exact hf _ hnext

theorem wp_update {g : BusDevice → BusDevice} {f : Unit → Driver α}
    {Q : α → State H.unmapped → Prop} (h : CutOff s₀ d results s)
    (hf : ∀ s, CutOff s₀ (g d) results s → wp (interrupted H.unmapped) (Guard s₀) (f ()) Q s) :
    wp (interrupted H.unmapped) (Guard s₀) (update g >>= f) Q s := by
  apply wp_step stable h
  intro s h
  refine ⟨⟨d, results, h⟩, fun _ _ => ?_⟩
  apply hf
  exact ⟨congrArg g h.device, h.memory, h.hw, h.sleeper, h.slept⟩

theorem wp_reach {point : Point} {f : Unit → Driver α} {Q : α → State H.unmapped → Prop}
    (h : CutOff s₀ d results s)
    (hf : ∀ s, CutOff s₀ d results s → wp (interrupted H.unmapped) (Guard s₀) (f ()) Q s) :
    wp (interrupted H.unmapped) (Guard s₀) (reach point >>= f) Q s := by
  apply wp_step stable h
  intro s h
  refine ⟨⟨d, results, h⟩, fun _ _ => ?_⟩
  apply hf
  cases point <;> exact ⟨h.device, h.memory, h.hw, h.sleeper, h.slept⟩

theorem wp_waitBusNotBusyI2C (h : CutOff s₀ d results s) :
    wp (interrupted H.unmapped) (Guard s₀) waitBusNotBusyI2C
      (fun ret s => ret = .success ∧ CutOff s₀ d results s) s := by
  unfold waitBusNotBusyI2C waitBusNotBusyI2C.go
  apply wp_step stable h
  intro s h
  refine ⟨⟨d, results, h⟩, fun status hstatus => ?_⟩
  have hzero : status = 0 := hstatus
  subst hzero
  rw [if_neg (by decide)]
  have hread : RequestOp (.readRegister .status) := trivial
  have hnext : CutOff s₀ d results (State.next (.readRegister .status) s (0 : Word)) := h.next hread
  exact wp_return hnext fun _ h => ⟨rfl, h⟩

theorem wp_commandSleep (h : CutOff s₀ d results s) :
    wp (interrupted H.unmapped) (Guard s₀) commandSleep
      (fun r s => r ≠ .awakened ∧ CutOff s₀ d (results ++ [r]) s) s := by
  unfold commandSleep
  apply wp_step stable h
  intro s h
  refine ⟨⟨d, results, h⟩, fun _ _ => ?_⟩
  have hasleep : CutOff s₀ d results (State.next .enterSleep s ()) := by
    refine ⟨h.device, h.memory, h.hw, by simp [State.next], ?_⟩
    have hslept := h.slept
    simpa [State.next, sleeps] using hslept
  apply wp_tail
  apply wp_step stable hasleep
  intro s h
  refine ⟨⟨d, results, h⟩, fun r hr => ?_⟩
  have hr : r = .awakened ↔ s.sleeper = .woken := hr
  have hne : r ≠ .awakened := fun heq => h.sleeper (hr.mp heq)
  have hnext : CutOff s₀ d (results ++ [r]) (State.next .leaveSleep s r) := by
    refine ⟨h.device, h.memory, h.hw, by simp [State.next], ?_⟩
    have hslept := h.slept
    simp only [State.next, sleeps, List.filterMap_append, List.filterMap_cons, List.filterMap_nil]
      at hslept ⊢
    rw [hslept, List.append_assoc]
  exact wp_return hnext fun _ h => ⟨hne, h⟩

def Ended (s₀ : State H.unmapped) (awake : Bool) (ret : IOReturn) (s : State H.unmapped) : Prop :=
  ∃ d results, CutOff s₀ d results s
    ∧ if awake then ret = .timeout ∧ results = [.timedOut] ∨ ret = .success ∧ results = [.interrupted]
      else ret = .busy ∧ results = []

theorem wp_prepareTransferI2C (messages : Pointer) (number : Nat) (h : CutOff s₀ d [] s) :
    wp (interrupted H.unmapped) (Guard s₀) (prepareTransferI2C messages number)
      (Ended s₀ d.awake) s := by
  unfold prepareTransferI2C
  apply h.wp_reach
  intro s h
  have hgo : wp (interrupted H.unmapped) (Guard s₀) (prepareTransferI2C.go messages number)
      (Ended s₀ d.awake) s := by
    unfold prepareTransferI2C.go
    apply h.wp_device
    intro s h
    split
    . next hawake =>
      -- the driver sleeps
      refine h.wp_return fun s h => ⟨d, [], h, ?_⟩
      rw [if_neg hawake]
      exact ⟨rfl, rfl⟩
    . next hawake =>
      rw [wp_bind]
      apply wp_post h.wp_waitBusNotBusyI2C
      rintro ret s ⟨rfl, h⟩
      rw [if_neg (by simp)]
      iterate 9
        apply h.wp_update
        clear h
        intro s h
      rw [wp_bind]
      apply wp_post (h.wp_request requestOp_requestTransferI2C)
      intro _ s h
      rw [wp_bind]
      apply wp_post h.wp_commandSleep
      rintro sleep s ⟨hne, h⟩
      split
      . next htimedOut =>
        rw [wp_bind]
        apply wp_post (h.wp_request requestOp_initialiseBus)
        intro _ s h
        refine h.wp_return fun s h => ⟨_, _, h, ?_⟩
        rw [if_pos (by simpa using hawake)]
        exact .inl ⟨rfl, by rw [htimedOut]; rfl⟩
      . next htimedOut =>
        -- nobody wakes the caller up
        have hinterrupted : sleep = .interrupted := by
          cases sleep with
          | interrupted => rfl
          | _ => contradiction
        subst hinterrupted
        rw [wp_bind]
        apply wp_post (h.wp_request (requestOp_toggleBusState .off))
        intro _ s h
        unfold prepareTransferI2C.result
        apply h.wp_device
        intro s h
        rw [if_neg (by simp)]
        apply h.wp_device
        intro s h
        rw [if_pos rfl]
        refine h.wp_return fun s h => ⟨_, _, h, ?_⟩
        rw [if_pos (by simpa using hawake)]
        exact .inr ⟨rfl, rfl⟩
  rw [wp_bind]
  apply wp_post hgo
  rintro ret s ⟨d, results, h, hret⟩
  apply h.wp_reach
  intro s h
  exact h.wp_return fun _ h => ⟨d, results, h, hret⟩

theorem wp_transferI2C (messages : Pointer) (number : Nat) (h : CutOff s₀ d [] s) :
    wp (interrupted H.unmapped) (Guard s₀) (transferI2C messages number) (Ended s₀ d.awake) s := by
  unfold transferI2C transferI2CGated transferI2CGated.go
  rw [wp_bind]
  apply wp_post (h.wp_prepareTransferI2C messages number)
  rintro ret s ⟨d', results, h, hret⟩
  have hne : ret ≠ .notReady := by
    rintro rfl
    simp at hret
  rw [if_pos hne]
  exact h.wp_return fun _ h => ⟨d', results, h, hret⟩

end CutOff

/--
A transfer on a controller that is not mapped changes neither the memory nor the controller, and the
handler neither wakes anyone up nor looks at the messages. The transfer fails with a timeout if the driver
is awake, but succeeds if the sleep is interrupted before.
-/
theorem transferI2C_unmapped {messages : Pointer} {number : Nat}
    {c : Config (system H.unmapped) IOReturn} (hsleeper : s₀.sleeper ≠ .woken)
    (hc : Reachable (system H.unmapped) handleInterrupt s₀ (transferI2C messages number) c) :
    (c.handler = none → c.state.memory = s₀.memory ∧ H.Steps s₀.hw c.state.hw)
      ∧ (∀ op k, c.handler = some (.call op k) →
          CutOff.HarmlessOp op ∧ c.state.memory = s₀.memory ∧ H.Steps s₀.hw c.state.hw)
      ∧ (∀ ret, c.handler = none → c.main = .ret ret →
          ∃ results, sleeps c.state.log = sleeps s₀.log ++ results
            ∧ if s₀.device.awake then
                ret = .timeout ∧ results = [.timedOut] ∨ ret = .success ∧ results = [.interrupted]
              else
                ret = .busy ∧ results = []) := by
  have h₀ : CutOff s₀ s₀.device [] s₀ := ⟨rfl, rfl, .refl, hsleeper, by simp⟩
  have hp := h₀.wp_transferI2C messages number
  have hG : ∀ op s, CutOff.Guard s₀ op s → ∃ d results, CutOff s₀ d results s := fun _ _ h => h
  have hQ : ∀ ret s, CutOff.Ended s₀ s₀.device.awake ret s → ∃ d results, CutOff s₀ d results s :=
    fun _ _ ⟨d, results, h, _⟩ => ⟨d, results, h⟩
  have hhandler : ∀ s, (∃ d results, CutOff s₀ d results s) →
      wp (system H.unmapped) (CutOff.HandlerGuard s₀) handleInterrupt (fun _ _ => True) s := by
    rintro s ⟨d, results, h⟩
    apply wp_post h.wp_handleInterrupt
    intro _ _ _
    trivial
  refine ⟨?_, ?_, ?_⟩
  . intro hidle
    rcases hc.idle hG hQ hhandler hp hidle with ⟨d, results, h⟩
    exact ⟨h.memory, h.hw⟩
  . intro op k hsome
    apply hc.handler_guard hG hQ hhandler hp hsome
  . intro ret hidle hmain
    rcases hc.main_returns hG hQ hhandler hp hidle hmain with ⟨d, results, h, hret⟩
    exact ⟨results, h.slept, hret⟩

/-! The two messages of `pairList` on a controller that is not mapped. -/

def unmappedScript : Script smallFifo.unmapped where
  answer _ _ := 0
  move := smallScript.move
  canRead_answer _ _ := rfl
  step_move := smallScript.step_move

def unmappedPlayer : Player (system smallFifo.unmapped) :=
  unmappedScript.player .timedOut SleepResult.timedOut_ne

def unmappedState : State smallFifo.unmapped where
  device := pairState.device
  memory := pairState.memory
  live := pairState.live
  preparing := none
  sleeper := .running
  log := []
  hw := pairState.hw

theorem exec_unmapped :
    Exec (system smallFifo.unmapped) (transferI2C 7 pairList.length) unmappedState .timeout
      (unmappedPlayer.final (transferI2C 7 pairList.length) unmappedState) := by
  apply unmappedPlayer.exec_final
  decide +kernel

theorem transferI2C_unmapped_pairList :
    ∃ c, Reachable (system smallFifo.unmapped) handleInterrupt unmappedState
        (transferI2C 7 pairList.length) c
      ∧ c.main = .ret .timeout ∧ c.state.memory = unmappedState.memory
      ∧ sleeps c.state.log = [.timedOut] := by
  have hc : Reachable (system smallFifo.unmapped) handleInterrupt unmappedState
      (transferI2C 7 pairList.length) _ := exec_unmapped.reachable .start
  rcases transferI2C_unmapped (by decide) hc with ⟨hidle, -, hreturns⟩
  refine ⟨_, hc, rfl, (hidle rfl).1, ?_⟩
  rcases hreturns .timeout rfl rfl with ⟨results, hlog, hret⟩
  have hresults : results = [.timedOut] := by
    have hawake : unmappedState.device.awake = true := by decide +kernel
    rw [if_pos hawake] at hret
    simpa using hret
  rw [hlog, hresults]
  rfl

end VoodooI2C
