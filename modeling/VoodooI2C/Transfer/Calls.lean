import VoodooI2C.Transfer.Run
import VoodooI2C.Driver.Play

/-!
This module contains what holds between the calls that the driver gets after `start` has succeeded:
the driver sleeps or the controller is disabled.
-/

namespace VoodooI2C

open Interaction RegisterFile

variable {H : Hardware} [RegisterFile H] {K : H.State → Prop} {A : State H → Prop}
  {G : Op → State H → Prop} {α : Type} {Q : α → State H → Prop} {s : State H}

structure AtRest (K : H.State → Prop) (s : State H) : Prop where
  sleeper : s.sleeper = .running
  calm : K s.hw
  off : s.device.awake = true → value s.hw .enable = 0

structure Disabled (K : H.State → Prop) (s : State H) : Prop where
  sleeper : s.sleeper = .running
  calm : K s.hw
  disabled : value s.hw .enable = 0

structure Asleep (K : H.State → Prop) (s : State H) : Prop where
  sleeper : s.sleeper = .running
  calm : K s.hw
  asleep : s.device.awake = false

theorem Disabled.atRest (h : Disabled K s) : AtRest K s :=
  { h with off := fun _ => h.disabled }

theorem Asleep.atRest (h : Asleep K s) : AtRest K s :=
  { h with
    off := by
      intro hawake
      rw [h.asleep] at hawake
      contradiction }

theorem value_enable_write {reg : Register} {v : Word} {hw : H.State}
    (h : value hw .enable = 0) (henable : reg = .enable → v = 0) :
    value (H.write v reg hw) .enable = 0 := by
  by_cases heq : reg = .enable
  . rw [heq, value_write_self (by rfl), henable heq]
  . rw [value_write_ne (by rfl) (Ne.symm heq), h]

theorem AtRest.idle (hK : Calm K) : Idle (AtRest K) where
  step s hw h hstep :=
    { h with
      calm := hK.step _ _ h.calm hstep
      off := by
        intro hawake
        rw [value_step hstep (by rfl), h.off hawake] }
  read s reg v h hreg hv :=
    { h with
      calm := hK.read _ _ _ h.calm hreg hv
      off := by
        intro hawake
        rw [value_read (by rfl), h.off hawake] }
  off s h := h.off
  write s v reg h hreg henable _ :=
    { h with
      calm := hK.write _ _ _ h.calm hreg
      off := fun hawake => value_enable_write (h.off hawake) henable }

theorem Disabled.idle (hK : Calm K) : Idle (Disabled K) where
  step s hw h hstep :=
    { h with
      calm := hK.step _ _ h.calm hstep
      disabled := by rw [value_step hstep (by rfl), h.disabled] }
  read s reg v h hreg hv :=
    { h with
      calm := hK.read _ _ _ h.calm hreg hv
      disabled := by rw [value_read (by rfl), h.disabled] }
  off s h _ := h.disabled
  write s v reg h hreg henable _ :=
    { h with
      calm := hK.write _ _ _ h.calm hreg
      disabled := value_enable_write h.disabled henable }

theorem Asleep.idle (hK : Calm K) : Idle (Asleep K) where
  step s hw h hstep := { h with calm := hK.step _ _ h.calm hstep }
  read s reg v h hreg hv := { h with calm := hK.read _ _ _ h.calm hreg hv }
  off s h hawake := by
    rw [h.asleep] at hawake
    contradiction
  write s v reg h hreg _ _ := { h with calm := hK.write _ _ _ h.calm hreg }

def CallOp (op : Op) : Prop :=
  match op with
  | .readRegister reg | .writeRegister _ reg => reg ≠ .dataCmd
  | .message _ _ | .load _ | .store _ _ | .reach _ => False
  | _ => True

theorem AccessOp.callOp {op : Op} (h : AccessOp op) : CallOp op := by
  cases op with
  | readRegister reg => apply h
  | writeRegister v reg => apply h.1
  | message _ _ | reach _ => contradiction
  | _ => trivial

section Interrupt

variable (hG : ∀ op s, CallOp op → A s → G op s)
include hG

theorem Off.wp_startI2CInterrupt (hA : Off A)
    (hregistered : ∀ s b, A s → A { s with device := { s.device with isInterruptRegistered := b } })
    (h : A s) : wp (interrupted H) G startI2CInterrupt (fun _ => A) s := by
  have hstable := hA.stable_interrupted
  unfold startI2CInterrupt
  apply wp_main_device hstable h
  intro s₁ h₁
  refine ⟨hG _ _ trivial h₁, ?_⟩
  split
  . exact wp_main_return hstable h₁ (fun _ h => h)
  . apply wp_step hstable h₁
    intro s₂ h₂
    refine ⟨hG _ _ trivial h₂, ?_⟩
    intro ret _
    split
    . apply wp_step hstable h₂
      intro s₃ h₃
      refine ⟨hG _ _ trivial h₃, ?_⟩
      intro _ _
      apply wp_main_update hstable h₃
      intro s₄ h₄
      refine ⟨hG _ _ trivial h₄, ?_⟩
      exact wp_main_return hstable (hregistered s₄ true h₄) (fun _ h => h)
    . exact wp_main_return hstable h₂ (fun _ h => h)

theorem Off.wp_stopI2CInterrupt (hA : Off A)
    (hregistered : ∀ s b, A s → A { s with device := { s.device with isInterruptRegistered := b } })
    (h : A s) : wp (interrupted H) G stopI2CInterrupt (fun _ => A) s := by
  have hstable := hA.stable_interrupted
  unfold stopI2CInterrupt
  apply wp_main_device hstable h
  intro s₁ h₁
  refine ⟨hG _ _ trivial h₁, ?_⟩
  split
  . apply wp_step hstable h₁
    intro s₂ h₂
    refine ⟨hG _ _ trivial h₂, ?_⟩
    intro _ _
    apply wp_step hstable h₂
    intro s₃ h₃
    refine ⟨hG _ _ trivial h₃, ?_⟩
    intro _ _
    apply wp_tail
    apply wp_main_update hstable h₃
    intro s₄ h₄
    refine ⟨hG _ _ trivial h₄, ?_⟩
    exact wp_main_return hstable (hregistered s₄ false h₄) (fun _ h => h)
  . exact wp_main_return hstable h₁ (fun _ h => h)

end Interrupt

theorem AtRest.asleep {d : BusDevice} (h : AtRest K s) (hd : d.awake = false) :
    Asleep K { s with device := d } where
  sleeper := h.sleeper
  calm := h.calm
  asleep := hd

section Calls

variable (hK : Calm K) (hG : ∀ op s, CallOp op → AtRest K s → G op s)
include hK hG

theorem wp_powerOff (h : AtRest K s) :
    wp (interrupted H) G setPowerState.powerOff (fun _ => AtRest K) s := by
  have hidle := Asleep.idle hK
  have hGasleep : ∀ op s, CallOp op → Asleep K s → G op s := fun op s hop h => hG op s hop h.atRest
  unfold setPowerState.powerOff
  apply wp_main_update (AtRest.idle hK).stable_interrupted h
  intro s₁ h₁
  refine ⟨hG _ _ trivial h₁, ?_⟩
  rw [wp_bind]
  apply wp_post (hidle.wp_toggleBusState (fun op s hop => hGasleep op s hop.callOp) (h₁.asleep rfl))
  intro _ s₂ h₂
  apply wp_post (hidle.wp_stopI2CInterrupt hGasleep _ h₂)
  . intro _ s h
    apply h.atRest
  . intro s b h
    exact { h with }

theorem wp_powerOn (h : Asleep K s) :
    wp (interrupted H) G setPowerState.powerOn (fun _ => AtRest K) s := by
  have hasleep := Asleep.idle hK
  have hdisabled := Disabled.idle hK
  have hGasleep : ∀ op s, AccessOp op → Asleep K s → G op s :=
    fun op s hop h => hG op s hop.callOp h.atRest
  have hGdisabled : ∀ op s, CallOp op → Disabled K s → G op s :=
    fun op s hop h => hG op s hop h.atRest
  unfold setPowerState.powerOn
  rw [wp_bind]
  apply wp_post (Q := fun _ => Asleep K)
  . apply wp_toggleBusState hGasleep hasleep.stable_interrupted
    . intro s v h hv
      apply hasleep.read s _ v h (by simp) hv
    . intro s h
      exact { h with calm := hK.write _ _ _ h.calm (by simp) }
    . apply hasleep.stable_interrupted
    . intro s h
      apply hGasleep _ _ (by simp [AccessOp]) h
    . intro s h
      exact { h with calm := hK.write _ _ _ h.calm (by simp) }
    . apply h
  . intro _ s₁ h₁
    rw [wp_bind]
    apply wp_post (Q := fun _ => Disabled K)
    . apply hdisabled.wp_initialiseBus_first (fun op s hop => hGdisabled op s hop.callOp)
        hasleep.stable_interrupted _ _ h₁
      . intro s h
        apply hGasleep _ _ (by simp [AccessOp]) h
      . intro s h
        exact { h with
          calm := hK.off _
          disabled := value_write_self (by rfl) }
    . intro _ s₂ h₂
      unfold toggleInterrupts
      apply hdisabled.wp_writeRegister (fun op s hop => hGdisabled op s hop.callOp) (by simp)
        (by simp) (by simp) h₂
      intro s₃ h₃
      apply wp_main_update hdisabled.stable_interrupted h₃
      intro s₄ h₄
      refine ⟨hGdisabled _ _ trivial h₄, ?_⟩
      have h₅ : Disabled K { s₄ with device := { s₄.device with awake := true } } := { h₄ with }
      rw [wp_bind]
      apply wp_post (hdisabled.wp_startI2CInterrupt hGdisabled _ h₅)
      . intro _ s h
        refine wp_main_return hdisabled.stable_interrupted h ?_
        intro s h
        apply h.atRest
      . intro s b h
        exact { h with }

theorem wp_setPowerState {whichState : Nat} {forThis : Bool} (h : AtRest K s) :
    wp (interrupted H) G (setPowerState whichState forThis) (fun _ => AtRest K) s := by
  have hstable := (AtRest.idle hK).stable_interrupted
  unfold setPowerState
  split
  . exact wp_main_return hstable h (fun _ h => h)
  . rw [wp_bind]
    apply wp_post (Q := fun _ => AtRest K)
    . unfold setPowerState.change
      apply wp_main_device hstable h
      intro s₁ h₁
      refine ⟨hG _ _ trivial h₁, ?_⟩
      split
      . split
        . apply wp_powerOff hK hG h₁
        . exact wp_main_return hstable h₁ (fun _ h => h)
      . split
        . next hawake =>
          apply wp_powerOn hK hG
          apply h₁.asleep (d := s₁.device)
          simpa using hawake
        . exact wp_main_return hstable h₁ (fun _ h => h)
    . intro _ s h
      exact wp_main_return hstable h (fun _ h => h)

omit hG

def CallPhase (s : State H) : Prop :=
  AtRest K s
    ∨ ∃ s₀ p list hlive hmessage,
        list ≠ [] ∧ (orderContract s₀ p list hlive hmessage hK).Phase s

/--
Messages and their bytes are accessed, and the functions that do it are reached, only while a call of
`prepareTransferI2C` is in progress whose list is the current one.
-/
def Alive (op : Op) (s : State H) : Prop :=
  match op with
  | .message q i =>
    s.live = some (q, s.device.messageNumber) ∧ s.preparing = some q ∧ s.device.messages = q
      ∧ i < s.device.messageNumber
  | .reach .readFromBus | .reach .transferMessageToBus =>
    ∃ n, s.live = some (s.device.messages, n) ∧ s.preparing = some s.device.messages
  | .load a =>
    ∃ q n i, s.live = some (q, n) ∧ s.preparing = some q ∧ i < n
      ∧ ¬ (s.memory.message q i).IsRead ∧ a ∈ (s.memory.message q i).addresses
  | .store a _ =>
    ∃ q n i, s.live = some (q, n) ∧ s.preparing = some q ∧ i < n
      ∧ (s.memory.message q i).IsRead ∧ a ∈ (s.memory.message q i).addresses
  | _ => True

def CallGuard (op : Op) (s : State H) : Prop := CallPhase hK s ∧ Alive op s

omit hK [RegisterFile H] in
theorem CallOp.alive {op : Op} (hop : CallOp op) : Alive op s := by
  cases op with
  | message _ _ | load _ | store _ _ | reach _ => contradiction
  | _ => trivial

omit hK [RegisterFile H] in
theorem Session.exists_message {p : Pointer} {list : List BusMessage} {m : BusMessage}
    (h : Session p list s) (hm : m ∈ list) :
    ∃ i, s.live = some (p, list.length) ∧ s.preparing = some p ∧ i < list.length
      ∧ s.memory.message p i = m := by
  rcases h with ⟨hlive, hpreparing, _, _, hmessage⟩
  rcases List.getElem?_of_mem hm with ⟨i, hi⟩
  rcases List.getElem?_eq_some_iff.mp hi with ⟨hlt, _⟩
  exact ⟨i, hlive, hpreparing, hlt, hmessage i m hi⟩

theorem AtRest.callGuard (op : Op) (s : State H) (hop : CallOp op) (h : AtRest K s) :
    CallGuard hK op s :=
  ⟨.inl h, hop.alive⟩

theorem AtRest.resting {p : Pointer} {list : List BusMessage} {memory : Memory}
    (hmessage : ∀ i m, list[i]? = some m → memory.message p i = m) (h : AtRest K s) :
    let s₀ : State H := State.next (.beginTransfer p list) s memory
    (orderContract s₀ p list rfl hmessage hK).Resting s₀.device s₀.preparing s₀ := by
  constructor
  . rfl
  . rfl
  . rfl
  . rfl
  . apply h.sleeper
  . intro e he
    contradiction
  . apply h.calm
  . apply h.off

theorem wp_call_transferI2C {p : Pointer} {list : List BusMessage} (hne : list ≠ [])
    (h : AtRest K s) :
    wp (interrupted H) (CallGuard hK) (Call.transferI2C p list).run (fun _ => AtRest K) s := by
  have hstable := (AtRest.idle hK).stable_interrupted
  unfold Call.run
  apply wp_step hstable h
  intro s₁ h₁
  refine ⟨AtRest.callGuard hK _ _ trivial h₁, ?_⟩
  intro memory hmessage
  have hresting := h₁.resting hK hmessage
  let s₂ : State H := State.next (.beginTransfer p list) s₁ memory
  let c := orderContract s₂ p list rfl hmessage hK
  rw [wp_bind]
  apply wp_mono (c.wp_transferI2C hresting)
  . intro op s h
    refine ⟨.inr ⟨s₂, p, list, rfl, hmessage, hne, h.1⟩, ?_⟩
    cases op with
    | message q i =>
      rcases h.2 with ⟨hlive, hpreparing, hmessages, hnumber, rfl, rfl⟩
      refine ⟨?_, hpreparing, hmessages, ?_⟩
      . rw [hlive, hnumber]
        rfl
      . rw [hnumber]
        apply List.length_pos_iff_ne_nil.mpr hne
    | load _ | store _ _ => exact absurd h.2 id
    | reach point =>
      cases point with
      | prepareTransferI2C _ | prepareTransferI2CReturns => trivial
      | _ => exact absurd h.2 id
    | _ => trivial
  . rintro ret s ⟨h, _⟩
    have hrest : AtRest K s := by
      rcases h with ⟨_, preparing, h⟩ | ⟨r, _, h⟩
      . exact
          { sleeper := h.sleeper
            calm := h.calm
            off := by
              rw [h.device]
              apply h.off }
      . exact
          { sleeper := h.sleeper
            calm := h.calm
            off := fun _ => h.disabled }
    apply wp_tail
    apply wp_step hstable hrest
    intro s₃ h₃
    refine ⟨AtRest.callGuard hK _ _ trivial h₃, ?_⟩
    intro _ _
    have h₄ : AtRest K { s₃ with live := none } := { h₃ with }
    exact wp_main_return hstable h₄ (fun _ h => h)

theorem wp_call_losePower (h : AtRest K s) :
    wp (interrupted H) (CallGuard hK) Call.losePower.run (fun _ => AtRest K) s := by
  have hstable := (AtRest.idle hK).stable_interrupted
  unfold Call.run
  apply wp_main_device hstable h
  intro s₁ h₁
  refine ⟨AtRest.callGuard hK _ _ trivial h₁, ?_⟩
  split
  . next hawake =>
    have hasleep : Asleep K s₁ := { h₁ with asleep := by simpa using hawake }
    apply wp_step (Asleep.idle hK).stable_interrupted hasleep
    intro s₂ h₂
    refine ⟨AtRest.callGuard hK _ _ trivial h₂.atRest, ?_⟩
    intro f _
    have h₃ : Asleep K { s₂ with hw := H.reset f s₂.hw } :=
      { h₂ with calm := hK.reset _ _ h₂.calm }
    refine wp_main_return (Asleep.idle hK).stable_interrupted h₃ ?_
    intro s h
    apply h.atRest
  . exact wp_main_return hstable h₁ (fun _ h => h)

theorem wp_call {c : Call} (hvalid : ∀ p list, c = .transferI2C p list → list ≠ [])
    (h : AtRest K s) : wp (interrupted H) (CallGuard hK) c.run (fun _ => AtRest K) s := by
  cases c with
  | transferI2C p list => apply wp_call_transferI2C hK (hvalid p list rfl) h
  | setPowerState whichState forThis =>
    unfold Call.run
    rw [wp_bind]
    apply wp_post (wp_setPowerState hK (AtRest.callGuard hK) h)
    intro _ s h
    exact wp_main_return (AtRest.idle hK).stable_interrupted h (fun _ h => h)
  | losePower => apply wp_call_losePower hK h

theorem wp_runCalls {calls : List Call}
    (hvalid : ∀ p list, .transferI2C p list ∈ calls → list ≠ []) (h : AtRest K s) :
    wp (interrupted H) (CallGuard hK) (runCalls calls) (fun _ => AtRest K) s := by
  induction calls generalizing s with
  | nil => exact wp_main_return (AtRest.idle hK).stable_interrupted h (fun _ h => h)
  | cons c calls ih =>
    unfold runCalls
    rw [wp_bind]
    apply wp_post
    . apply wp_call hK _ h
      intro p list heq
      apply hvalid p list
      simp [heq]
    . intro _ s h
      apply ih _ h
      intro p list hmem
      apply hvalid p list
      simp [hmem]

theorem CallPhase.wp_handleInterrupt (h : CallPhase hK s) :
    wp (system H) Alive handleInterrupt (fun _ _ => True) s := by
  rcases h with h | ⟨s₀, p, list, hlive, hmessage, hne, h⟩
  . apply wp_post ((AtRest.idle hK).wp_handleInterrupt _ h)
    . intro _ _ _
      trivial
    . intro op s hop _
      cases op with
      | message _ _ | load _ | store _ _ | reach _ => contradiction
      | _ => trivial
  . apply wp_mono (orderContract_wp_handleInterrupt h)
    . intro op s h
      cases op with
      | message q i =>
        rcases h.2 with ⟨hlive, hpreparing, hmessages, hnumber, rfl, hi⟩
        refine ⟨?_, hpreparing, hmessages, ?_⟩
        . rw [hlive, hnumber]
        . rw [hnumber]
          apply hi hne
      | load a =>
        rcases h.2 with ⟨hsession, m, hm, hread, ha⟩
        rcases hsession.exists_message hm with ⟨i, hlive, hpreparing, hlt, rfl⟩
        exact ⟨p, list.length, i, hlive, hpreparing, hlt, hread, ha⟩
      | store a b =>
        rcases h.2 with ⟨hsession, m, hm, hread, ha⟩
        rcases hsession.exists_message hm with ⟨i, hlive, hpreparing, hlt, rfl⟩
        exact ⟨p, list.length, i, hlive, hpreparing, hlt, hread, ha⟩
      | reach point =>
        cases point with
        | readFromBus | transferMessageToBus =>
          rcases h.2 with ⟨hlive, hpreparing, hmessages⟩
          refine ⟨list.length, ?_, ?_⟩
          . rw [hmessages, hlive]
          . rw [hmessages, hpreparing]
        | _ => trivial
      | _ => trivial
    . intro _ _ _
      trivial

end Calls

def Started (s : State H) : Prop :=
  ∃ s₀ : State H, s₀.sleeper = .running ∧ Exec (interrupted H) startController s₀ true s

/--
The states that any number of calls leave after `start` has succeeded.
-/
def Between (s : State H) : Prop :=
  ∃ (s₀ : State H) (calls : List Call), Started s₀
    ∧ (∀ p list, .transferI2C p list ∈ calls → list ≠ [])
    ∧ Exec (interrupted H) (runCalls calls) s₀ () s

theorem wp_startController (hK : Calm K) (h : s.sleeper = .running) :
    wp (interrupted H) (fun _ _ => True) startController (fun ret s => ret = true → AtRest K s)
      s := by
  have hdisabled := Disabled.idle hK
  have hrunning := stable_running (H := H)
  have hupdate : ∀ (s : State H) d, s.sleeper = .running →
      ({ s with device := d } : State H).sleeper = .running := fun _ _ h => h
  unfold startController
  apply wp_main_update hrunning h
  intro s₁ h₁
  refine ⟨trivial, ?_⟩
  apply wp_main_readRegister hrunning (hupdate s₁ _ h₁)
  intro s₂ h₂
  refine ⟨trivial, ?_⟩
  intro con _
  have h₂' : ({ s₂ with
      hw := H.read .con con s₂.hw
      log := s₂.log ++ [.read .con con] } : State H).sleeper = .running := h₂
  rw [wp_bind]
  apply wp_post (Q := fun _ (s : State H) => s.sleeper = .running)
  . unfold startController.keepBusClear
    split
    . apply wp_tail
      apply wp_main_update hrunning h₂'
      intro s₃ h₃
      refine ⟨trivial, ?_⟩
      exact wp_main_return hrunning (hupdate s₃ _ h₃) (fun _ h => h)
    . exact wp_main_return hrunning h₂' (fun _ h => h)
  . intro _ s₄ h₄
    rw [wp_bind]
    apply wp_post (Q := fun _ => Disabled K)
    . apply hdisabled.wp_initialiseBus_first (by simp) hrunning (by simp) _ h₄
      intro s h
      exact { sleeper := h, calm := hK.off _, disabled := value_write_self (by rfl) }
    . intro _ s₅ h₅
      split
      . refine wp_main_return hdisabled.stable_interrupted h₅ ?_
        intro _ _ h
        contradiction
      . unfold toggleInterrupts
        apply hdisabled.wp_writeRegister (by simp) (by simp) (by simp) (by simp) h₅
        intro s₆ h₆
        rw [wp_bind]
        apply wp_post (hdisabled.wp_startI2CInterrupt (by simp) _ h₆)
        . intro _ s₇ h₇
          split
          . refine wp_main_return hdisabled.stable_interrupted h₇ ?_
            intro _ _ h
            contradiction
          . refine wp_main_return hdisabled.stable_interrupted h₇ ?_
            intro s h _
            apply h.atRest
        . intro s b h
          exact { h with }

theorem Started.atRest (hK : Calm K) (h : Started s) : AtRest K s := by
  rcases h with ⟨s₀, hrunning, hexec⟩
  exact hexec.wp (wp_startController hK hrunning) rfl

theorem Between.atRest (hK : Calm K) (h : Between s) : AtRest K s := by
  rcases h with ⟨s₀, calls, hstarted, hvalid, hexec⟩
  exact hexec.wp (wp_runCalls hK hvalid (hstarted.atRest hK))

theorem started_readyState : Started readyState := by
  refine ⟨bootState, rfl, ?_⟩
  apply Exec.interrupted
  apply timeoutPlayer.exec_final
  decide +kernel

theorem between_readyState : Between readyState :=
  ⟨readyState, [], started_readyState, by simp, .ret⟩

/--
The list of messages is accessed while it is alive only, and only inside of it.
-/
theorem runCalls_alive {calls : List Call} {cfg : Config (system H) Unit} (h₀ : Started s)
    (hvalid : ∀ p list, .transferI2C p list ∈ calls → list ≠ [])
    (hc : Reachable (system H) handleInterrupt s (runCalls calls) cfg) :
    (∀ op k, cfg.handler = some (.call op k) → Alive op cfg.state)
      ∧ ∀ op k, cfg.handler = none → cfg.main = .call op k → Alive op cfg.state := by
  have hrest := h₀.atRest Calm.true
  have hp := wp_runCalls Calm.true hvalid hrest
  have hG : ∀ op s, CallGuard (H := H) Calm.true op s → CallPhase Calm.true s := fun _ _ h => h.1
  have hQ : ∀ (_ : Unit) (s : State H), AtRest _ s → CallPhase Calm.true s := fun _ _ h => .inl h
  have hhandler := fun (s : State H) => CallPhase.wp_handleInterrupt (s := s) Calm.true
  constructor
  . intro op k hhd
    apply hc.handler_guard hG hQ hhandler hp hhd
  . intro op k hnone hmain
    apply (hc.main_guard hG hQ hhandler hp hnone hmain).2

theorem runCalls_alive_pair :
    let calls : List Call := [.transferI2C 7 pairList, .setPowerState 0 true]
    let cfg := timeoutPlayer.play handleInterrupt pairTurns ⟨readyState, runCalls calls, none⟩
    (∀ op k, cfg.handler = some (.call op k) → Alive op cfg.state)
      ∧ ∀ op k, cfg.handler = none → cfg.main = .call op k → Alive op cfg.state := by
  apply runCalls_alive started_readyState _ (timeoutPlayer.reachable_play handleInterrupt _)
  intro p list hmem
  simp only [List.mem_cons, Call.transferI2C.injEq, reduceCtorEq, List.not_mem_nil, or_false] at hmem
  rw [hmem.2]
  decide

end VoodooI2C
