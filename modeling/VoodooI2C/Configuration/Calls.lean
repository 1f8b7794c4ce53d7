import VoodooI2C.Configuration.Request
import VoodooI2C.Transfer.Calls

/-!
This module contains what is known about the configuration registers over any number of calls.
-/

namespace VoodooI2C

open Interaction RegisterFile

variable {H : Hardware} [RegisterFile H] {s : State H} {c : Register → Word → Prop}
  {d : BusDevice} {messages : Pointer → Nat → BusMessage}

structure Configured (s : State H) : Prop where
  bit : s.device.busConfig &&& con10bitaddrMaster = 0
  enable : value s.hw .enable = 0
  known : ∀ reg, reg.Holds → configuration s.device reg (value s.hw reg)

namespace Configured

theorem isOff : Off (H := H) Configured where
  step s hw h hstep :=
    { h with
      enable := by
        rw [value_step hstep (by rfl)]
        apply h.enable
      known := by
        intro reg hreg
        rw [value_step hstep hreg]
        apply h.known reg hreg }
  read s reg v h _ _ :=
    { h with
      enable := by
        rw [value_read (by rfl)]
        apply h.enable
      known := by
        intro reg' hreg'
        rw [value_read hreg']
        apply h.known reg' hreg' }
  off s h _ := h.enable

theorem mask (h : Configured s) :
    Configured { s with hw := H.write 0 .intrMask s.hw, log := s.log ++ [.write 0 .intrMask] } :=
  { h with
    enable := by
      rw [value_write_ne (by rfl) (by simp)]
      apply h.enable
    known := by
      intro reg hreg
      by_cases heq : reg = .intrMask
      . rw [heq]
        trivial
      . rw [value_write_ne hreg heq]
        apply h.known reg hreg }

theorem kept (h : Configured s) : Kept (configuration s.device) s.device s.memory.message s where
  device := rfl
  message := rfl
  off _ := h.enable
  known := h.known

theorem ready (h : Configured s) : Ready s :=
  h.kept.ready h.bit fun _ _ hv _ _ => hv

theorem guard (op : Op) (s : State H) (hop : CallOp op) (h : Configured s) : StagedGuard op s := by
  refine ⟨.inl ⟨_, _, _, h.kept⟩, ?_⟩
  rintro v rfl
  exact hop rfl

end Configured

theorem Kept.configured
    (h : Kept (Function.update (configuration s.device) .enable (· = 0)) s.device s.memory.message s)
    (hbit : s.device.busConfig &&& con10bitaddrMaster = 0) : Configured s where
  bit := hbit
  enable := by
    have := h.known .enable (by rfl)
    rw [Function.update_self] at this
    apply this
  known := by
    intro reg hreg
    have := h.known reg hreg
    by_cases heq : reg = .enable
    . rw [heq]
      trivial
    . rw [Function.update_of_ne heq] at this
      apply this

def Sleeping (s : State H) : Prop :=
  s.device.busConfig &&& con10bitaddrMaster = 0 ∧ s.device.awake = false

namespace Sleeping

theorem idle : Idle (H := H) Sleeping where
  step s hw h hstep := h
  read s reg v h _ _ := h
  off s h hawake := by
    rw [h.2] at hawake
    contradiction
  write s v reg h _ _ _ := h

theorem kept (h : Sleeping s) : Kept (fun _ _ => True) s.device s.memory.message s where
  device := rfl
  message := rfl
  off hawake := by
    rw [h.2] at hawake
    contradiction
  known _ _ := trivial

theorem ready (h : Sleeping s) : Ready s := by
  apply h.kept.ready h.1
  intro _ _ _ _ hawake
  rw [h.2] at hawake
  contradiction

theorem guard (op : Op) (s : State H) (hop : CallOp op) (h : Sleeping s) : StagedGuard op s := by
  refine ⟨.inl ⟨_, _, _, h.kept⟩, ?_⟩
  rintro v rfl
  exact hop rfl

end Sleeping

section Power

variable [Prompt H]

theorem Sleeping.wp_initialiseBus (h : Sleeping s) :
    wp (interrupted H) StagedGuard initialiseBus
      (fun _ s => Configured s) s := by
  apply wp_post
  . apply wp_initialiseBus_first (c := fun _ _ _ => True)
      (D := fun d _ => d.busConfig &&& con10bitaddrMaster = 0)
      Kept.guard Sleeping.idle.stable_interrupted _ _ (fun s h => h.1) (fun _ _ h => h) h
    . intro s h
      apply Sleeping.guard _ _ _ h
      simp [CallOp]
    . intro s h
      exact h.kept.write 0 .enable _ (by simp) (by simp)
  . rintro _ s₁ ⟨_, hbit, h₁⟩
    apply h₁.configured hbit

omit [Prompt H] in
theorem Ready.wp_powerOff (h : Ready s) :
    wp (interrupted H) StagedGuard setPowerState.powerOff (fun _ => Ready) s := by
  rcases h with ⟨hbit, h⟩
  have hidle := Sleeping.idle (H := H)
  have hbit' : ∀ s' : State H, Kept (fun reg v => s.device.awake = true → configuration s.device reg v)
      s.device s.memory.message s' → s'.device.busConfig &&& con10bitaddrMaster = 0 := by
    intro s' h'
    rw [h'.device]
    apply hbit
  unfold setPowerState.powerOff
  apply wp_main_update (Kept.isOff _ _ _).stable_interrupted h
  intro s₁ h₁
  refine ⟨⟨.inl ⟨_, _, _, h₁⟩, by simp⟩, ?_⟩
  have h₂ : Sleeping { s₁ with device := { s₁.device with awake := false } } := ⟨hbit' s₁ h₁, rfl⟩
  rw [wp_bind]
  apply wp_post
  . apply hidle.wp_toggleBusState (fun op s hop h => Sleeping.guard op s hop.callOp h) h₂
  . intro _ s₃ h₃
    apply wp_post (hidle.wp_stopI2CInterrupt Sleeping.guard _ h₃)
    . intro _ s h
      apply h.ready
    . intro s b h
      apply h

theorem Sleeping.wp_powerOn (h : Sleeping s) :
    wp (interrupted H) StagedGuard setPowerState.powerOn (fun _ => Ready) s := by
  have hidle := Sleeping.idle (H := H)
  have hoff := Configured.isOff (H := H)
  have hG : ∀ op s, AccessOp op → Sleeping (H := H) s → StagedGuard op s :=
    fun op s hop h => Sleeping.guard op s hop.callOp h
  unfold setPowerState.powerOn
  rw [wp_bind]
  apply wp_post
  . apply wp_toggleBusState hG hidle.stable_interrupted
    . intro s v h _
      apply h
    . intro s h
      apply h
    . apply hidle.stable_interrupted
    . intro s h
      apply hG _ _ (by simp [AccessOp]) h
    . intro s h
      apply h
    . apply h
  . intro _ s₁ h₁
    rw [wp_bind]
    apply wp_post h₁.wp_initialiseBus
    intro _ s₂ h₂
    unfold toggleInterrupts
    apply wp_main_writeRegister hoff.stable_interrupted h₂
    intro s₃ h₃
    refine ⟨Configured.guard _ _ (by simp [CallOp]) h₃, ?_⟩
    apply wp_main_update hoff.stable_interrupted h₃.mask
    intro s₄ h₄
    refine ⟨Configured.guard _ _ trivial h₄, ?_⟩
    have h₅ : Configured { s₄ with device := { s₄.device with awake := true } } := { h₄ with }
    rw [wp_bind]
    apply wp_post (hoff.wp_startI2CInterrupt Configured.guard _ h₅)
    . intro _ s h
      refine wp_main_return hoff.stable_interrupted h ?_
      intro s h
      apply h.ready
    . intro s b h
      exact { h with }

theorem Ready.wp_setPowerState {whichState : Nat} {forThis : Bool} (h : Ready s) :
    wp (interrupted H) StagedGuard (setPowerState whichState forThis) (fun _ => Ready) s := by
  have hreturn : ∀ {α : Type} (a : α) s, Ready (H := H) s →
      wp (interrupted H) StagedGuard (pure a) (fun _ => Ready) s := by
    intro α a s h
    apply h.2.wp_return h.1 fun reg v hv _ => hv
  unfold setPowerState
  split
  . apply hreturn _ _ h
  . rw [wp_bind]
    apply wp_post (Q := fun _ => Ready)
    . unfold setPowerState.change
      apply wp_main_device (Kept.isOff _ _ _).stable_interrupted h.2
      intro s₁ h₁
      refine ⟨⟨.inl ⟨_, _, _, h₁⟩, by simp⟩, ?_⟩
      have hs₁ : Ready s₁ := h₁.ready h.1 fun reg v hv _ => hv
      split
      . split
        . apply hs₁.wp_powerOff
        . apply hreturn _ _ hs₁
      . split
        . next hawake =>
          apply Sleeping.wp_powerOn
          exact ⟨hs₁.1, by simpa using hawake⟩
        . apply hreturn _ _ hs₁
    . intro _ s₁ h₁
      apply hreturn _ _ h₁

theorem Ready.wp_call {call : Call} (h : Ready s) :
    wp (interrupted H) StagedGuard call.run (fun _ => Ready) s := by
  cases call with
  | transferI2C p list =>
    unfold Call.run
    apply wp_step (Kept.isOff _ _ _).stable_interrupted h.2
    intro s₁ h₁
    refine ⟨⟨.inl ⟨_, _, _, h₁⟩, by simp⟩, ?_⟩
    intro memory _
    have hs₁ : Ready (State.next (.beginTransfer p list) s₁ memory) := by
      have := h₁.ready h.1 fun reg v hv _ => hv
      refine ⟨this.1, ?_⟩
      exact { this.2 with message := rfl }
    rw [wp_bind]
    apply wp_post hs₁.wp_transferI2CGated_go
    intro _ s₂ h₂
    apply wp_tail
    apply wp_step (Kept.isOff _ _ _).stable_interrupted h₂.2
    intro s₃ h₃
    refine ⟨⟨.inl ⟨_, _, _, h₃⟩, by simp⟩, ?_⟩
    intro _ _
    have h₄ : Kept (fun reg v => s₂.device.awake = true → configuration s₂.device reg v) s₂.device
        s₂.memory.message { s₃ with live := none } := { h₃ with }
    apply h₄.wp_return h₂.1 fun reg v hv _ => hv
  | setPowerState whichState forThis =>
    unfold Call.run
    rw [wp_bind]
    apply wp_post h.wp_setPowerState
    intro _ s h
    apply h.2.wp_return h.1 fun reg v hv _ => hv
  | losePower =>
    unfold Call.run
    apply wp_main_device (Kept.isOff _ _ _).stable_interrupted h.2
    intro s₁ h₁
    refine ⟨⟨.inl ⟨_, _, _, h₁⟩, by simp⟩, ?_⟩
    have hs₁ : Ready s₁ := h₁.ready h.1 fun reg v hv _ => hv
    split
    . next hawake =>
      have hsleeping : Sleeping s₁ := ⟨hs₁.1, by simpa using hawake⟩
      apply wp_step Sleeping.idle.stable_interrupted hsleeping
      intro s₂ h₂
      refine ⟨Sleeping.guard _ _ trivial h₂, ?_⟩
      intro f _
      have h₃ : Sleeping { s₂ with hw := H.reset f s₂.hw } := h₂
      refine wp_main_return Sleeping.idle.stable_interrupted h₃ ?_
      intro s h
      apply h.ready
    . apply hs₁.2.wp_return hs₁.1 fun reg v hv _ => hv

theorem Ready.wp_runCalls {calls : List Call} (h : Ready s) :
    wp (interrupted H) StagedGuard (runCalls calls) (fun _ => Ready) s := by
  induction calls generalizing s with
  | nil => apply h.2.wp_return h.1 fun reg v hv _ => hv
  | cons call calls ih =>
    unfold runCalls
    rw [wp_bind]
    apply wp_post h.wp_call
    intro _ s h
    apply ih h

end Power

omit [RegisterFile H] in
theorem stable_busConfig :
    (interrupted H).Stable fun s => s.device.busConfig &&& con10bitaddrMaster = 0 := by
  apply stable_of_handlerOp
  . rintro s _ h ⟨hw, _, rfl⟩
    apply h
  . intro op s r hop h _
    cases op with
    | update f =>
      simp only [State.next]
      rw [(fixed_eq (hop s.device)).2.1]
      apply h
    | reach point => cases point <;> apply h
    | _ => apply h

theorem wp_startController_ready [Prompt H] :
    wp (interrupted H) (fun _ _ => True) startController (fun ret s => ret = true → Ready s) s := by
  have hbit := stable_busConfig (H := H)
  have htrue : (interrupted H).Stable fun _ => True := fun _ _ _ _ => trivial
  unfold startController
  apply wp_main_update htrue trivial
  intro s₁ _
  refine ⟨trivial, ?_⟩
  have h₁ : ∀ d : BusDevice, d.busConfig = conMaster ||| conSlaveDisable ||| conRestartEn ||| conSpeedFast →
      d.busConfig &&& con10bitaddrMaster = 0 := by
    intro d hd
    rw [hd]
    decide
  apply wp_main_readRegister hbit (h₁ _ rfl)
  intro s₂ h₂
  refine ⟨trivial, ?_⟩
  intro con _
  rw [wp_bind]
  apply wp_post (Q := fun _ (s : State H) => s.device.busConfig &&& con10bitaddrMaster = 0)
  . unfold startController.keepBusClear
    split
    . apply wp_tail
      apply wp_main_update hbit
      . apply h₂
      . intro s₃ h₃
        refine ⟨trivial, ?_⟩
        have h₄ : (s₃.device.busConfig ||| conBusClearCtrl) &&& con10bitaddrMaster = 0 := by
          rw [or_and_of_disjoint (by decide)]
          apply h₃
        exact wp_main_return hbit h₄ (fun _ h => h)
    . refine wp_main_return hbit ?_ (fun _ h => h)
      apply h₂
  . intro _ s₅ h₅
    rw [wp_bind]
    apply wp_post
    . apply wp_initialiseBus_first (c := fun _ _ _ => True)
        (D := fun d _ => d.busConfig &&& con10bitaddrMaster = 0)
        (fun _ _ _ _ _ _ _ => trivial) hbit (fun _ _ => trivial) _ (fun _ h => h)
        (fun _ _ h => h) h₅
      intro s _
      refine ⟨rfl, rfl, fun _ => value_write_self (by rfl), ?_⟩
      intro reg _
      by_cases heq : reg = .enable
      . subst heq
        rw [Function.update_self]
        apply value_write_self
        rfl
      . rw [Function.update_of_ne heq]
        trivial
    . rintro ret s₆ ⟨rfl, hs₆, h₆⟩
      have hoff := Configured.isOff (H := H)
      rw [if_neg (by simp)]
      unfold toggleInterrupts
      apply wp_main_writeRegister hoff.stable_interrupted (h₆.configured hs₆)
      intro s₇ h₇
      refine ⟨trivial, ?_⟩
      rw [wp_bind]
      apply wp_post (hoff.wp_startI2CInterrupt (fun _ _ _ _ => trivial) _ h₇.mask)
      . intro _ s₈ h₈
        split
        . refine wp_main_return hoff.stable_interrupted h₈ ?_
          intro _ _ h
          contradiction
        . refine wp_main_return hoff.stable_interrupted h₈ ?_
          intro s h _
          apply h.ready
      . intro s b h
        exact { h with }

section Claim

def DataGuard (op : Op) (s : State H) : Prop :=
  ∀ v, op = .writeRegister v .dataCmd → Programmed s

theorem Staged.wp_handleInterrupt (h : Staged s) :
    wp (system H) DataGuard handleInterrupt (fun _ _ => True) s := by
  rcases h with ⟨c, d, messages, h⟩ | ⟨d, messages, h⟩ | h
  . apply wp_post ((Kept.isOff c d messages).wp_handleInterrupt _ h)
    . intro _ _ _
      trivial
    . rintro _ s hop _ v rfl
      contradiction
  . apply wp_post ((Blocked.masked d messages).wp_handleInterrupt _ h)
    . intro _ _ _
      trivial
    . rintro _ s (hop | hop) _ v rfl
      . contradiction
      . simp at hop
  . apply wp_post
    . apply wp_performs performs_handleInterrupt Programmed.stable _ _ h
      . intro op s _ h v _
        apply h
      . intro op s r hop h _
        apply h.next hop
    . intro _ _ _
      trivial

variable [Prompt H] {calls : List Call} {cfg : Config (system H) Unit}

/--
Whenever a command is written the controller is programmed for the current list of messages.
-/
theorem runCalls_programmed (h₀ : Started s)
    (hc : Reachable (system H) handleInterrupt s (runCalls calls) cfg) :
    (∀ v k, cfg.handler = some (.call (.writeRegister v .dataCmd) k) →
      let d := cfg.state.device
      let m := cfg.state.memory.message d.messages 0
      value cfg.state.hw .con
          = (if m.IsTen then d.busConfig ||| con10bitaddrMaster else d.busConfig)
        ∧ d.busConfig &&& con10bitaddrMaster = 0
        ∧ value cfg.state.hw .tar
          = (m.address.setWidth 32 ||| if m.IsTen then tar10bitaddrMaster else 0)
        ∧ (m.address < 0x1000 → (value cfg.state.hw .tar &&& tar10bitaddrMaster ≠ 0 ↔ m.IsTen))
        ∧ value cfg.state.hw .ssSclHcnt = d.acpiConfig.ssHcnt
        ∧ value cfg.state.hw .ssSclLcnt = d.acpiConfig.ssLcnt
        ∧ value cfg.state.hw .fsSclHcnt = d.acpiConfig.fsHcnt
        ∧ value cfg.state.hw .fsSclLcnt = d.acpiConfig.fsLcnt
        ∧ (d.acpiConfig.sdaHold ≠ 0 → value cfg.state.hw .sdaHold = d.acpiConfig.sdaHold)
        ∧ value cfg.state.hw .txTl = d.transactionFifoDepth / 2
        ∧ value cfg.state.hw .rxTl = 0)
      ∧ ∀ v k, cfg.handler = none → cfg.main ≠ .call (.writeRegister v .dataCmd) k := by
  have hready : Ready s := by
    rcases h₀ with ⟨s₀, _, hexec⟩
    apply hexec.wp wp_startController_ready rfl
  have hp : wp (interrupted H) StagedGuard (runCalls calls) (fun _ => Ready) s := hready.wp_runCalls
  have hG : ∀ op s, StagedGuard (H := H) op s → Staged s := fun _ _ h => h.1
  have hQ : ∀ (_ : Unit) s, Ready (H := H) s → Staged s := fun _ _ h => .inl ⟨_, _, _, h.2⟩
  have hhandler := fun (s : State H) (h : Staged s) => h.wp_handleInterrupt
  constructor
  . intro v k hhd
    have hguard := hc.handler_guard hG hQ hhandler hp hhd
    have h := hguard v rfl
    have hknown := h.known
    refine ⟨hknown .con rfl, h.bit, hknown .tar rfl, ?_, hknown .ssSclHcnt rfl, hknown .ssSclLcnt rfl,
      hknown .fsSclHcnt rfl, hknown .fsSclLcnt rfl, hknown .sdaHold rfl, hknown .txTl rfl,
      hknown .rxTl rfl⟩
    intro haddress
    have htar := hknown .tar rfl
    unfold programming at htar
    dsimp only at htar
    rw [htar]
    apply tar_and_ten haddress
  . intro v k hnone hmain
    apply (hc.main_guard hG hQ hhandler hp hnone hmain).2 v rfl

end Claim

/-! The first command of a transfer after a loss of power. -/

def promptPlayer : Player (system smallFifo.prompt) :=
  (smallScript.prompt fun _ => BitVec.and_assoc _ _ _).player .timedOut SleepResult.timedOut_ne

def promptState : State smallFifo.prompt :=
  promptPlayer.final startController
    { bootState with hw := bootState.hw }

def wakeCalls : List Call :=
  [.setPowerState 0 true, .losePower, .setPowerState 1 true, .transferI2C 7 pairList]

def commandRun : Config (system smallFifo.prompt) Unit :=
  promptPlayer.play handleInterrupt (List.replicate 59 .main ++ List.replicate 17 .handlerStep)
    ⟨promptState, runCalls wakeCalls, none⟩

def writesCommand {α : Type} (cfg : Config (system H) α) : Bool :=
  match cfg.handler with
  | some (.call (.writeRegister _ .dataCmd) _) => true
  | _ => false

omit [RegisterFile H] in
theorem exists_of_writesCommand {α : Type} {cfg : Config (system H) α} (h : writesCommand cfg) :
    ∃ v k, cfg.handler = some (.call (.writeRegister v .dataCmd) k) := by
  unfold writesCommand at h
  split at h
  . next v k heq => exact ⟨v, k, heq⟩
  . contradiction

theorem runCalls_programmed_wake :
    let d := commandRun.state.device
    value commandRun.state.hw .tar = 0x10
      ∧ value commandRun.state.hw .con = d.busConfig
      ∧ value commandRun.state.hw .txTl = d.transactionFifoDepth / 2 := by
  have hstarted : Started promptState := by
    refine ⟨{ bootState with hw := bootState.hw }, rfl, ?_⟩
    apply Exec.interrupted
    apply promptPlayer.exec_final
    decide +kernel
  have hcommand : writesCommand commandRun := by decide +kernel
  rcases exists_of_writesCommand hcommand with ⟨v, k, hhd⟩
  have hreachable : Reachable (system smallFifo.prompt) handleInterrupt promptState
      (runCalls wakeCalls) commandRun := by
    apply promptPlayer.reachable_play
  have h := (runCalls_programmed hstarted hreachable).1 v k hhd
  have hmessage : commandRun.state.memory.message commandRun.state.device.messages 0
      = ⟨0x10, 0x41, 0, 2⟩ := by decide +kernel
  refine ⟨?_, ?_, h.2.2.2.2.2.2.2.2.2.1⟩
  . refine h.2.2.1.trans ?_
    rw [hmessage]
    rfl
  . refine h.1.trans ?_
    rw [hmessage]
    rfl

end VoodooI2C
