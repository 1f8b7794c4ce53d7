import VoodooI2C.Transfer.Frame

/-!
This module contains the verification of `prepareTransferI2C` while the handler interrupts it at any
point. What holds after the interrupts were enabled differs from property to property, so it is a
parameter: a `Contract` says what a property needs of the stages of a call.
-/

namespace VoodooI2C

open Interaction RegisterFile

variable {H : Hardware}

def Event.Preparatory (e : Event) : Prop :=
  match e with
  | .read reg _ => reg ≠ .dataCmd
  | .write v reg => reg ≠ .dataCmd ∧ (reg = .intrMask → v = 0)
  | _ => False

def Preparatory (log : List Event) : Prop := ∀ e ∈ log, e.Preparatory

theorem Preparatory.concat {log : List Event} {e : Event} (h : Preparatory log)
    (he : e.Preparatory) : Preparatory (log ++ [e]) := by
  intro e' hmem
  simp only [List.mem_append, List.mem_singleton] at hmem
  rcases hmem with hmem | rfl
  . apply h e' hmem
  . apply he

theorem Preparatory.not_mem {log : List Event} {e : Event} (h : Preparatory log)
    (he : ¬ e.Preparatory) : e ∉ log :=
  fun hmem => he (h e hmem)

def BusMessage.target (m : BusMessage) : Word :=
  m.address.setWidth 32 ||| if m.IsTen then tar10bitaddrMaster else 0

def BusDevice.setup (d : BusDevice) (messages : Pointer) (number : Nat) : BusDevice :=
  { d with
    messages := messages
    messageNumber := number
    commandError := 0
    messageWriteIndex := 0
    messageReadIndex := 0
    messageError := 0
    status := statusIdle
    abortSource := 0
    receiveOutstanding := 0 }

def outcome (r : SleepResult) (d : BusDevice) : IOReturn :=
  if r = .timedOut then .timeout
  else if d.messageError ≠ 0 then .error
  else if d.commandError = 0 then .success
  else if d.commandError = errTxAbrt then .error
  else .notReady

/--
What a property needs to know about a call of `prepareTransferI2C` that starts in `s₀`. While no
interrupt is enabled the controller is `calm`, after `IC_CLR_INTR` was read it is `cleared`. Then
`on` holds until the caller is about to return from its sleep, `left r` until it has disabled the
controller, and `done r` from there on.
-/
structure Contract (H : Hardware) [RegisterFile H] (s₀ : State H) (messages : Pointer)
    (number : Nat) where
  calm : H.State → Prop
  cleared : H.State → Prop
  on : State H → Prop
  left : SleepResult → State H → Prop
  done : SleepResult → State H → Prop
  calm_step : ∀ h h', calm h → H.step h h' → calm h'
  calm_read : ∀ reg h v, calm h → reg ≠ .dataCmd → H.canRead reg h v → calm (H.read reg v h)
  calm_write : ∀ v reg h, calm h → reg ≠ .dataCmd → calm (H.write v reg h)
  cleared_clrIntr : ∀ h v, calm h → H.canRead .clrIntr h v → cleared (H.read .clrIntr v h)
  cleared_calm : ∀ h, cleared h → calm h
  cleared_step : ∀ h h', cleared h → H.step h h' → cleared h'
  cleared_read : ∀ reg h v, cleared h → reg ≠ .dataCmd → H.canRead reg h v →
    cleared (H.read reg v h)
  cleared_write : ∀ h, cleared h → cleared (H.write 0 .intrMask h)
  on_start : ∀ s : State H, s.device = s₀.device.setup messages number → s.memory = s₀.memory →
    s.live = s₀.live → s.preparing = some messages → s.sleeper = .running → Preparatory s.log →
    value s.hw .enable = 1 → value s.hw .intrMask = 0 → cleared s.hw →
    on { s with
      hw := H.write intrDefaultMask .intrMask s.hw
      log := s.log ++ [.write intrDefaultMask .intrMask] }
  on_stable : (interrupted H).Stable on
  on_sleep : ∀ s, on s → s.sleeper = .running →
    on { s with sleeper := .asleep, log := s.log ++ [.enterSleep] }
  on_leave : ∀ s r, on s → s.sleeper ≠ .running → State.admits .leaveSleep s r →
    left r { s with sleeper := .running, log := s.log ++ [.sleep r] }
  left_stable : ∀ r, (interrupted H).Stable (left r)
  left_off : ∀ s r, left r s →
    done r { s with hw := H.write 0 .enable s.hw, log := s.log ++ [.write 0 .enable] }
  done_idle : ∀ r, Idle (done r)
  done_return : ∀ s r, done r s → done r { s with preparing := none }
  done_error : ∀ s r, done r s → s.device.commandError = 0 ∨ s.device.commandError = errTxAbrt

namespace Contract

variable [RegisterFile H] {s₀ : State H} {messages : Pointer} {number : Nat}
  (c : Contract H s₀ messages number)

structure Resting (d : BusDevice) (preparing : Option Pointer) (s : State H) : Prop where
  device : s.device = d
  memory : s.memory = s₀.memory
  live : s.live = s₀.live
  preparing : s.preparing = preparing
  sleeper : s.sleeper = .running
  log : Preparatory s.log
  calm : c.calm s.hw
  off : d.awake = true → value s.hw .enable = 0

structure Armed (_ : Contract H s₀ messages number) (K : H.State → Prop) (s : State H) : Prop where
  device : s.device = s₀.device.setup messages number
  memory : s.memory = s₀.memory
  live : s.live = s₀.live
  preparing : s.preparing = some messages
  sleeper : s.sleeper = .running
  log : Preparatory s.log
  mask : value s.hw .intrMask = 0
  hw : K s.hw

def Phase (s : State H) : Prop :=
  (∃ d preparing, c.Resting d preparing s)
    ∨ c.Armed c.calm s
    ∨ c.on s
    ∨ (∃ r, c.left r s)
    ∨ ∃ r, c.done r s

def Guard (op : Op) (s : State H) : Prop :=
  c.Phase s
    ∧ match op with
      | .message q i =>
        s.live = s₀.live ∧ s.preparing = some messages ∧ s.device.messages = messages
          ∧ s.device.messageNumber = number ∧ q = messages ∧ i = 0
      | .readRegister reg => reg ≠ .dataCmd
      | .writeRegister v reg =>
        reg ≠ .dataCmd ∧ (reg = .tar → v = (s₀.memory.message messages 0).target)
      | .load _ | .store _ _ | .reach .readFromBus | .reach .transferMessageToBus => False
      | _ => True

variable {c}

theorem Resting.idle (c : Contract H s₀ messages number) (d : BusDevice)
    (preparing : Option Pointer) : Idle (c.Resting d preparing) where
  step s hw h hstep :=
    { h with
      calm := c.calm_step _ _ h.calm hstep
      off := by
        intro hawake
        rw [value_step hstep (by rfl)]
        apply h.off hawake }
  read s reg v h hreg hv :=
    { h with
      log := h.log.concat hreg
      calm := c.calm_read _ _ _ h.calm hreg hv
      off := by
        intro hawake
        rw [value_read (by rfl)]
        apply h.off hawake }
  off s h hawake := by
    apply h.off
    rw [← h.device, hawake]
  write s v reg h hreg henable hmask :=
    { h with
      log := h.log.concat ⟨hreg, hmask⟩
      calm := c.calm_write _ _ _ h.calm hreg
      off := by
        intro hawake
        by_cases heq : reg = .enable
        . rw [heq, value_write_self (by rfl), henable heq]
        . rw [value_write_ne (by rfl) (Ne.symm heq)]
          apply h.off hawake }

theorem Armed.masked (c : Contract H s₀ messages number) {K : H.State → Prop}
    (hstep : ∀ h h', K h → H.step h h' → K h')
    (hread : ∀ reg h v, K h → reg ≠ .dataCmd → H.canRead reg h v → K (H.read reg v h))
    (hwrite : ∀ h, K h → K (H.write 0 .intrMask h)) :
    Masked (c.Armed K) where
  step s hw h hs :=
    { h with
      mask := by
        rw [value_step hs (by rfl)]
        apply h.mask
      hw := hstep _ _ h.hw hs }
  read s reg v h hreg hv :=
    { h with
      log := h.log.concat hreg
      mask := by
        rw [value_read (by rfl)]
        apply h.mask
      hw := hread _ _ _ h.hw hreg hv }
  mask s h := h.mask
  messageError s h := by
    rw [h.device]
    rfl
  write s h :=
    { h with
      log := h.log.concat ⟨by simp, by simp⟩
      mask := by rw [value_write_self (by rfl)]
      hw := hwrite _ h.hw }

theorem Armed.weaken {K K' : H.State → Prop} {s : State H}
    (h : c.Armed K s) (hK : ∀ h, K h → K' h) :
    c.Armed K' s :=
  { h with hw := hK _ h.hw }

theorem guard_access {A : State H → Prop} (hA : ∀ s, A s → c.Phase s) (op : Op) (s : State H)
    (hop : AccessOp op) (h : A s) : c.Guard op s := by
  refine ⟨hA s h, ?_⟩
  cases op with
  | readRegister reg => apply hop
  | writeRegister v reg => exact ⟨hop.1, fun heq => absurd heq hop.2⟩
  | message _ _ | reach _ => contradiction
  | _ => trivial

theorem Resting.phase {d : BusDevice} {preparing : Option Pointer} {s : State H}
    (h : c.Resting d preparing s) : c.Phase s :=
  .inl ⟨d, preparing, h⟩

theorem Armed.phase {K : H.State → Prop} {s : State H} (h : c.Armed K s)
    (hK : ∀ h, K h → c.calm h) : c.Phase s :=
  .inr (.inl (h.weaken hK))

theorem Resting.guard (c : Contract H s₀ messages number) (d : BusDevice)
    (preparing : Option Pointer) (op : Op) (s : State H) (hop : AccessOp op)
    (h : c.Resting d preparing s) : c.Guard op s := by
  apply guard_access (fun _ h => h.phase) op s hop h

theorem Armed.guard (c : Contract H s₀ messages number) {K : H.State → Prop}
    (hK : ∀ h, K h → c.calm h) (op : Op) (s : State H) (hop : AccessOp op) (h : c.Armed K s) :
    c.Guard op s := by
  apply guard_access (fun _ h => h.phase hK) op s hop h

theorem Resting.wp_message {d : BusDevice} {i : Nat} {s : State H}
    (h : c.Resting d (some messages) s) (hi : i = 0) (hmessages : d.messages = messages)
    (hnumber : d.messageNumber = number) {α : Type} {f : BusMessage → Driver α} {Q : α → State H → Prop}
    (hf : ∀ s', c.Resting d (some messages) s' →
      wp (interrupted H) c.Guard (f (s₀.memory.message messages 0)) Q s') :
    wp (interrupted H) c.Guard (message messages i >>= f) Q s := by
  apply wp_step (Resting.idle c d (some messages)).stable_interrupted h
  intro s' h'
  refine ⟨⟨h'.phase, h'.live, h'.preparing, ?_, ?_, rfl, hi⟩, ?_⟩
  . rw [h'.device, hmessages]
  . rw [h'.device, hnumber]
  . intro m hm
    have hm : m = s'.memory.message messages i := hm
    rw [hm, h'.memory, hi]
    apply hf s' h'

theorem Resting.armed {s : State H}
    (h : c.Resting (s₀.device.setup messages number) (some messages) s) :
    c.Armed c.calm
      { s with hw := H.write 0 .intrMask s.hw, log := s.log ++ [.write 0 .intrMask] } where
  device := h.device
  memory := h.memory
  live := h.live
  preparing := h.preparing
  sleeper := h.sleeper
  log := h.log.concat ⟨by simp, by simp⟩
  mask := value_write_self (by rfl)
  hw := c.calm_write _ _ _ h.calm (by simp)

def SwitchedOn (K : H.State → Prop) (h : H.State) : Prop := K h ∧ value h .enable = 1

theorem Armed.enable {K : H.State → Prop} {s : State H}
    (h : c.Armed K s)
    (hK : K s.hw → c.calm s.hw) :
    c.Armed (SwitchedOn c.calm)
      { s with hw := H.write 1 .enable s.hw, log := s.log ++ [.write 1 .enable] } :=
  { h with
    log := h.log.concat ⟨by simp, by simp⟩
    mask := by
      rw [value_write_ne (by rfl) (by simp)]
      apply h.mask
    hw := ⟨c.calm_write _ _ _ (hK h.hw) (by simp), value_write_self (by rfl)⟩ }

theorem Armed.masked_switchedOn (c : Contract H s₀ messages number) {K : H.State → Prop}
    (hstep : ∀ h h', K h → H.step h h' → K h')
    (hread : ∀ reg h v, K h → reg ≠ .dataCmd → H.canRead reg h v → K (H.read reg v h))
    (hwrite : ∀ h, K h → K (H.write 0 .intrMask h)) :
    Masked (c.Armed (SwitchedOn K)) := by
  apply Armed.masked
  . intro h h' hK hs
    refine ⟨hstep h h' hK.1 hs, ?_⟩
    rw [value_step hs (by rfl), hK.2]
  . intro reg h v hK hreg hv
    refine ⟨hread reg h v hK.1 hreg hv, ?_⟩
    rw [value_read (by rfl), hK.2]
  . intro h hK
    refine ⟨hwrite h hK.1, ?_⟩
    rw [value_write_ne (by rfl) (by simp), hK.2]

theorem Resting.wp_enable {s : State H}
    (h : c.Resting (s₀.device.setup messages number) (some messages) s) :
    wp (interrupted H) c.Guard
      (do
        toggleInterrupts .off
        let _ ← toggleBusState .on
        let _ ← readRegister .enableStatus
        toggleInterrupts .on)
      (fun _ s => c.on s ∧ s.sleeper = .running) s := by
  have hidle := Resting.idle c (s₀.device.setup messages number) (some messages)
  have harmed := Armed.masked c c.calm_step c.calm_read (fun h hh => c.calm_write _ _ h hh (by simp))
  have henabled := Armed.masked_switchedOn c c.calm_step c.calm_read (fun h hh => c.calm_write _ _ h hh (by simp))
  have hcleared := Armed.masked_switchedOn c c.cleared_step c.cleared_read c.cleared_write
  have hG := Resting.guard c (s₀.device.setup messages number) (some messages)
  have hGarmed := Armed.guard c (K := c.calm) fun _ h => h
  have hGenabled := Armed.guard c (K := SwitchedOn c.calm) fun _ h => h.1
  have hGcleared := Armed.guard c (K := SwitchedOn c.cleared) fun _ h => c.cleared_calm _ h.1
  apply wp_main_writeRegister hidle.stable_interrupted h
  intro s₁ h₁
  refine ⟨hG _ _ (by simp [AccessOp]) h₁, ?_⟩
  rw [wp_bind]
  apply wp_post
  . apply wp_toggleBusState hGenabled henabled.stable_interrupted
    . intro s v h hv
      apply henabled.read s _ v h (by simp) hv
    . intro s h
      apply h.enable fun h => h.1
    . apply harmed.stable_interrupted
    . intro s h
      apply hGarmed _ _ (by simp [AccessOp]) h
    . intro s h
      apply h.enable fun h => h
    . apply h₁.armed
  . intro _ s₂ h₂
    apply wp_main_readRegister henabled.stable_interrupted h₂
    intro s₃ h₃
    refine ⟨hGenabled _ _ (by simp [AccessOp]) h₃, ?_⟩
    intro v hv
    unfold toggleInterrupts
    apply wp_main_readRegister henabled.stable_interrupted
      (henabled.read s₃ _ v h₃ (by simp) hv)
    intro s₄ h₄
    refine ⟨hGenabled _ _ (by simp [AccessOp]) h₄, ?_⟩
    intro v hv
    have h₅ := henabled.read s₄ _ v h₄ (by simp) hv
    apply wp_tail
    apply wp_main_writeRegister hcleared.stable_interrupted
      { h₅ with hw := ⟨c.cleared_clrIntr _ _ h₄.hw.1 hv, h₅.hw.2⟩ }
    intro s₆ h₆
    refine ⟨hGcleared _ _ (by simp [AccessOp]) h₆, ?_⟩
    have hon := c.on_start s₆ h₆.device h₆.memory h₆.live h₆.preparing h₆.sleeper h₆.log h₆.hw.2
      h₆.mask h₆.hw.1
    exact wp_main_return (c.on_stable.and stable_running) ⟨hon, h₆.sleeper⟩ (fun _ h => h)

theorem wp_requestTransferI2C {s : State H}
    (h : c.Resting (s₀.device.setup messages number) (some messages) s) :
    wp (interrupted H) c.Guard requestTransferI2C (fun _ s => c.on s ∧ s.sleeper = .running) s := by
  have hidle := Resting.idle c (s₀.device.setup messages number) (some messages)
  have hG := Resting.guard c (s₀.device.setup messages number) (some messages)
  have hstable := hidle.stable_interrupted
  have hdevice : ∀ {α : Type} {f : BusDevice → Driver α} {Q : α → State H → Prop} {s : State H},
      c.Resting (s₀.device.setup messages number) (some messages) s →
      (∀ s', c.Resting (s₀.device.setup messages number) (some messages) s' →
        wp (interrupted H) c.Guard (f (s₀.device.setup messages number)) Q s') →
      wp (interrupted H) c.Guard (device >>= f) Q s := by
    intro α f Q s h hf
    apply wp_main_device hstable h
    intro s' h'
    refine ⟨hG _ _ trivial h', ?_⟩
    rw [h'.device]
    apply hf s' h'
  unfold requestTransferI2C
  apply hdevice h
  intro s₁ h₁
  rw [wp_bind]
  apply wp_post (Q := fun _ => c.Resting (s₀.device.setup messages number) (some messages))
  . unfold requestTransferI2C.disable
    split
    . apply hidle.wp_initialiseBus hG h₁
    . apply hidle.wp_toggleBusState hG h₁
  . intro _ s₂ h₂
    apply wp_main_readRegister hstable h₂
    intro s₃ h₃
    refine ⟨hG _ _ (by simp [AccessOp]) h₃, ?_⟩
    intro orig horig
    apply hdevice (hidle.read _ _ _ h₃ (by simp) horig)
    intro s₄ h₄
    apply h₄.wp_message rfl rfl rfl
    intro s₅ h₅
    dsimp only
    rw [wp_bind]
    apply wp_post (Q := fun _ => c.Resting (s₀.device.setup messages number) (some messages))
    . apply hidle.wp_writeConfiguration hG _ _ h₅
    . intro _ s₆ h₆
      apply hdevice h₆
      intro s₇ h₇
      apply h₇.wp_message rfl rfl rfl
      intro s₈ h₈
      apply wp_main_writeRegister hstable h₈
      intro s₉ h₉
      refine ⟨⟨h₉.phase, by simp, fun _ => rfl⟩, ?_⟩
      have h₁₀ := hidle.write s₉ (s₀.memory.message messages 0).target .tar h₉ (by simp) (by simp)
        (by simp)
      apply h₁₀.wp_enable

def Returns (ret : IOReturn) (s : State H) : Prop :=
  (ret = .busy ∧ ∃ preparing, c.Resting s₀.device preparing s)
    ∨ ∃ r, ret = outcome r s.device ∧ c.done r s

theorem wp_result {s : State H} {r : SleepResult} (hr : r ≠ .timedOut) (h : c.done r s) :
    wp (interrupted H) c.Guard prepareTransferI2C.result (fun ret s => c.Returns ret s) s := by
  have hidle := (c.done_idle r).and_frame (B := fun s' => s'.device = s.device) fun _ _ _ h => h
  have hG : ∀ s', c.done r s' ∧ s'.device = s.device → c.Guard .device s' := by
    intro s' h'
    exact ⟨.inr (.inr (.inr (.inr ⟨r, h'.1⟩))), trivial⟩
  have hreturn : ∀ s' ret, c.done r s' ∧ s'.device = s.device → ret = outcome r s.device →
      wp (interrupted H) c.Guard (pure ret) (fun ret s => c.Returns ret s) s' := by
    intro s' ret h' hret
    refine wp_main_return hidle.stable_interrupted h' ?_
    intro s'' h''
    right
    refine ⟨r, ?_, h''.1⟩
    rw [hret, h''.2]
  unfold prepareTransferI2C.result
  apply wp_main_device hidle.stable_interrupted ⟨h, rfl⟩
  intro s₁ h₁
  refine ⟨hG s₁ h₁, ?_⟩
  split
  . next herror =>
    -- a message was refused
    apply hreturn s₁ _ h₁
    rw [h₁.2] at herror
    unfold outcome
    rw [if_neg hr, if_pos herror]
  . next herror =>
    rw [h₁.2] at herror
    apply wp_main_device hidle.stable_interrupted h₁
    intro s₂ h₂
    refine ⟨hG s₂ h₂, ?_⟩
    split
    . next hcommand =>
      -- nothing has failed
      apply hreturn s₂ _ h₂
      rw [h₂.2] at hcommand
      unfold outcome
      rw [if_neg hr, if_neg herror, if_pos hcommand]
    . next hcommand =>
      rw [h₂.2] at hcommand
      apply wp_main_device hidle.stable_interrupted h₂
      intro s₃ h₃
      refine ⟨hG s₃ h₃, ?_⟩
      split
      . next habort =>
        -- the controller has aborted the transfer
        apply hreturn s₃ _ h₃
        rw [h₃.2] at habort
        unfold outcome
        rw [if_neg hr, if_neg herror, if_neg hcommand, if_pos habort]
      . next habort =>
        apply hreturn s₃ _ h₃
        rw [h₃.2] at habort
        unfold outcome
        rw [if_neg hr, if_neg herror, if_neg hcommand, if_neg habort]

theorem wp_sleep {s : State H} (h : c.on s ∧ s.sleeper = .running) :
    wp (interrupted H) c.Guard
      (do
        let sleep ← commandSleep
        if sleep = .timedOut then
          let _ ← initialiseBus
          return .timeout
        else
          let _ ← toggleBusState .off
          prepareTransferI2C.result)
      (fun ret s => c.Returns ret s) s := by
  unfold commandSleep
  rw [bind_assoc]
  apply wp_step (c.on_stable.and stable_running) h
  intro s₁ h₁
  refine ⟨⟨.inr (.inr (.inl h₁.1)), trivial⟩, ?_⟩
  intro _ _
  have hasleep : c.on (State.next .enterSleep s₁ ()) ∧
      (State.next .enterSleep s₁ ()).sleeper ≠ .running := by
    refine ⟨c.on_sleep s₁ h₁.1 h₁.2, ?_⟩
    simp [State.next]
  apply wp_step (c.on_stable.and stable_sleeping) hasleep
  intro s₂ h₂
  refine ⟨⟨.inr (.inr (.inl h₂.1)), trivial⟩, ?_⟩
  intro r hr
  have hleft := c.on_leave s₂ r h₂.1 h₂.2 hr
  have hG := guard_access (c := c) (A := c.done r) fun s h => .inr (.inr (.inr (.inr ⟨r, h⟩)))
  have hGleft : ∀ s, c.left r s → c.Guard (.writeRegister 0 .enable) s := by
    intro s h
    exact ⟨.inr (.inr (.inr (.inl ⟨r, h⟩))), by simp, by simp⟩
  split
  . next htimeout =>
    -- after the deadline the bus is initialised again
    rw [wp_bind]
    apply wp_post
    . apply (c.done_idle r).wp_initialiseBus_first hG (c.left_stable r) hGleft _ hleft
      intro s h
      apply c.left_off s r h
    . intro _ s₃ h₃
      refine wp_main_return (c.done_idle r).stable_interrupted h₃ ?_
      intro s₄ h₄
      right
      refine ⟨r, ?_, h₄⟩
      unfold outcome
      rw [if_pos htimeout]
  . next htimeout =>
    -- otherwise the controller is only disabled
    rw [wp_bind]
    apply wp_post
    . apply (c.done_idle r).wp_disable hG (c.left_stable r) hGleft _ hleft
      intro s h
      apply c.left_off s r h
    . intro _ s₃ h₃
      apply wp_result htimeout h₃

theorem Resting.wp_update {d : BusDevice} {preparing : Option Pointer} {g : BusDevice → BusDevice}
    {α : Type} {f : Unit → Driver α} {Q : α → State H → Prop} {s : State H}
    (h : c.Resting d preparing s) (hawake : (g d).awake = d.awake)
    (hf : ∀ s', c.Resting (g d) preparing s' → wp (interrupted H) c.Guard (f ()) Q s') :
    wp (interrupted H) c.Guard (update g >>= f) Q s := by
  apply wp_main_update (Resting.idle c d preparing).stable_interrupted h
  intro s' h'
  refine ⟨⟨h'.phase, trivial⟩, ?_⟩
  apply hf
  exact
    { h' with
      device := by rw [← h'.device]
      off := by
        rw [hawake]
        apply h'.off }

theorem wp_setup {s : State H} (h : c.Resting s₀.device (some messages) s) :
    wp (interrupted H) c.Guard (prepareTransferI2C.go messages number)
      (fun ret s => c.Returns ret s) s := by
  have hidle := Resting.idle c s₀.device (some messages)
  have hG := Resting.guard c s₀.device (some messages)
  have hbusy : ∀ s, c.Resting s₀.device (some messages) s →
      wp (interrupted H) c.Guard (pure .busy) (fun ret s => c.Returns ret s) s := by
    intro s h
    refine wp_main_return hidle.stable_interrupted h ?_
    intro s' h'
    left
    exact ⟨rfl, _, h'⟩
  unfold prepareTransferI2C.go
  apply wp_main_device hidle.stable_interrupted h
  intro s₁ h₁
  refine ⟨hG _ _ trivial h₁, ?_⟩
  split
  . apply hbusy s₁ h₁
  . rw [wp_bind]
    apply wp_post (hidle.wp_waitBusNotBusyI2C hG h₁)
    intro _ s₂ h₂
    split
    . apply hbusy s₂ h₂
    . apply h₂.wp_update rfl
      intro s₃ h₃
      apply h₃.wp_update rfl
      intro s₄ h₄
      apply h₄.wp_update rfl
      intro s₅ h₅
      apply h₅.wp_update rfl
      intro s₆ h₆
      apply h₆.wp_update rfl
      intro s₇ h₇
      apply h₇.wp_update rfl
      intro s₈ h₈
      apply h₈.wp_update rfl
      intro s₉ h₉
      apply h₉.wp_update rfl
      intro s₁₀ h₁₀
      apply h₁₀.wp_update rfl
      intro s₁₁ h₁₁
      rw [wp_bind]
      apply wp_post (wp_requestTransferI2C h₁₁)
      intro _ s₁₂ h₁₂
      apply wp_sleep h₁₂

theorem wp_prepareTransferI2C {preparing : Option Pointer} {s : State H}
    (h : c.Resting s₀.device preparing s) :
    wp (interrupted H) c.Guard (prepareTransferI2C messages number)
      (fun ret s => c.Returns ret s ∧ s.preparing = none) s := by
  have hidle := Resting.idle c s₀.device preparing
  unfold prepareTransferI2C
  apply wp_step hidle.stable_interrupted h
  intro s₁ h₁
  refine ⟨⟨h₁.phase, trivial⟩, ?_⟩
  intro _ _
  rw [wp_bind]
  apply wp_post
  . apply wp_setup
    exact { h₁ with preparing := rfl }
  . intro ret s₂ h₂
    rcases h₂ with ⟨hret, preparing', h₂⟩ | ⟨r, hret, h₂⟩
    . apply wp_step (Resting.idle c s₀.device preparing').stable_interrupted h₂
      intro s₃ h₃
      refine ⟨⟨h₃.phase, trivial⟩, ?_⟩
      intro _ _
      have h₄ : c.Resting s₀.device none { s₃ with preparing := none } :=
        { h₃ with preparing := rfl }
      refine wp_main_return (Resting.idle c s₀.device none).stable_interrupted h₄ ?_
      intro s₅ h₅
      refine ⟨?_, h₅.preparing⟩
      left
      exact ⟨hret, _, h₅⟩
    . have hdone := (c.done_idle r).and_frame (B := fun s => s.device = s₂.device) fun _ _ _ h => h
      have hend := hdone.and_frame (B := fun s => s.preparing = none) fun _ _ _ h => h
      apply wp_step hdone.stable_interrupted ⟨h₂, rfl⟩
      intro s₃ h₃
      refine ⟨⟨.inr (.inr (.inr (.inr ⟨r, h₃.1⟩))), trivial⟩, ?_⟩
      intro _ _
      refine wp_main_return hend.stable_interrupted ⟨⟨c.done_return _ _ h₃.1, h₃.2⟩, rfl⟩ ?_
      rintro s₅ ⟨⟨h₅, heq⟩, hnone⟩
      refine ⟨?_, hnone⟩
      right
      refine ⟨r, ?_, h₅⟩
      rw [hret, heq]

theorem Returns.ne_notReady {ret : IOReturn} {s : State H} (h : c.Returns ret s) :
    ret ≠ .notReady := by
  rcases h with ⟨rfl, _⟩ | ⟨r, rfl, h⟩
  . simp
  . unfold outcome
    have := c.done_error s r h
    split
    . simp
    . split
      . simp
      . split
        . simp
        . next hcommand =>
          rw [or_iff_right hcommand] at this
          rw [if_pos this]
          simp

theorem Returns.stable (ret : IOReturn) :
    (interrupted H).Stable fun s => c.Returns ret s ∧ s.preparing = none := by
  rintro s s' ⟨⟨hret, preparing, h⟩ | ⟨r, hret, h⟩, hnone⟩ henv
  . have hidle := Resting.idle c s₀.device preparing
    have h' := hidle.stable_interrupted s s' h henv
    refine ⟨.inl ⟨hret, preparing, h'⟩, ?_⟩
    rw [h'.preparing, ← h.preparing, hnone]
  . have hidle := (c.done_idle r).and_frame
      (B := fun s' => s'.device = s.device ∧ s'.preparing = none) fun _ _ _ h => h
    rcases hidle.stable_interrupted s s' ⟨h, rfl, hnone⟩ henv with ⟨h', heq, hnone'⟩
    refine ⟨.inr ⟨r, ?_, h'⟩, hnone'⟩
    rw [hret, heq]

theorem wp_transferI2C {preparing : Option Pointer} {s : State H}
    (h : c.Resting s₀.device preparing s) :
    wp (interrupted H) c.Guard (transferI2C messages number)
      (fun ret s => c.Returns ret s ∧ s.preparing = none) s := by
  unfold transferI2C transferI2CGated transferI2CGated.go
  rw [wp_bind]
  apply wp_post (wp_prepareTransferI2C h)
  intro ret s' h'
  rw [if_pos h'.1.ne_notReady]
  exact wp_main_return (Returns.stable ret) h' (fun _ h => h)

theorem wp_handleInterrupt {G : Op → State H → Prop}
    (hquiet : ∀ op s, QuietOp op ∨ op = .writeRegister 0 .intrMask → Preparatory s.log →
      c.calm s.hw → G op s)
    (hon : ∀ s, c.on s → wp (system H) G handleInterrupt (fun _ _ => True) s)
    (hleft : ∀ r s, c.left r s → wp (system H) G handleInterrupt (fun _ _ => True) s)
    (hdone : ∀ r op s, QuietOp op → c.done r s → G op s) {s : State H} (h : c.Phase s) :
    wp (system H) G handleInterrupt (fun _ _ => True) s := by
  rcases h with ⟨d, preparing, h⟩ | h | h | ⟨r, h⟩ | ⟨r, h⟩
  . apply wp_post ((Resting.idle c d preparing).wp_handleInterrupt _ h)
    . intro _ _ _
      trivial
    . intro op s hop h
      apply hquiet op s (.inl hop) h.log h.calm
  . have hmasked := Armed.masked c c.calm_step c.calm_read
      (fun h hh => c.calm_write _ _ h hh (by simp))
    apply wp_post (hmasked.wp_handleInterrupt _ h)
    . intro _ _ _
      trivial
    . intro op s hop h
      apply hquiet op s hop h.log h.hw
  . apply hon s h
  . apply hleft r s h
  . apply wp_post ((c.done_idle r).wp_handleInterrupt _ h)
    . intro _ _ _
      trivial
    . intro op s hop h
      apply hdone r op s hop h

theorem Returns.phase {ret : IOReturn} {s : State H} (h : c.Returns ret s) : c.Phase s := by
  rcases h with ⟨_, preparing, h⟩ | ⟨r, _, h⟩
  . apply h.phase
  . exact .inr (.inr (.inr (.inr ⟨r, h⟩)))

end Contract

def AtAccess {α : Type} (c : Config (system H) α) : Prop :=
  match c.handler with
  | none => True
  | some (.ret _) => True
  | some (.call (.readRegister _) _) => True
  | some (.call (.writeRegister _ _) _) => True
  | some (.call _ _) => False

namespace Contract

variable [RegisterFile H] {s₀ : State H} {messages : Pointer} {number : Nat}
  {c : Contract H s₀ messages number} {G : Op → State H → Prop}
  {cfg : Config (system H) IOReturn}

theorem reachable_cases
    (hhandler : ∀ s, c.Phase s → wp (system H) G handleInterrupt (fun _ _ => True) s)
    (h₀ : ∃ preparing, c.Resting s₀.device preparing s₀)
    (hc : Reachable (system H) handleInterrupt s₀ (transferI2C messages number) cfg) :
    c.Phase cfg.state ∨ ∃ op k, cfg.handler = some (.call op k) ∧ G op cfg.state := by
  rcases h₀ with ⟨preparing, h₀⟩
  have hG : ∀ op s, c.Guard op s → c.Phase s := fun _ _ h => h.1
  have hQ : ∀ ret s, c.Returns ret s ∧ s.preparing = none → c.Phase s := fun _ _ h => h.1.phase
  have hp := wp_transferI2C h₀
  match hhd : cfg.handler with
  | none =>
    left
    apply hc.idle hG hQ hhandler hp hhd
  | some (.ret ()) =>
    left
    have hsound := hc.sound hG hQ hhandler hp
    rw [Sound, hhd] at hsound
    apply wp_interrupted_now hG hQ (hsound.2 _ .ret)
  | some (.call op k) =>
    right
    refine ⟨op, k, rfl, ?_⟩
    apply hc.handler_guard hG hQ hhandler hp hhd

theorem reachable_handler {op : Op} {k : op.Ans → Driver Unit}
    (hhandler : ∀ s, c.Phase s → wp (system H) G handleInterrupt (fun _ _ => True) s)
    (h₀ : ∃ preparing, c.Resting s₀.device preparing s₀)
    (hc : Reachable (system H) handleInterrupt s₀ (transferI2C messages number) cfg)
    (hhd : cfg.handler = some (.call op k)) : G op cfg.state := by
  rcases h₀ with ⟨preparing, h₀⟩
  apply hc.handler_guard (fun _ _ h => h.1) (fun _ _ h => h.1.phase) hhandler (wp_transferI2C h₀)
    hhd

theorem reachable_main {op : Op} {k : op.Ans → Driver IOReturn}
    (hhandler : ∀ s, c.Phase s → wp (system H) G handleInterrupt (fun _ _ => True) s)
    (h₀ : ∃ preparing, c.Resting s₀.device preparing s₀)
    (hc : Reachable (system H) handleInterrupt s₀ (transferI2C messages number) cfg)
    (hnone : cfg.handler = none) (hmain : cfg.main = .call op k) : c.Guard op cfg.state := by
  rcases h₀ with ⟨preparing, h₀⟩
  apply hc.main_guard (fun _ _ h => h.1) (fun _ _ h => h.1.phase) hhandler (wp_transferI2C h₀) hnone
    hmain

theorem reachable_atAccess {F : State H → Prop}
    (hhandler : ∀ s, c.Phase s → wp (system H) G handleInterrupt (fun _ _ => True) s)
    (hphase : ∀ s, c.Phase s → F s)
    (hread : ∀ reg s, G (.readRegister reg) s → F s)
    (hwrite : ∀ v reg s, G (.writeRegister v reg) s → F s)
    (h₀ : ∃ preparing, c.Resting s₀.device preparing s₀)
    (hc : Reachable (system H) handleInterrupt s₀ (transferI2C messages number) cfg)
    (haccess : AtAccess cfg) : F cfg.state := by
  rcases reachable_cases hhandler h₀ hc with h | ⟨op, k, hhd, h⟩
  . apply hphase _ h
  . unfold AtAccess at haccess
    rw [hhd] at haccess
    cases op with
    | readRegister reg => apply hread reg _ h
    | writeRegister v reg => apply hwrite v reg _ h
    | _ => contradiction

end Contract

end VoodooI2C
