import VoodooI2C.Configuration.Transfer

/-!
This module contains the verification of the configuration that `prepareTransferI2C` gives to the
controller.
-/

namespace VoodooI2C

open Interaction RegisterFile

variable {H : Hardware} [RegisterFile H] {α : Type} {Q : α → State H → Prop} {s : State H}
  {c : Register → Word → Prop} {d : BusDevice} {messages : Pointer → Nat → BusMessage}
  {m : BusMessage}

structure BusConfiguration where
  acpiConfig : BusConfig
  busConfig : Word
  transactionFifoDepth : Word
  awake : Bool

def BusDevice.settings (d : BusDevice) : BusConfiguration where
  acpiConfig := d.acpiConfig
  busConfig := d.busConfig
  transactionFifoDepth := d.transactionFifoDepth
  awake := d.awake

omit [RegisterFile H] in
theorem configuration_settings {d' : BusDevice} (h : d'.settings = d.settings) :
    configuration d' = configuration d := by
  simp only [BusDevice.settings, BusConfiguration.mk.injEq] at h
  funext reg v
  unfold configuration
  rw [h.1, h.2.1, h.2.2.1]

namespace Kept

theorem current (h : Kept c d messages s) : Kept c s.device s.memory.message s where
  device := rfl
  message := rfl
  off := by
    rw [h.device]
    apply h.off
  known := h.known

theorem learn (reg : Register) (v : Word) (h : Kept c d messages s) (hv : value s.hw reg = v) :
    Kept (Function.update c reg (· = v)) d messages s :=
  { h with
    known := by
      intro reg' hreg'
      by_cases heq : reg' = reg
      . rw [heq, Function.update_self, hv]
      . rw [Function.update_of_ne heq]
        apply h.known reg' hreg' }

theorem wp_message {p : Pointer} {i : Nat} {f : BusMessage → Driver α} (h : Kept c d messages s)
    (hf : ∀ s', Kept c d messages s' → wp (interrupted H) StagedGuard (f (messages p i)) Q s') :
    wp (interrupted H) StagedGuard (VoodooI2C.message p i >>= f) Q s := by
  apply wp_step (isOff c d messages).stable_interrupted h
  intro s' h'
  refine ⟨⟨.inl ⟨c, d, messages, h'⟩, by simp⟩, ?_⟩
  intro m hm
  have hm : m = s'.memory.message p i := hm
  rw [hm, h'.message]
  apply hf s' h'

theorem wp_update {c : Register → Word → Prop} {g : BusDevice → BusDevice} {f : Unit → Driver α} (h : Kept c d messages s)
    (hg : (g d).settings = d.settings)
    (hf : ∀ d' s', d' = g d → d'.settings = d.settings → Kept c d' messages s' →
      wp (interrupted H) StagedGuard (f ()) Q s') :
    wp (interrupted H) StagedGuard (VoodooI2C.update g >>= f) Q s := by
  apply wp_main_update (isOff c d messages).stable_interrupted h
  intro s' h'
  refine ⟨⟨.inl ⟨c, d, messages, h'⟩, by simp⟩, ?_⟩
  have hawake : (g d).awake = d.awake := congrArg BusConfiguration.awake hg
  apply hf (g d)
  . rfl
  . apply hg
  . exact
      { h' with
        device := by rw [← h'.device]
        off := by
          rw [hawake]
          apply h'.off }

theorem blocked (h : Kept c d messages s) (hbit : d.busConfig &&& con10bitaddrMaster = 0)
    (herror : d.messageError = 0)
    (hc : ∀ reg v, c reg v → programming d (messages d.messages 0) reg v) :
    Blocked d messages
      { s with hw := H.write 0 .intrMask s.hw, log := s.log ++ [.write 0 .intrMask] } where
  device := h.device
  message := h.message
  bit := hbit
  messageError := herror
  mask := value_write_self (by rfl)
  known := by
    intro reg hreg
    by_cases heq : reg = .intrMask
    . rw [heq]
      trivial
    . rw [value_write_ne hreg heq]
      apply hc
      apply h.known reg hreg

omit [RegisterFile H] in
theorem programming_con {orig : Word} (horig : configuration d .con orig) :
    programming d m .con
      (if m.IsTen then orig ||| con10bitaddrMaster else orig &&& ~~~con10bitaddrMaster) := by
  have horig' : orig &&& ~~~con10bitaddrMaster = d.busConfig := horig
  unfold programming
  dsimp only
  rw [← horig', and_not_or_cancel]

theorem wp_writeConfiguration {orig i2cConfiguration : Word} (h : Kept c d messages s)
    (hnew : programming d m .con i2cConfiguration) (hcon : ∀ v, c .con v → v = orig)
    (hc : ∀ reg v, c reg v → configuration d reg v) :
    wp (interrupted H) StagedGuard
      (requestTransferI2C.writeConfiguration orig i2cConfiguration)
      (fun _ => Kept (fun reg v => reg ≠ .tar → programming d m reg v) d messages) s := by
  have hprogramming : ∀ reg v, c reg v → reg ≠ .con → reg ≠ .tar → programming d m reg v := by
    intro reg v hv hcon htar
    cases reg with
    | con | tar => contradiction
    | _ => apply hc _ _ hv
  unfold requestTransferI2C.writeConfiguration
  split
  . apply wp_tail
    apply wp_main_writeRegister (isOff _ _ _).stable_interrupted h
    intro s₁ h₁
    refine ⟨h₁.guard _ _ _ _ _ (by simp [AccessOp]), ?_⟩
    have h₁ := h₁.write i2cConfiguration .con (s₁.log ++ [.write i2cConfiguration .con]) (by simp)
      (by simp)
    refine wp_main_return (isOff _ _ _).stable_interrupted h₁ ?_
    intro s₂ h₂
    apply h₂.mono
    intro reg v hv htar
    by_cases heq : reg = .con
    . subst heq
      rw [Function.update_self] at hv
      rw [hv]
      apply hnew
    . rw [Function.update_of_ne heq] at hv
      apply hprogramming reg v hv heq htar
  . next hsame =>
    refine wp_main_return (isOff _ _ _).stable_interrupted h ?_
    intro s₁ h₁
    apply h₁.mono
    intro reg v hv htar
    by_cases heq : reg = .con
    . subst heq
      rw [Decidable.not_not] at hsame
      rw [hcon v hv, ← hsame]
      apply hnew
    . apply hprogramming reg v hv heq htar

variable [Prompt H]

theorem wp_disable (h : Kept c d messages s) (hc : ∀ reg v, c reg v → configuration d reg v)
    (hbit : d.busConfig &&& con10bitaddrMaster = 0) (accessIntrMaskWorkaround : Bool) :
    wp (interrupted H) StagedGuard (requestTransferI2C.disable accessIntrMaskWorkaround)
      (fun _ => Kept (configuration d) d messages) s := by
  have hstable := (isOff (H := H) c d messages).stable_interrupted
  have hguard : ∀ s : State H, Kept c d messages s → StagedGuard (.writeRegister 0 .enable) s := by
    intro s h
    apply h.guard
    simp [AccessOp]
  have hwrite : ∀ s : State H, Kept c d messages s → Kept (Function.update c .enable (· = 0)) s.device
      s.memory.message
      { s with hw := H.write 0 .enable s.hw, log := s.log ++ [.write 0 .enable] } := by
    intro s h
    exact h.current.write 0 .enable _ (by simp) (by simp)
  have hd : ∀ s : State H, Kept c d messages s → s.device = d ∧ s.memory.message = messages :=
    fun s h => ⟨h.device, h.message⟩
  unfold requestTransferI2C.disable
  split
  . apply wp_post
    . apply wp_initialiseBus_first (c := fun _ => c) (D := fun d' messages' => d' = d ∧ messages' = messages)
        Kept.guard hstable hguard hwrite hd _ h
      rintro _ _ ⟨rfl, rfl⟩
      apply hbit
    . rintro _ s' ⟨_, ⟨hdevice, hmessage⟩, h'⟩
      rw [hdevice, hmessage] at h'
      apply h'.mono
      intro reg v hv
      by_cases heq : reg = .enable
      . rw [heq]
        trivial
      . rw [Function.update_of_ne heq] at hv
        apply hv
  . apply wp_post
    . apply VoodooI2C.wp_disable (c := fun _ => c) (D := fun d' messages' => d' = d ∧ messages' = messages)
        Kept.guard hstable hguard hwrite hd h
    . rintro _ s' ⟨_, ⟨hdevice, hmessage⟩, h'⟩
      rw [hdevice, hmessage] at h'
      apply h'.mono
      intro reg v hv
      by_cases heq : reg = .enable
      . rw [heq]
        trivial
      . rw [Function.update_of_ne heq] at hv
        apply hc reg v hv

theorem wp_requestTransferI2C (h : Kept c d messages s)
    (hc : ∀ reg v, c reg v → configuration d reg v)
    (hbit : d.busConfig &&& con10bitaddrMaster = 0) (herror : d.messageError = 0)
    (hindex : d.messageWriteIndex = 0) :
    wp (interrupted H) StagedGuard requestTransferI2C (fun _ => Programmed) s := by
  have hG : ∀ c op (s : State H), AccessOp op → Kept c d messages s → StagedGuard op s :=
    fun c op s hop h => h.guard _ _ _ _ _ hop
  have hblocked := Blocked.masked (H := H) d messages
  unfold requestTransferI2C
  apply h.wp_device (hG _)
  intro s₁ h₁
  rw [wp_bind]
  apply wp_post (h₁.wp_disable hc hbit _)
  intro _ s₂ h₂
  apply wp_main_readRegister (isOff _ _ _).stable_interrupted h₂
  intro s₃ h₃
  refine ⟨hG _ _ _ (by simp [AccessOp]) h₃, ?_⟩
  intro orig horig
  have hvalue : orig = value s₃.hw .con := canRead_holds horig (by rfl)
  have hconfiguration := h₃.known .con (by rfl)
  rw [← hvalue] at hconfiguration
  have h₄ := ((isOff _ _ _).read s₃ _ orig h₃ (by simp) horig).learn .con orig
    (by rw [hvalue]; apply value_read (by rfl))
  apply h₄.wp_device (hG _)
  intro s₅ h₅
  rw [hindex]
  apply h₅.wp_message
  intro s₆ h₆
  dsimp only
  rw [wp_bind]
  apply wp_post
  . -- `IC_CON` is written if its bit for 10-bit addresses changes
    apply h₆.wp_writeConfiguration (programming_con hconfiguration)
    . intro v hv
      rw [Function.update_self] at hv
      apply hv
    . intro reg v hv
      by_cases heq : reg = .con
      . subst heq
        rw [Function.update_self] at hv
        rw [hv]
        apply hconfiguration
      . rw [Function.update_of_ne heq] at hv
        apply hv
  . intro _ s₇ h₇
    apply h₇.wp_device (hG _)
    intro s₈ h₈
    rw [hindex]
    apply h₈.wp_message
    intro s₉ h₉
    apply wp_main_writeRegister (isOff _ _ _).stable_interrupted h₉
    intro s₁₀ h₁₀
    refine ⟨⟨.inl ⟨_, _, _, h₁₀⟩, by simp⟩, ?_⟩
    apply wp_main_writeRegister (isOff _ _ _).stable_interrupted
      (h₁₀.write _ .tar _ (by simp) (by simp))
    intro s₁₁ h₁₁
    refine ⟨hG _ _ _ (by simp [AccessOp]) h₁₁, ?_⟩
    -- `IC_TAR` is the last register to be written
    have hprogramming : ∀ reg v, Function.update
        (fun reg v => reg ≠ .tar → programming d (messages d.messages 0) reg v) .tar
        (· = (messages d.messages 0).address.setWidth 32
          ||| if (messages d.messages 0).IsTen then tar10bitaddrMaster else 0) reg v →
        programming d (messages d.messages 0) reg v := by
      intro reg v hv
      by_cases heq : reg = .tar
      . subst heq
        rw [Function.update_self] at hv
        apply hv
      . rw [Function.update_of_ne heq] at hv
        apply hv heq
    rw [wp_bind]
    apply wp_post
    . -- the interrupts are masked while the controller is being enabled
      apply wp_toggleBusState Blocked.guard hblocked.stable_interrupted
      . intro s v h hv
        apply hblocked.read s _ v h (by simp) hv
      . intro s h
        apply h.enable
      . apply hblocked.stable_interrupted
      . intro s h
        apply h.guard
        simp [AccessOp]
      . intro s h
        apply h.enable
      . apply h₁₁.blocked hbit herror hprogramming
    . intro _ s₁₂ h₁₂
      apply wp_main_readRegister hblocked.stable_interrupted h₁₂
      intro s₁₃ h₁₃
      refine ⟨h₁₃.guard _ _ (by simp [AccessOp]), ?_⟩
      intro v hv
      unfold toggleInterrupts
      apply wp_main_readRegister hblocked.stable_interrupted
        (hblocked.read s₁₃ _ v h₁₃ (by simp) hv)
      intro s₁₄ h₁₄
      refine ⟨h₁₄.guard _ _ (by simp [AccessOp]), ?_⟩
      intro v hv
      apply wp_tail
      apply wp_main_writeRegister hblocked.stable_interrupted
        (hblocked.read s₁₄ _ v h₁₄ (by simp) hv)
      intro s₁₅ h₁₅
      refine ⟨h₁₅.guard _ _ (by simp [AccessOp]), ?_⟩
      exact wp_main_return Programmed.stable_interrupted h₁₅.programmed (fun _ h => h)

end Kept

def Ready (s : State H) : Prop :=
  s.device.busConfig &&& con10bitaddrMaster = 0
    ∧ Kept (fun reg v => s.device.awake = true → configuration s.device reg v) s.device
        s.memory.message s

theorem Kept.ready (h : Kept c d messages s) (hbit : d.busConfig &&& con10bitaddrMaster = 0)
    (hc : ∀ reg v, c reg v → reg ≠ .enable → d.awake = true → configuration d reg v) : Ready s := by
  rw [← h.device] at hbit hc
  refine ⟨hbit, ?_⟩
  apply h.current.mono
  intro reg v hv hawake
  by_cases heq : reg = .enable
  . rw [heq]
    trivial
  . apply hc reg v hv heq hawake

theorem Kept.ready_configuration (h : Kept (Function.update (configuration d) .enable (· = 0)) d messages s)
    (hbit : d.busConfig &&& con10bitaddrMaster = 0) : Ready s := by
  apply h.ready hbit
  intro reg v hv heq _
  rw [Function.update_of_ne heq] at hv
  apply hv

section Prepare

theorem Kept.wp_return {a : α} (h : Kept c d messages s)
    (hbit : d.busConfig &&& con10bitaddrMaster = 0)
    (hc : ∀ reg v, c reg v → reg ≠ .enable → d.awake = true → configuration d reg v) :
    wp (interrupted H) StagedGuard (pure a) (fun _ => Ready) s := by
  refine wp_main_return (Kept.isOff _ _ _).stable_interrupted h ?_
  intro s h
  apply h.ready hbit hc

theorem Kept.wp_result (h : Kept (Function.update (configuration d) .enable (· = 0)) d messages s)
    (hbit : d.busConfig &&& con10bitaddrMaster = 0) :
    wp (interrupted H) StagedGuard prepareTransferI2C.result (fun _ => Ready) s := by
  have hG : ∀ op (s : State H), AccessOp op →
      Kept (Function.update (configuration d) .enable (· = 0)) d messages s → StagedGuard op s :=
    fun op s hop h => h.guard _ _ _ _ _ hop
  have hreturn : ∀ (s : State H) (ret : IOReturn),
      Kept (Function.update (configuration d) .enable (· = 0)) d messages s →
      wp (interrupted H) StagedGuard (pure ret) (fun _ => Ready) s := by
    intro s ret h
    refine wp_main_return (Kept.isOff _ _ _).stable_interrupted h ?_
    intro s h
    apply h.ready_configuration hbit
  unfold prepareTransferI2C.result
  apply h.wp_device hG
  intro s₁ h₁
  split
  . apply hreturn s₁ _ h₁
  . apply h₁.wp_device hG
    intro s₂ h₂
    split
    . apply hreturn s₂ _ h₂
    . apply h₂.wp_device hG
      intro s₃ h₃
      split
      . apply hreturn s₃ _ h₃
      . apply hreturn s₃ _ h₃

variable [Prompt H]

theorem Programmed.wp_sleep (h : Programmed s) :
    wp (interrupted H) StagedGuard
      (do
        let sleep ← commandSleep
        if sleep = .timedOut then
          let _ ← initialiseBus
          return .timeout
        else
          let _ ← toggleBusState .off
          prepareTransferI2C.result : Driver IOReturn)
      (fun _ => Ready) s := by
  have hstable := Programmed.stable_interrupted (H := H)
  have hguard : ∀ s : State H, Programmed s → StagedGuard (.writeRegister 0 .enable) s := by
    intro s h
    apply h.guard
    simp
  unfold commandSleep
  rw [bind_assoc]
  apply wp_step hstable h
  intro s₁ h₁
  refine ⟨h₁.guard _ _ (by simp), ?_⟩
  intro _ _
  have h₂ : Programmed { s₁ with sleeper := .asleep, log := s₁.log ++ [.enterSleep] } :=
    { h₁ with }
  apply wp_step hstable h₂
  intro s₃ h₃
  refine ⟨h₃.guard _ _ (by simp), ?_⟩
  intro r _
  have h₄ : Programmed { s₃ with sleeper := .running, log := s₃.log ++ [.sleep r] } :=
    { h₃ with }
  split
  . rw [wp_bind]
    apply wp_post
    . apply wp_initialiseBus_first (D := fun d _ => d.busConfig &&& con10bitaddrMaster = 0)
        Kept.guard hstable hguard (fun s h => h.disabled) (fun s h => h.bit) (fun _ _ h => h) h₄
    . rintro _ s₅ ⟨_, hbit, h₅⟩
      refine wp_main_return (Kept.isOff _ _ _).stable_interrupted h₅ ?_
      intro s h
      apply h.ready_configuration hbit
  . rw [wp_bind]
    apply wp_post
    . apply wp_disable (D := fun d _ => d.busConfig &&& con10bitaddrMaster = 0)
        Kept.guard hstable hguard (fun s h => h.disabled) (fun s h => h.bit) h₄
    . rintro _ s₅ ⟨_, hbit, h₅⟩
      apply h₅.wp_result hbit

theorem Ready.wp_prepareTransferI2C {p : Pointer} {number : Nat} (h : Ready s) :
    wp (interrupted H) StagedGuard (prepareTransferI2C p number) (fun _ => Ready) s := by
  rcases h with ⟨hbit, h⟩
  generalize s.device = d at hbit h
  generalize s.memory.message = messages at h
  have hG : ∀ op (s : State H), AccessOp op →
      Kept (fun reg v => d.awake = true → configuration d reg v) d messages s →
        StagedGuard op s :=
    fun op s hop h => h.guard _ _ _ _ _ hop
  unfold prepareTransferI2C
  apply wp_step (Kept.isOff _ _ _).stable_interrupted h
  intro s₁ h₁
  refine ⟨⟨.inl ⟨_, _, _, h₁⟩, by simp⟩, ?_⟩
  intro _ _
  have h₂ : Kept (fun reg v => d.awake = true → configuration d reg v) d messages
      { s₁ with preparing := some p } := { h₁ with }
  rw [wp_bind]
  apply wp_post (Q := fun _ => Ready)
  . unfold prepareTransferI2C.go
    apply h₂.wp_device hG
    intro s₃ h₃
    split
    . -- the driver sleeps
      apply h₃.wp_return hbit fun reg v hv _ => hv
    . next hawake =>
      rw [Decidable.not_not] at hawake
      rw [wp_bind]
      apply wp_post ((Kept.isOff _ _ _).wp_waitBusNotBusyI2C hG h₃)
      intro _ s₄ h₄
      split
      . -- the bus is busy
        apply h₄.wp_return hbit fun reg v hv _ => hv
      . apply h₄.wp_update rfl
        intro d₁ s _ e₁ h
        apply h.wp_update rfl
        intro d₂ s _ e₂ h
        apply h.wp_update rfl
        intro d₃ s _ e₃ h
        apply h.wp_update rfl
        intro d₄ s h₄ e₄ h
        apply h.wp_update rfl
        intro d₅ s h₅ e₅ h
        apply h.wp_update rfl
        intro d₆ s h₆ e₆ h
        apply h.wp_update rfl
        intro d₇ s h₇ e₇ h
        apply h.wp_update rfl
        intro d₈ s h₈ e₈ h
        apply h.wp_update rfl
        intro d₉ s h₉ e₉ h
        have hsettings : d₉.settings = d.settings := by
          rw [e₉, e₈, e₇, e₆, e₅, e₄, e₃, e₂, e₁]
        have herror : d₉.messageError = 0 := by
          calc d₉.messageError
            _ = d₈.messageError := by rw [h₉]
            _ = d₇.messageError := by rw [h₈]
            _ = d₆.messageError := by rw [h₇]
            _ = 0 := by rw [h₆]
        have hindex : d₉.messageWriteIndex = 0 := by
          calc d₉.messageWriteIndex
            _ = d₈.messageWriteIndex := by rw [h₉]
            _ = d₇.messageWriteIndex := by rw [h₈]
            _ = d₆.messageWriteIndex := by rw [h₇]
            _ = d₅.messageWriteIndex := by rw [h₆]
            _ = d₄.messageWriteIndex := by rw [h₅]
            _ = 0 := by rw [h₄]
        have hbus : d₉.busConfig = d.busConfig := congrArg BusConfiguration.busConfig hsettings
        rw [wp_bind]
        apply wp_post
        . apply h.wp_requestTransferI2C _ _ herror hindex
          . intro reg v hv
            rw [configuration_settings hsettings]
            apply hv hawake
          . rw [hbus, hbit]
        . intro _ s h
          apply h.wp_sleep
  . rintro ret s₃ ⟨hbit', h₃⟩
    apply wp_step (Kept.isOff _ _ _).stable_interrupted h₃
    intro s₄ h₄
    refine ⟨⟨.inl ⟨_, _, _, h₄⟩, by simp⟩, ?_⟩
    intro _ _
    have h₅ : Kept (fun reg v => s₃.device.awake = true → configuration s₃.device reg v) s₃.device
        s₃.memory.message { s₄ with preparing := none } := { h₄ with }
    apply h₅.wp_return hbit' fun reg v hv _ => hv

theorem Ready.wp_transferI2CGated_go {p : Pointer} {number tries : Nat} (h : Ready s) :
    wp (interrupted H) StagedGuard (transferI2CGated.go p number tries) (fun _ => Ready) s := by
  induction tries generalizing s with
  | zero =>
    unfold transferI2CGated.go
    apply h.wp_prepareTransferI2C
  | succ tries ih =>
    unfold transferI2CGated.go
    rw [wp_bind]
    apply wp_post h.wp_prepareTransferI2C
    intro ret s' h'
    split
    . apply h'.2.wp_return h'.1 fun reg v hv _ => hv
    . apply ih h'

end Prepare

end VoodooI2C
