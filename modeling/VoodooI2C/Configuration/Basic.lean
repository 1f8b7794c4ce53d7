import VoodooI2C.Driver.Lemmas.Main
import VoodooI2C.Transfer.Frame

/-!
This module contains what is known about the configuration registers while the handler can do
nothing, and the verification of `initialiseBus`.
-/

namespace VoodooI2C

open Interaction RegisterFile

variable {H : Hardware} [RegisterFile H] {G : Op → State H → Prop} {α : Type}
  {Q : α → State H → Prop} {s : State H} {c c' : Register → Word → Prop} {d : BusDevice}
  {messages : Pointer → Nat → BusMessage}

/--
What `initialiseBus` writes. Only the bit for 10-bit addresses of `IC_CON` can change after that.
-/
def configuration (d : BusDevice) (reg : Register) (v : Word) : Prop :=
  match reg with
  | .ssSclHcnt => v = d.acpiConfig.ssHcnt
  | .ssSclLcnt => v = d.acpiConfig.ssLcnt
  | .fsSclHcnt => v = d.acpiConfig.fsHcnt
  | .fsSclLcnt => v = d.acpiConfig.fsLcnt
  | .sdaHold => d.acpiConfig.sdaHold ≠ 0 → v = d.acpiConfig.sdaHold
  | .txTl => v = d.transactionFifoDepth / 2
  | .rxTl => v = 0
  | .con => v &&& ~~~con10bitaddrMaster = d.busConfig
  | _ => True

omit [RegisterFile H] in
theorem configuration_con {v : Word} (hbit : d.busConfig &&& con10bitaddrMaster = 0)
    (hv : v = d.busConfig) : configuration d .con v := by
  unfold configuration
  dsimp only
  rw [hv, and_not_of_and_eq_zero hbit]

/--
The handler can do nothing, `bus_device` is `d` and every register `reg` holds a value of which `c`
holds.
-/
structure Kept (c : Register → Word → Prop) (d : BusDevice)
    (messages : Pointer → Nat → BusMessage) (s : State H) : Prop where
  device : s.device = d
  message : s.memory.message = messages
  off : d.awake = true → value s.hw .enable = 0
  known : ∀ reg, reg.Holds → c reg (value s.hw reg)

namespace Kept

theorem isOff (c : Register → Word → Prop) (d : BusDevice)
    (messages : Pointer → Nat → BusMessage) : Off (H := H) (Kept c d messages) where
  step s hw h hstep :=
    { h with
      off := by
        rw [value_step hstep (by rfl)]
        apply h.off
      known := by
        intro reg hreg
        rw [value_step hstep hreg]
        apply h.known reg hreg }
  read s reg v h _ _ :=
    { h with
      off := by
        rw [value_read (by rfl)]
        apply h.off
      known := by
        intro reg' hreg'
        rw [value_read hreg']
        apply h.known reg' hreg' }
  off s h hawake := by
    apply h.off
    rw [← h.device, hawake]

theorem mono (h : Kept c d messages s) (hc : ∀ reg v, c reg v → c' reg v) :
    Kept c' d messages s :=
  { h with known := fun reg hreg => hc _ _ (h.known reg hreg) }

theorem write (v : Word) (reg : Register) (log : List Event) (h : Kept c d messages s)
    (hreg : reg ≠ .dataCmd) (henable : reg = .enable → v = 0) :
    Kept (Function.update c reg (· = v)) d messages
      { s with hw := H.write v reg s.hw, log := log } :=
  { h with
    off := by
      intro hawake
      by_cases heq : reg = .enable
      . rw [heq, value_write_self (by rfl), henable heq]
      . rw [value_write_ne (by rfl) (Ne.symm heq)]
        apply h.off hawake
    known := by
      intro reg' hreg'
      by_cases heq : reg' = reg
      . subst heq
        rw [value_write_self hreg', Function.update_self]
      . rw [value_write_ne hreg' heq, Function.update_of_ne heq]
        apply h.known reg' hreg' }

section Rules

variable (hG : ∀ op s, AccessOp op → Kept c d messages s → G op s)
include hG

theorem wp_writeRegister {v : Word} {reg : Register} {f : Unit → Driver α}
    (h : Kept c d messages s) (hreg : reg ≠ .dataCmd ∧ reg ≠ .tar) (henable : reg = .enable → v = 0)
    (hf : ∀ s', Kept (Function.update c reg (· = v)) d messages s' →
      wp (interrupted H) G (f ()) Q s') :
    wp (interrupted H) G (VoodooI2C.writeRegister v reg >>= f) Q s := by
  apply wp_main_writeRegister (isOff c d messages).stable_interrupted h
  intro s' h'
  refine ⟨hG _ _ hreg h', ?_⟩
  apply hf
  apply h'.write v _ _ hreg.1 henable

theorem wp_device {f : BusDevice → Driver α} (h : Kept c d messages s)
    (hf : ∀ s', Kept c d messages s' → wp (interrupted H) G (f d) Q s') :
    wp (interrupted H) G (VoodooI2C.device >>= f) Q s := by
  apply wp_main_device (isOff c d messages).stable_interrupted h
  intro s' h'
  refine ⟨hG _ _ trivial h', ?_⟩
  rw [h'.device]
  apply hf s' h'

end Rules

end Kept

section InitialiseBus

variable [Prompt H]

/--
`IC_ENABLE` is 0 and at most `n` polls are left until `IC_ENABLE_STATUS` says so.
-/
def Polling (c : Register → Word → Prop) (d : BusDevice)
    (messages : Pointer → Nat → BusMessage) (n : Nat) (s : State H) : Prop :=
  Kept (Function.update c .enable (· = 0)) d messages s ∧ Prompt.lag s.hw ≤ n

theorem Polling.isOff (n : Nat) : Off (H := H) (Polling c d messages n) where
  step s hw h hstep := by
    refine ⟨(Kept.isOff _ _ _).step s hw h.1 hstep, ?_⟩
    apply Nat.le_trans (Prompt.lag_step hstep) h.2
  read s reg v h hreg hv := by
    refine ⟨(Kept.isOff _ _ _).read s reg v h.1 hreg hv, ?_⟩
    apply Nat.le_trans Prompt.lag_read h.2
  off s h := (Kept.isOff _ _ _).off s h.1

theorem Polling.write {n : Nat} (h : Polling c d messages n s) :
    Polling c d messages n
      { s with hw := H.write 0 .enable s.hw, log := s.log ++ [.write 0 .enable] } := by
  have henable := h.1.known .enable (by rfl)
  rw [Function.update_self] at henable
  constructor
  . have := h.1.write 0 .enable (s.log ++ [.write 0 .enable]) (by simp) (by simp)
    simpa using this
  . apply Nat.le_trans (Prompt.lag_write _) h.2
    intro _
    exact henable.symm

variable (hG : ∀ op (s : State H) c, AccessOp op → Kept c d messages s → G op s)
include hG

theorem Polling.wp_poll {n : Nat} {f : Driver IOReturn} (h : Polling c d messages n s)
    (hf : ∀ s', 0 < n → Polling c d messages (n - 1) s' →
      wp (interrupted H) G f
        (fun ret s => ret = .success ∧ Kept (Function.update c .enable (· = 0)) d messages s) s') :
    wp (interrupted H) G
      (do
        let status ← readRegister .enableStatus
        if status &&& 1 = VoodooI2CState.off.toWord then
          return IOReturn.success
        else
          f)
      (fun ret s => ret = .success ∧ Kept (Function.update c .enable (· = 0)) d messages s) s := by
  apply wp_main_readRegister (Polling.isOff n).stable_interrupted h
  intro s₁ h₁
  refine ⟨hG _ _ _ (by simp [AccessOp]) h₁.1, ?_⟩
  intro v hv
  have h₂ := (Kept.isOff _ _ _).read s₁ _ v h₁.1 (by simp) hv
  split
  . refine wp_main_return (Kept.isOff _ _ _).stable_interrupted h₂ ?_
    intro _ h
    exact ⟨rfl, h⟩
  . next hstatus =>
    have hlag := Prompt.lag_poll (H := H) (h := s₁.hw) (v := v)
    apply hf
    . -- the status follows `IC_ENABLE`, which is 0
      by_contra hzero
      have henable := h₁.1.known .enable (by rfl)
      rw [Function.update_self] at henable
      have hpoll := Prompt.canRead_enableStatus hv (by have := h₁.2; omega)
      rw [henable] at hpoll
      apply hstatus
      rw [hpoll]
      rfl
    . refine ⟨h₂, ?_⟩
      have := h₁.2
      dsimp only
      omega

theorem Polling.wp_go {timeout : Nat} (h : Polling c d messages timeout s) :
    wp (interrupted H) G (toggleBusState.go .off timeout)
      (fun ret s => ret = .success ∧ Kept (Function.update c .enable (· = 0)) d messages s) s := by
  induction timeout generalizing s with
  | zero =>
    unfold toggleBusState.go
    apply wp_main_writeRegister (Polling.isOff 0).stable_interrupted h
    intro s₁ h₁
    refine ⟨hG _ _ _ (by simp [AccessOp]) h₁.1, ?_⟩
    apply Polling.wp_poll hG h₁.write
    intro _ hlt
    omega
  | succ timeout ih =>
    unfold toggleBusState.go
    apply wp_main_writeRegister (Polling.isOff _).stable_interrupted h
    intro s₁ h₁
    refine ⟨hG _ _ _ (by simp [AccessOp]) h₁.1, ?_⟩
    apply Polling.wp_poll hG h₁.write
    intro s₂ _ h₂
    apply ih h₂

omit [Prompt H] in
theorem wp_initialiseBus_rest (hbit : d.busConfig &&& con10bitaddrMaster = 0)
    (h : Kept (Function.update c .enable (· = 0)) d messages s) :
    wp (interrupted H) G
      (do
        let d ← device
        writeRegister d.acpiConfig.ssHcnt .ssSclHcnt
        writeRegister d.acpiConfig.ssLcnt .ssSclLcnt
        writeRegister d.acpiConfig.fsHcnt .fsSclHcnt
        writeRegister d.acpiConfig.fsLcnt .fsSclLcnt
        initialiseBus.writeSdaHold d
        writeRegister (d.transactionFifoDepth / 2) .txTl
        writeRegister 0 .rxTl
        writeRegister d.busConfig .con
        return IOReturn.success)
      (fun ret s =>
        ret = .success ∧ Kept (Function.update (configuration d) .enable (· = 0)) d messages s)
      s := by
  have hG' : ∀ c op (s : State H), AccessOp op → Kept c d messages s → G op s :=
    fun c op s => hG op s c
  apply h.wp_device (hG' _)
  intro s₂ h₂
  apply h₂.wp_writeRegister (hG' _) (by simp) (by simp)
  intro s₃ h₃
  apply h₃.wp_writeRegister (hG' _) (by simp) (by simp)
  intro s₄ h₄
  apply h₄.wp_writeRegister (hG' _) (by simp) (by simp)
  intro s₅ h₅
  apply h₅.wp_writeRegister (hG' _) (by simp) (by simp)
  intro s₆ h₆
  have hrest : ∀ c s, Kept c d messages s →
      (∀ reg v, Function.update (Function.update (Function.update c .txTl
        (· = d.transactionFifoDepth / 2)) .rxTl (· = 0)) .con (· = d.busConfig) reg v →
        Function.update (configuration d) .enable (· = 0) reg v) →
      wp (interrupted H) G
        (do
          writeRegister (d.transactionFifoDepth / 2) .txTl
          writeRegister 0 .rxTl
          writeRegister d.busConfig .con
          return IOReturn.success)
        (fun ret s =>
          ret = .success ∧ Kept (Function.update (configuration d) .enable (· = 0)) d messages s)
        s := by
    intro c s h hc
    apply h.wp_writeRegister (hG' _) (by simp) (by simp)
    intro s₁ h₁
    apply h₁.wp_writeRegister (hG' _) (by simp) (by simp)
    intro s₂ h₂
    apply h₂.wp_writeRegister (hG' _) (by simp) (by simp)
    intro s₃ h₃
    refine wp_main_return (Kept.isOff _ _ _).stable_interrupted h₃ ?_
    intro s₄ h₄
    exact ⟨rfl, h₄.mono hc⟩
  unfold initialiseBus.writeSdaHold
  split
  . apply h₆.wp_writeRegister (hG' _) (by simp) (by simp)
    intro s₇ h₇
    apply hrest _ s₇ h₇
    intro reg v hv
    cases reg with
    | con => apply configuration_con hbit hv
    | sdaHold =>
      intro _
      apply hv
    | _ => trivial
  . next hhold =>
    rw [pure_bind]
    apply hrest _ s₆ h₆
    intro reg v hv
    cases reg with
    | con => apply configuration_con hbit hv
    | sdaHold =>
      intro hne
      exact absurd hne hhold
    | _ => trivial

end InitialiseBus

section Disable

variable [Prompt H] {B : State H → Prop} {D : BusDevice → (Pointer → Nat → BusMessage) → Prop}
  {c : BusDevice → Register → Word → Prop}
  (hG : ∀ op (s : State H) c d messages, AccessOp op → Kept c d messages s → G op s)
  (hB : (interrupted H).Stable B) (hGB : ∀ s, B s → G (.writeRegister 0 .enable) s)
  (hfirst : ∀ s, B s → Kept (Function.update (c s.device) .enable (· = 0)) s.device s.memory.message
    { s with hw := H.write 0 .enable s.hw, log := s.log ++ [.write 0 .enable] })
  (hD : ∀ s, B s → D s.device s.memory.message)
include hG hB hGB hfirst hD

theorem wp_disable (h : B s) :
    wp (interrupted H) G (toggleBusState .off)
      (fun ret s =>
        ret = .success
          ∧ D s.device s.memory.message
          ∧ Kept (Function.update (c s.device) .enable (· = 0)) s.device s.memory.message s) s := by
  unfold toggleBusState toggleBusState.go
  apply wp_main_writeRegister hB h
  intro s₁ h₁
  refine ⟨hGB s₁ h₁, ?_⟩
  have hG' : ∀ op (s : State H) c, AccessOp op → Kept c s₁.device s₁.memory.message s → G op s :=
    fun op s c => hG op s c _ _
  apply wp_post
  . apply Polling.wp_poll hG' (n := 1000) ⟨hfirst s₁ h₁, Prompt.lag_le⟩
    intro s₂ _ h₂
    apply Polling.wp_go hG' h₂
  . rintro ret s₂ ⟨hret, h₂⟩
    rw [h₂.device, h₂.message]
    exact ⟨hret, hD s₁ h₁, h₂⟩

theorem wp_initialiseBus_first
    (hbit : ∀ d messages, D d messages → d.busConfig &&& con10bitaddrMaster = 0) (h : B s) :
    wp (interrupted H) G initialiseBus
      (fun ret s =>
        ret = .success
          ∧ D s.device s.memory.message
          ∧ Kept (Function.update (configuration s.device) .enable (· = 0)) s.device
              s.memory.message s)
      s := by
  unfold initialiseBus
  rw [wp_bind]
  apply wp_post (wp_disable hG hB hGB hfirst hD h)
  rintro _ s₁ ⟨rfl, hs₁, h₁⟩
  rw [if_neg (by simp)]
  apply wp_post (wp_initialiseBus_rest (fun op s c => hG op s c _ _) (hbit _ _ hs₁) h₁)
  rintro ret s₂ ⟨hret, h₂⟩
  rw [h₂.device, h₂.message]
  exact ⟨hret, hs₁, h₂⟩

end Disable

end VoodooI2C
