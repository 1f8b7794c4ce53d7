import VoodooI2C.Driver.Lemmas.Quiet
import VoodooI2C.Driver.Impl.Transfer

/-!
This module contains the verification of the functions that run on the thread of a caller while the
handler can do nothing, that is while the driver sleeps or the controller is disabled.
-/

namespace VoodooI2C

open Interaction RegisterFile

variable {H : Hardware} {G : Op → State H → Prop} {α : Type} {Q : α → State H → Prop}
  {A B : State H → Prop} {s : State H}

abbrev interrupted (H : Hardware) : World Op Op.Ans := (system H).interrupted handleInterrupt

instance : Lenient fun (_ : Op) (_ : State H) => True where
  device _ := trivial
  update _ _ := trivial
  commandWakeup _ := trivial

theorem Off.stable_interrupted [RegisterFile H] (hA : Off A) : (interrupted H).Stable A := by
  apply hA.stable.interrupted
  intro s s' h hexec
  apply hexec.wp (hA.wp_handleInterrupt (G := fun _ _ => True) (by simp) h)

theorem Masked.stable_interrupted [RegisterFile H] (hA : Masked A) : (interrupted H).Stable A := by
  apply hA.stable.interrupted
  intro s s' h hexec
  apply hexec.wp (hA.wp_handleInterrupt (G := fun _ _ => True) (by simp) h)

section Stable

variable (hA : (interrupted H).Stable A)
include hA

theorem wp_main_return {a : α} {Q : α → State H → Prop} (h : A s) (hQ : ∀ s', A s' → Q a s') :
    wp (interrupted H) G (pure a) Q s := by
  intro s' henv
  apply hQ s' (hA.env h henv)

theorem wp_main_device {f : BusDevice → Driver α} (h : A s)
    (hstep : ∀ s', A s' → G .device s' ∧ wp (interrupted H) G (f s'.device) Q s') :
    wp (interrupted H) G (device >>= f) Q s := by
  apply wp_step hA h
  intro s' h'
  refine ⟨(hstep s' h').1, ?_⟩
  intro d hd
  have hd : d = s'.device := hd
  subst hd
  apply (hstep s' h').2

theorem wp_main_update {g : BusDevice → BusDevice} {f : Unit → Driver α} (h : A s)
    (hstep : ∀ s', A s' → G (.update g) s'
      ∧ wp (interrupted H) G (f ()) Q { s' with device := g s'.device }) :
    wp (interrupted H) G (update g >>= f) Q s := by
  apply wp_step hA h
  intro s' h'
  refine ⟨(hstep s' h').1, ?_⟩
  intro _ _
  apply (hstep s' h').2

theorem wp_main_readRegister {reg : Register} {f : Word → Driver α} (h : A s)
    (hstep : ∀ s', A s' → G (.readRegister reg) s'
      ∧ ∀ v, H.canRead reg s'.hw v → wp (interrupted H) G (f v) Q
          { s' with hw := H.read reg v s'.hw, log := s'.log ++ [.read reg v] }) :
    wp (interrupted H) G (readRegister reg >>= f) Q s := by
  apply wp_step hA h hstep

theorem wp_main_writeRegister {v : Word} {reg : Register} {f : Unit → Driver α} (h : A s)
    (hstep : ∀ s', A s' → G (.writeRegister v reg) s'
      ∧ wp (interrupted H) G (f ()) Q
          { s' with hw := H.write v reg s'.hw, log := s'.log ++ [.write v reg] }) :
    wp (interrupted H) G (writeRegister v reg >>= f) Q s := by
  apply wp_step hA h
  intro s' h'
  refine ⟨(hstep s' h').1, ?_⟩
  intro _ _
  apply (hstep s' h').2

end Stable

structure Idle [RegisterFile H] (A : State H → Prop) : Prop extends Off A where
  write : ∀ s v reg, A s → reg ≠ .dataCmd → (reg = .enable → v = 0) → (reg = .intrMask → v = 0) →
    A { s with hw := H.write v reg s.hw, log := s.log ++ [.write v reg] }

theorem Idle.and_frame [RegisterFile H] (hA : Idle A)
    (hB : ∀ s hw log, B s → B { s with hw := hw, log := log }) : Idle fun s => A s ∧ B s where
  step s hw h hstep := ⟨hA.step s hw h.1 hstep, hB s hw s.log h.2⟩
  read s reg v h hreg hv := ⟨hA.read s reg v h.1 hreg hv, hB s _ _ h.2⟩
  off s h hawake := hA.off s h.1 hawake
  write s v reg h hreg henable hmask := ⟨hA.write s v reg h.1 hreg henable hmask, hB s _ _ h.2⟩

def AccessOp (op : Op) : Prop :=
  match op with
  | .readRegister reg => reg ≠ .dataCmd
  | .writeRegister _ reg => reg ≠ .dataCmd ∧ reg ≠ .tar
  | .device => True
  | _ => False

section Idle

variable (hG : ∀ op s, AccessOp op → A s → G op s)
include hG

theorem wp_toggleBusState_go {enabled : VoodooI2CState} {timeout : Nat}
    (hA : (interrupted H).Stable A)
    (hread : ∀ s v, A s → H.canRead .enableStatus s.hw v →
      A { s with
        hw := H.read .enableStatus v s.hw
        log := s.log ++ [.read .enableStatus v] })
    (hwrite : ∀ s, A s →
      A { s with
        hw := H.write enabled.toWord .enable s.hw
        log := s.log ++ [.write enabled.toWord .enable] })
    (h : A s) : wp (interrupted H) G (toggleBusState.go enabled timeout) (fun _ => A) s := by
  induction timeout generalizing s with
  | zero =>
    unfold toggleBusState.go
    apply wp_main_writeRegister hA h
    intro s₁ h₁
    refine ⟨hG _ _ (by simp [AccessOp]) h₁, ?_⟩
    apply wp_main_readRegister hA (hwrite s₁ h₁)
    intro s₂ h₂
    refine ⟨hG _ _ (by simp [AccessOp]) h₂, ?_⟩
    intro v hv
    have h₃ := hread s₂ v h₂ hv
    split
    . exact wp_main_return hA h₃ (fun _ h => h)
    . exact wp_main_return hA h₃ (fun _ h => h)
  | succ timeout ih =>
    unfold toggleBusState.go
    apply wp_main_writeRegister hA h
    intro s₁ h₁
    refine ⟨hG _ _ (by simp [AccessOp]) h₁, ?_⟩
    apply wp_main_readRegister hA (hwrite s₁ h₁)
    intro s₂ h₂
    refine ⟨hG _ _ (by simp [AccessOp]) h₂, ?_⟩
    intro v hv
    have h₃ := hread s₂ v h₂ hv
    split
    . exact wp_main_return hA h₃ (fun _ h => h)
    . apply ih h₃

theorem wp_toggleBusState {enabled : VoodooI2CState} (hA : (interrupted H).Stable A)
    (hread : ∀ s v, A s → H.canRead .enableStatus s.hw v →
      A { s with
        hw := H.read .enableStatus v s.hw
        log := s.log ++ [.read .enableStatus v] })
    (hwrite : ∀ s, A s →
      A { s with
        hw := H.write enabled.toWord .enable s.hw
        log := s.log ++ [.write enabled.toWord .enable] })
    (hB : (interrupted H).Stable B) (hGB : ∀ s, B s → G (.writeRegister enabled.toWord .enable) s)
    (hfirst : ∀ s, B s →
      A { s with
        hw := H.write enabled.toWord .enable s.hw
        log := s.log ++ [.write enabled.toWord .enable] })
    (h : B s) : wp (interrupted H) G (toggleBusState enabled) (fun _ => A) s := by
  unfold toggleBusState toggleBusState.go
  apply wp_main_writeRegister hB h
  intro s₁ h₁
  refine ⟨hGB s₁ h₁, ?_⟩
  apply wp_main_readRegister hA (hfirst s₁ h₁)
  intro s₂ h₂
  refine ⟨hG _ _ (by simp [AccessOp]) h₂, ?_⟩
  intro v hv
  have h₃ := hread s₂ v h₂ hv
  split
  . exact wp_main_return hA h₃ (fun _ h => h)
  . apply wp_toggleBusState_go hG hA hread hwrite h₃

variable [RegisterFile H]

theorem Idle.wp_disable (hA : Idle A) (hB : (interrupted H).Stable B)
    (hGB : ∀ s, B s → G (.writeRegister 0 .enable) s)
    (hfirst : ∀ s, B s →
      A { s with hw := H.write 0 .enable s.hw, log := s.log ++ [.write 0 .enable] })
    (h : B s) : wp (interrupted H) G (toggleBusState .off) (fun _ => A) s := by
  apply wp_toggleBusState
  . apply hG
  . apply hA.stable_interrupted
  . intro s v h hv
    apply hA.read s _ v h (by simp) hv
  . intro s h
    apply hA.write s _ _ h (by simp) (by intro _; rfl) (by intro h; contradiction)
  . apply hB
  . apply hGB
  . apply hfirst
  . apply h

theorem Idle.wp_toggleBusState (hA : Idle A) (h : A s) :
    wp (interrupted H) G (toggleBusState .off) (fun _ => A) s := by
  apply hA.wp_disable hG hA.stable_interrupted _ _ h
  . intro s h
    apply hG _ _ _ h
    simp [AccessOp]
  . intro s h
    apply hA.write s _ _ h (by simp) (by intro _; rfl) (by intro h; contradiction)

theorem Off.wp_waitBusNotBusyI2C (hA : Off A) (h : A s) :
    wp (interrupted H) G waitBusNotBusyI2C (fun _ => A) s := by
  unfold waitBusNotBusyI2C
  generalize 20 * 150 = timeout
  induction timeout generalizing s with
  | zero =>
    unfold waitBusNotBusyI2C.go
    apply wp_main_readRegister hA.stable_interrupted h
    intro s₁ h₁
    refine ⟨hG _ _ (by simp [AccessOp]) h₁, ?_⟩
    intro v hv
    have h₂ := hA.read s₁ _ v h₁ (by simp) hv
    split
    . exact wp_main_return hA.stable_interrupted h₂ (fun _ h => h)
    . exact wp_main_return hA.stable_interrupted h₂ (fun _ h => h)
  | succ timeout ih =>
    unfold waitBusNotBusyI2C.go
    apply wp_main_readRegister hA.stable_interrupted h
    intro s₁ h₁
    refine ⟨hG _ _ (by simp [AccessOp]) h₁, ?_⟩
    intro v hv
    have h₂ := hA.read s₁ _ v h₁ (by simp) hv
    split
    . apply ih h₂
    . exact wp_main_return hA.stable_interrupted h₂ (fun _ h => h)

theorem Idle.wp_writeRegister (hA : Idle A) {v : Word} {reg : Register} {f : Unit → Driver α}
    {Q : α → State H → Prop} (hreg : reg ≠ .dataCmd ∧ reg ≠ .tar) (henable : reg = .enable → v = 0)
    (hmask : reg = .intrMask → v = 0) (h : A s)
    (hf : ∀ s', A s' → wp (interrupted H) G (f ()) Q s') :
    wp (interrupted H) G (writeRegister v reg >>= f) Q s := by
  apply wp_main_writeRegister hA.stable_interrupted h
  intro s' h'
  refine ⟨hG _ _ hreg h', ?_⟩
  apply hf
  apply hA.write s' _ _ h' hreg.1 henable hmask

theorem Idle.wp_writeConfiguration (hA : Idle A) (orig i2cConfiguration : Word) (h : A s) :
    wp (interrupted H) G (requestTransferI2C.writeConfiguration orig i2cConfiguration)
      (fun _ => A) s := by
  unfold requestTransferI2C.writeConfiguration
  split
  . apply wp_tail
    apply Idle.wp_writeRegister hG hA (by simp) (by simp) (by simp) h
    intro s h
    exact wp_main_return hA.stable_interrupted h (fun _ h => h)
  . exact wp_main_return hA.stable_interrupted h (fun _ h => h)

theorem Idle.wp_initialiseBus_first (hA : Idle A) (hB : (interrupted H).Stable B)
    (hGB : ∀ s, B s → G (.writeRegister 0 .enable) s)
    (hfirst : ∀ s, B s →
      A { s with hw := H.write 0 .enable s.hw, log := s.log ++ [.write 0 .enable] })
    (h : B s) : wp (interrupted H) G initialiseBus (fun _ => A) s := by
  have hreturn : ∀ s (r : IOReturn), A s → wp (interrupted H) G (pure r) (fun _ => A) s := by
    intro s r h
    exact wp_main_return hA.stable_interrupted h (fun _ h => h)
  unfold initialiseBus
  rw [wp_bind]
  apply wp_post (Idle.wp_disable hG hA hB hGB hfirst h)
  intro r s₁ h₁
  split
  . apply hreturn s₁ _ h₁
  . apply wp_main_device hA.stable_interrupted h₁
    intro s₂ h₂
    refine ⟨hG _ _ trivial h₂, ?_⟩
    generalize s₂.device = d
    apply Idle.wp_writeRegister hG hA (by simp) (by simp) (by simp) h₂
    intro s₃ h₃
    apply Idle.wp_writeRegister hG hA (by simp) (by simp) (by simp) h₃
    intro s₄ h₄
    apply Idle.wp_writeRegister hG hA (by simp) (by simp) (by simp) h₄
    intro s₅ h₅
    apply Idle.wp_writeRegister hG hA (by simp) (by simp) (by simp) h₅
    intro s₆ h₆
    have hrest : ∀ s, A s → wp (interrupted H) G
        (do
          writeRegister (d.transactionFifoDepth / 2) .txTl
          writeRegister 0 .rxTl
          writeRegister d.busConfig .con
          return IOReturn.success)
        (fun _ => A) s := by
      intro s h
      apply Idle.wp_writeRegister hG hA (by simp) (by simp) (by simp) h
      intro s h
      apply Idle.wp_writeRegister hG hA (by simp) (by simp) (by simp) h
      intro s h
      apply Idle.wp_writeRegister hG hA (by simp) (by simp) (by simp) h
      intro s h
      apply hreturn s _ h
    unfold initialiseBus.writeSdaHold
    split
    . apply Idle.wp_writeRegister hG hA (by simp) (by simp) (by simp) h₆
      apply hrest
    . rw [pure_bind]
      apply hrest s₆ h₆

theorem Idle.wp_initialiseBus (hA : Idle A) (h : A s) :
    wp (interrupted H) G initialiseBus (fun _ => A) s := by
  apply hA.wp_initialiseBus_first hG hA.stable_interrupted _ _ h
  . intro s h
    apply hG _ _ _ h
    simp [AccessOp]
  . intro s h
    apply hA.write s _ _ h (by simp) (by intro _; rfl) (by intro h; contradiction)

end Idle

end VoodooI2C
