import VoodooI2C.Driver.Impl.Handler
import VoodooI2C.Driver.Lemmas.WP
import VoodooI2C.Driver.Lemmas.Performs

/-!
This module contains the parts of the driver that only look at the controller: they read registers
other than `IC_DATA_CMD` and store `abort_source`.
-/

namespace VoodooI2C

open Interaction

variable {H : Hardware} {G : Op → State H → Prop} {α : Type} {s : State H}

def QuietOp (op : Op) : Prop :=
  match op with
  | .readRegister reg =>
    reg ≠ .dataCmd ∧ reg ≠ .enableStatus ∧ reg ≠ .txflr ∧ reg ≠ .rxflr
  | .device | .disableInterrupt | .enableInterrupt => True
  | _ => False

def PeekOp (op : Op) : Prop :=
  match op with
  | .readRegister reg => reg = .enable ∨ reg = .rawIntrStat
  | .device | .disableInterrupt | .enableInterrupt => True
  | _ => False

theorem PeekOp.quietOp {op : Op} (h : PeekOp op) : QuietOp op := by
  cases op with
  | readRegister reg => rcases h with rfl | rfl <;> simp [QuietOp]
  | device | disableInterrupt | enableInterrupt => trivial
  | _ => contradiction

def ClearOp (op : Op) : Prop :=
  QuietOp op ∨ ∃ a, op = .update fun d => { d with abortSource := a }

/--
A predicate that the controller and reads of registers other than `IC_DATA_CMD` keep.
-/
structure Inert (A : State H → Prop) : Prop where
  step : ∀ s hw, A s → H.step s.hw hw → A { s with hw := hw }
  read : ∀ s reg v, A s → reg ≠ .dataCmd → H.canRead reg s.hw v →
    A { s with hw := H.read reg v s.hw, log := s.log ++ [.read reg v] }

variable {A B : State H → Prop}

theorem Inert.stable (hA : Inert A) : (system H).Stable A := by
  rintro s _ h ⟨hw, hstep, rfl⟩
  apply hA.step s hw h hstep

theorem Inert.and (hA : Inert A) (hB : Inert B) : Inert fun s => A s ∧ B s where
  step s hw h hstep := ⟨hA.step s hw h.1 hstep, hB.step s hw h.2 hstep⟩
  read s reg v h hreg hv := ⟨hA.read s reg v h.1 hreg hv, hB.read s reg v h.2 hreg hv⟩

theorem Inert.steps (hA : Inert A) {hw : H.State} (h : A s) (hsteps : H.Steps s.hw hw) :
    A { s with hw := hw } := by
  apply hA.stable.env h
  rw [system_env]
  exact ⟨hw, hsteps, rfl⟩

theorem Inert.next_quiet (hA : Inert A) {op : Op} {r : op.Ans} (hop : QuietOp op) (h : A s)
    (hr : State.admits op s r) : A (State.next op s r) := by
  cases op with
  | readRegister reg => apply hA.read s reg r h hop.1 hr
  | device | disableInterrupt | enableInterrupt => apply h
  | _ => contradiction

theorem Inert.guard (hA : Inert A) (hG : ∀ op s, QuietOp op → A s → G op s) {op : Op}
    (hop : QuietOp op) (h : A s) : ∀ hw, H.Steps s.hw hw → G op { s with hw := hw } := by
  intro hw hsteps
  apply hG op _ hop
  apply hA.steps h hsteps

/--
A predicate that the controller and `handleInterrupt` outside of `serviceInterrupt` keep.
-/
structure Quiet (A : State H → Prop) : Prop where
  stable : (system H).Stable A
  next : ∀ op s r, PeekOp op → A s → State.admits op s r → A (State.next op s r)

theorem Inert.quiet (hA : Inert A) : Quiet A where
  stable := hA.stable
  next _ _ _ hop h hr := hA.next_quiet hop.quietOp h hr

theorem Quiet.and (hA : Quiet A) (hB : Quiet B) : Quiet fun s => A s ∧ B s where
  stable := hA.stable.and hB.stable
  next op s r hop h hr := ⟨hA.next op s r hop h.1 hr, hB.next op s r hop h.2 hr⟩

theorem Quiet.steps (hA : Quiet A) {hw : H.State} (h : A s) (hsteps : H.Steps s.hw hw) :
    A { s with hw := hw } := by
  apply hA.stable.env h
  rw [system_env]
  exact ⟨hw, hsteps, rfl⟩

theorem Quiet.read (hA : Quiet A) {reg : Register} {v : Word}
    (hreg : reg = .enable ∨ reg = .rawIntrStat) (h : A s)
    (hv : H.canRead reg s.hw v) :
    A { s with hw := H.read reg v s.hw, log := s.log ++ [.read reg v] } := by
  apply hA.next (.readRegister reg) s v hreg h hv

theorem Quiet.guard (hA : Quiet A) (hG : ∀ op s, QuietOp op → A s → G op s) {op : Op}
    (hop : QuietOp op) (h : A s) : ∀ hw, H.Steps s.hw hw → G op { s with hw := hw } := by
  intro hw hsteps
  apply hG op _ hop
  apply hA.steps h hsteps

theorem performs_clearInterrupt (stat bit : Word) {reg : Register}
    (hreg : reg ≠ .dataCmd ∧ reg ≠ .enableStatus ∧ reg ≠ .txflr ∧ reg ≠ .rxflr) :
    (clearInterrupt stat bit reg).Performs ClearOp := by
  unfold clearInterrupt
  split
  . simp only [performs_readRegister_bind, performs_pure, implies_true, and_true]
    left
    apply hreg
  . simp

theorem performs_clearTxAbrt (stat : Word) :
    (readClearInterruptBits.clearTxAbrt stat).Performs ClearOp := by
  unfold readClearInterruptBits.clearTxAbrt
  split
  . simp only [performs_readRegister_bind, performs_update_bind, performs_pure, implies_true,
      and_true]
    refine ⟨by simp [ClearOp, QuietOp], fun source => ⟨?_, by simp [ClearOp, QuietOp]⟩⟩
    right
    exact ⟨source, rfl⟩
  . simp

theorem performs_clearStopDet (stat : Word) :
    (readClearInterruptBits.clearStopDet stat).Performs ClearOp := by
  unfold readClearInterruptBits.clearStopDet
  simp only [performs_device_bind]
  refine ⟨.inl trivial, fun d => ?_⟩
  split
  . simp only [performs_readRegister_bind, performs_pure, implies_true, and_true]
    simp [ClearOp, QuietOp]
  . simp

theorem performs_clear (stat : Word) : (readClearInterruptBits.clear stat).Performs ClearOp := by
  unfold readClearInterruptBits.clear
  apply Prog.performs_bind (performs_clearInterrupt _ _ (by simp)) fun _ => ?_
  apply Prog.performs_bind (performs_clearInterrupt _ _ (by simp)) fun _ => ?_
  apply Prog.performs_bind (performs_clearInterrupt _ _ (by simp)) fun _ => ?_
  apply Prog.performs_bind (performs_clearInterrupt _ _ (by simp)) fun _ => ?_
  apply Prog.performs_bind (performs_clearTxAbrt _) fun _ => ?_
  apply Prog.performs_bind (performs_clearInterrupt _ _ (by simp)) fun _ => ?_
  apply Prog.performs_bind (performs_clearInterrupt _ _ (by simp)) fun _ => ?_
  apply Prog.performs_bind (performs_clearStopDet _) fun _ => ?_
  apply Prog.performs_bind (performs_clearInterrupt _ _ (by simp)) fun _ => ?_
  apply performs_clearInterrupt _ _ (by simp)

theorem clearInterrupt_zero (bit : Word) (reg : Register) : clearInterrupt 0 bit reg = pure () := by
  unfold clearInterrupt
  simp

theorem clear_zero : readClearInterruptBits.clear 0 = device >>= fun _ => pure () := by
  have habort : readClearInterruptBits.clearTxAbrt 0 = pure () := by
    unfold readClearInterruptBits.clearTxAbrt
    simp
  have hstop : readClearInterruptBits.clearStopDet 0 = device >>= fun _ => pure () := by
    unfold readClearInterruptBits.clearStopDet
    simp
  unfold readClearInterruptBits.clear
  simp only [clearInterrupt_zero, habort, hstop, pure_bind, bind_assoc]

theorem wp_readClearInterruptBits [Lenient G] (hA : Inert A)
    (habort : ∀ s a, A s → A { s with device := { s.device with abortSource := a } })
    (hG : ∀ op s, QuietOp op → A s → G op s) {f : Word → Driver α} {Q : α → State H → Prop}
    (h : A s)
    (hf : ∀ (s' : State H) stat, A s' → H.canRead .intrStat s'.hw stat →
      ∀ s'', A s'' → wp (system H) G (f stat) Q s'') :
    wp (system H) G (readClearInterruptBits >>= f) Q s := by
  unfold readClearInterruptBits
  rw [bind_assoc]
  apply wp_readRegister
  intro hw hsteps
  have h' := hA.steps h hsteps
  refine ⟨hG _ _ (by simp [QuietOp]) h', ?_⟩
  intro stat hstat
  rw [bind_assoc, wp_bind]
  apply wp_post
  . apply wp_performs (performs_clear stat) hA.stable
    . rintro op s (hop | ⟨a, rfl⟩) hs
      . apply hG op s hop hs
      . apply Lenient.update
    . rintro op s r (hop | ⟨a, rfl⟩) hs hr
      . apply hA.next_quiet hop hs hr
      . apply habort s a hs
    . apply hA.read { s with hw := hw } _ _ h' _ hstat
      simp
  . intro _ s'' h''
    rw [pure_bind]
    apply hf { s with hw := hw } stat h' hstat s'' h''

theorem wp_readClearInterruptBits_zero (hA : Inert A)
    (hG : ∀ op s, QuietOp op → A s → G op s)
    (hzero : ∀ s v, A s → H.canRead .intrStat s.hw v → v = 0)
    {f : Word → Driver α} {Q : α → State H → Prop} (h : A s)
    (hf : ∀ s', A s' → wp (system H) G (f 0) Q s') :
    wp (system H) G (readClearInterruptBits >>= f) Q s := by
  unfold readClearInterruptBits
  rw [bind_assoc]
  apply wp_readRegister
  intro hw hsteps
  have h' := hA.steps h hsteps
  refine ⟨hG _ _ (by simp [QuietOp]) h', ?_⟩
  intro stat hstat
  have := hzero _ stat h' hstat
  subst this
  rw [clear_zero]
  simp only [bind_assoc, pure_bind]
  have hread := hA.read { s with hw := hw } _ _ h' (by simp) hstat
  apply wp_device_of (hA.guard hG trivial hread)
  apply hf _ hread

theorem wp_handleInterrupt {Q : State H → Prop} (hA : Quiet A)
    (hG : ∀ op s, QuietOp op → A s → G op s) (hQ : (system H).Stable Q) (hAQ : ∀ s, A s → Q s)
    (hGQ : ∀ s, Q s → G .enableInterrupt s) (h : A s)
    (hservice : ∀ (s' : State H) enabled, A s' → s'.device.awake = true →
      H.canRead .enable s'.hw enabled → enabled ≠ 0 →
      ∀ s'', A s'' → wp (system H) G serviceInterrupt (fun _ => Q) s'') :
    wp (system H) G handleInterrupt (fun _ => Q) s := by
  have hexit : ∀ s', A s' → wp (system H) G (pure ()) (fun _ => Q) s' := by
    intro s' h'
    apply wp_pure (W := system H) (Q := fun _ => Q) hQ
    apply hAQ s' h'
  unfold handleInterrupt
  apply wp_disableInterrupt (hA.guard hG trivial h)
  rw [wp_bind]
  apply wp_post (Q := fun _ => Q)
  . unfold handleInterrupt.body
    apply wp_device_of (hA.guard hG trivial h)
    split
    . next hawake =>
      apply wp_readRegister
      intro hw hsteps
      have h' := hA.steps h hsteps
      refine ⟨hG _ _ (by simp [QuietOp]) h', ?_⟩
      intro enabled henabled
      have hread := hA.read (s := { s with hw := hw }) (by simp) h' henabled
      apply wp_readRegister
      intro hw' hsteps'
      have h'' := hA.steps hread hsteps'
      refine ⟨hG _ _ (by simp [QuietOp]) h'', ?_⟩
      intro status hstatus
      have hread' := hA.read (s := { s with hw := hw', log := _ }) (by simp) h'' hstatus
      split
      . next hpending =>
        simp only [not_or] at hpending
        apply hservice { s with hw := hw } enabled h' hawake henabled hpending.1 _ hread'
      . apply hexit _ hread'
    . apply hexit _ h
  . intro _ s' h'
    apply wp_tail
    apply wp_enableInterrupt
    . intro hw hsteps
      apply hGQ
      apply hQ.env h'
      rw [system_env]
      exact ⟨hw, hsteps, rfl⟩
    apply wp_pure (W := system H) (Q := fun _ => Q) hQ h'

variable [RegisterFile H]

structure Off (A : State H → Prop) : Prop extends Inert A where
  off : ∀ s, A s → s.device.awake = true → RegisterFile.value s.hw .enable = 0

theorem Off.wp_handleInterrupt (hA : Off A) (hG : ∀ op s, QuietOp op → A s → G op s)
    (h : A s) : wp (system H) G handleInterrupt (fun _ => A) s := by
  apply VoodooI2C.wp_handleInterrupt hA.quiet hG hA.stable
  . intro s h
    apply h
  . intro s h
    apply hG .enableInterrupt s trivial h
  . apply h
  . intro s' enabled h' hawake hread hne
    have := RegisterFile.canRead_holds hread (by rfl)
    rw [hA.off s' h' hawake] at this
    contradiction

structure Masked (A : State H → Prop) : Prop extends Inert A where
  mask : ∀ s, A s → RegisterFile.value s.hw .intrMask = 0
  messageError : ∀ s, A s → s.device.messageError = 0
  write : ∀ s, A s → A { s with hw := H.write 0 .intrMask s.hw, log := s.log ++ [.write 0 .intrMask] }

theorem Masked.wp_handleInterrupt (hA : Masked A)
    (hG : ∀ op s, QuietOp op ∨ op = .writeRegister 0 .intrMask → A s → G op s) (h : A s) :
    wp (system H) G handleInterrupt (fun _ => A) s := by
  have hquiet : ∀ op s, QuietOp op → A s → G op s := fun op s hop => hG op s (.inl hop)
  apply VoodooI2C.wp_handleInterrupt hA.quiet hquiet hA.stable
  . intro s h
    apply h
  . intro s h
    apply hquiet .enableInterrupt s trivial h
  . apply h
  . intro _ _ _ _ _ _ s' h'
    unfold serviceInterrupt
    apply wp_readClearInterruptBits_zero hA.toInert hquiet
    . intro s v h hread
      have := RegisterFile.canRead_intrStat hread
      rw [← this, hA.mask s h]
      simp
    . apply h'
    . intro s h
      -- the mask is 0 and so is `IC_INTR_STAT`
      have habort : ¬ (0 : Word) &&& intrTxAbrt ≠ 0 := by decide
      have hreceive : serviceInterrupt.receive 0 = pure () := by
        unfold serviceInterrupt.receive
        simp
      have hsend : serviceInterrupt.send 0 = pure () := by
        unfold serviceInterrupt.send
        simp
      rw [if_neg habort, hreceive, hsend]
      simp only [pure_bind]
      unfold serviceInterrupt.wakeup
      apply wp_device_of (hA.guard hquiet trivial h)
      simp only [hA.messageError s h]
      split
      . next hpending =>
        simp at hpending
      . split
        . apply wp_readRegister
          intro hw hsteps
          have h₁ := hA.steps h hsteps
          refine ⟨hquiet _ _ (by simp [QuietOp]) h₁, ?_⟩
          intro v hread
          have hv := RegisterFile.canRead_holds hread (by rfl)
          rw [hA.mask _ h₁] at hv
          subst hv
          have h₂ := hA.read { s with hw := hw } _ _ h₁ (by simp) hread
          apply wp_writeRegister
          intro hw' hsteps'
          have h₃ := hA.steps h₂ hsteps'
          refine ⟨hG _ _ (.inr rfl) h₃, ?_⟩
          apply wp_tail
          apply wp_writeRegister
          intro hw'' hsteps''
          have h₄ := hA.steps (hA.write _ h₃) hsteps''
          refine ⟨hG _ _ (.inr rfl) h₄, ?_⟩
          apply wp_pure (W := system H) (Q := fun _ => A) hA.stable
          apply hA.write _ h₄
        . apply wp_pure (W := system H) (Q := fun _ => A) hA.stable h

end VoodooI2C
