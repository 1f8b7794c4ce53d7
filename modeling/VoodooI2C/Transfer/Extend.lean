import VoodooI2C.Transfer.Calls

/-!
This module contains how a property is added to what is known about the time in which the interrupts
of a transfer are enabled: it is enough that the parts of the handler keep it.
-/

namespace VoodooI2C

open Interaction RegisterFile

variable {H : Hardware} [RegisterFile H] {p : Pointer} {list : List BusMessage}
  {byte₀ : Address → Byte} {s : State H} {G : Op → State H → Prop} {status : Word}

def Unmasked (status : Word) (s : State H) : Prop := status &&& value s.hw .intrMask = status

theorem On.wp_clear (h : On p list byte₀ s) :
    wp (system H) (Guard p list byte₀) (readClearInterruptBits.clear status)
      (fun _ s' =>
        On p list byte₀ s' ∧ value s'.hw .intrMask = value s.hw .intrMask) s := by
  have hinert := (On.inert p list byte₀).and (inert_mask (H := H) (value s.hw .intrMask))
  apply wp_performs (performs_clear status) hinert.stable
  . rintro op s (hop | ⟨a, rfl⟩) h
    . apply h.1.guard_quiet hop
    . trivial
  . rintro op s r (hop | ⟨a, rfl⟩) h hr
    . apply hinert.next_quiet hop h hr
    . exact ⟨h.1.abortSource a, h.2⟩
  . exact ⟨h, rfl⟩

def WakeupOp (op : Op) : Prop :=
  match op with
  | .device | .commandWakeup => True
  | .readRegister reg | .writeRegister _ reg => reg = .intrMask
  | _ => False

theorem performs_wakeup (status : Word) : (serviceInterrupt.wakeup status).Performs WakeupOp := by
  unfold serviceInterrupt.wakeup
  simp only [performs_device_bind]
  refine ⟨trivial, fun d => ?_⟩
  split
  . exact Prog.performs_perform (show WakeupOp .commandWakeup from trivial)
  . split
    . simp only [performs_readRegister_bind, performs_writeRegister_bind]
      refine ⟨rfl, fun _ => ⟨rfl, ?_⟩⟩
      exact Prog.performs_perform (show WakeupOp (.writeRegister _ .intrMask) from rfl)
    . simp

theorem WakeupOp.handlerOp {op : Op} (h : WakeupOp op) : HandlerOp op := by
  cases op with
  | readRegister reg =>
    have h : reg = .intrMask := h
    simp [HandlerOp, h]
  | writeRegister v reg => exact .inr h
  | device | commandWakeup => trivial
  | _ => contradiction

theorem On.wp_service (R₀ R₁ R₂ R₃ R : State H → Prop) (h : On p list byte₀ s)
    (hstatus : Unmasked status s) (hR : R₀ s)
    (hclear : ∀ s, On p list byte₀ s → Unmasked status s → R₀ s →
      wp (system H) G (readClearInterruptBits.clear status) (fun _ => R₁) s)
    (habort : status &&& intrTxAbrt ≠ 0 → ∀ s, On p list byte₀ s → Unmasked status s → R₁ s →
      wp (system H) G serviceInterrupt.abort (fun _ => R₃) s)
    (hreceive : ¬ status &&& intrTxAbrt ≠ 0 → ∀ s, On p list byte₀ s → Unmasked status s → R₁ s →
      wp (system H) G (serviceInterrupt.receive status) (fun _ => R₂) s)
    (hsend : ¬ status &&& intrTxAbrt ≠ 0 → ∀ s, On p list byte₀ s → Unmasked status s → R₂ s →
      wp (system H) G (serviceInterrupt.send status) (fun _ => R₃) s)
    (hwakeup : ∀ s, On p list byte₀ s → R₃ s →
      wp (system H) G (serviceInterrupt.wakeup status) (fun _ => R) s) :
    wp (system H) (fun op s => Guard p list byte₀ op s ∧ G op s) (service status)
      (fun _ s' => On p list byte₀ s' ∧ R s') s := by
  unfold service
  rw [wp_bind]
  apply wp_post
  . apply wp_and h.wp_clear (hclear s h hstatus hR)
  . rintro _ s₁ ⟨⟨h₁, hmask₁⟩, hR₁⟩
    have hstatus₁ : Unmasked status s₁ := by
      unfold Unmasked
      rw [hmask₁]
      apply hstatus
    split
    . next hbit =>
      rw [wp_bind]
      apply wp_post
      . apply wp_and (serviceInterrupt.wp_abort h₁) (habort hbit s₁ h₁ hstatus₁ hR₁)
      . rintro _ s₂ ⟨h₂, hR₂⟩
        apply wp_and (serviceInterrupt.wp_wakeup h₂) (hwakeup s₂ h₂ hR₂)
    . next hbit =>
      rw [wp_bind]
      apply wp_post
      . apply wp_and (serviceInterrupt.wp_receive h₁ hstatus₁) (hreceive hbit s₁ h₁ hstatus₁ hR₁)
      . rintro _ s₂ ⟨⟨h₂, hmask₂⟩, hR₂⟩
        have hstatus₂ : Unmasked status s₂ := by
          unfold Unmasked
          rw [hmask₂]
          apply hstatus₁
        rw [wp_bind]
        apply wp_post
        . apply wp_and (serviceInterrupt.wp_send h₂ hstatus₂) (hsend hbit s₂ h₂ hstatus₂ hR₂)
        . rintro _ s₃ ⟨h₃, hR₃⟩
          apply wp_and (serviceInterrupt.wp_wakeup h₃) (hwakeup s₃ h₃ hR₃)

/--
A property that the handler keeps while the interrupts of the transfer are enabled, where every
operation of the handler is guarded by `G`. The guard makes every operation keep `L`.
-/
structure Preserved (p : Pointer) (list : List BusMessage) (byte₀ : Address → Byte)
    (G : Op → State H → Prop) (R L : State H → Prop) : Prop where
  quiet : Quiet R
  guard : ∀ op s, QuietOp op → On p list byte₀ s → R s → G op s
  service : ∀ s status, On p list byte₀ s → R s → H.canRead .intrStat s.hw status →
    wp (system H) (fun op s => Guard p list byte₀ op s ∧ G op s) (service status)
      (fun _ s' => On p list byte₀ s' ∧ R s')
      { s with hw := H.read .intrStat status s.hw, log := s.log ++ [.read .intrStat status] }
  log_stable : (system H).Stable L
  log_next : ∀ op s r, Guard p list byte₀ op s → G op s → L s → State.admits op s r →
    L (State.next op s r)

namespace Preserved

variable {R L : State H → Prop}

theorem wp_handleInterrupt (hpreserved : Preserved p list byte₀ G R L) (h : OnSent p list byte₀ s)
    (hR : R s) (hL : L s) :
    wp (system H)
      (fun op s => (Guard p list byte₀ op s ∧ G op s) ∧ Sent list byte₀ s.log ∧ L s) handleInterrupt
      (fun _ s' => OnSent p list byte₀ s' ∧ R s' ∧ L s') s := by
  have hquiet := (On.inert p list byte₀).quiet.and hpreserved.quiet
  have hwp : wp (system H) (fun op s => Guard p list byte₀ op s ∧ G op s) handleInterrupt
      (fun _ s' => On p list byte₀ s' ∧ R s') s := by
    apply VoodooI2C.wp_handleInterrupt hquiet
    . intro op s hop h
      exact ⟨h.1.guard_quiet hop, hpreserved.guard op s hop h.1 h.2⟩
    . apply hquiet.stable
    . intro s h
      apply h
    . intro s h
      exact ⟨trivial, hpreserved.guard .enableInterrupt s trivial h.1 h.2⟩
    . exact ⟨h.1, hR⟩
    . intro _ _ _ _ _ _ s' h'
      rw [serviceInterrupt_eq]
      apply wp_readRegister
      intro hw hsteps
      have h'' := hquiet.steps h' hsteps
      constructor
      . exact ⟨h''.1.guard_quiet (by simp [QuietOp]),
          hpreserved.guard _ _ (by simp [QuietOp]) h''.1 h''.2⟩
      . intro status hread
        apply hpreserved.service { s' with hw := hw } status h''.1 h''.2 hread
  have hstable := (Sent.stable (H := H) list byte₀).and hpreserved.log_stable
  apply wp_mono (wp_keeping hwp hstable _ ⟨h.2, hL⟩)
  . intro op s h
    apply h
  . intro _ s h
    exact ⟨⟨h.1.1, h.2.1⟩, h.1.2, h.2.2⟩
  . intro op s r hguard h hr
    exact ⟨h.1.next hguard.1, hpreserved.log_next op s r hguard.1 hguard.2 h.2 hr⟩

theorem stable (hpreserved : Preserved p list byte₀ G R L) :
    (interrupted H).Stable fun s => OnSent p list byte₀ s ∧ R s ∧ L s := by
  have hstable := ((On.inert p list byte₀).stable.and (Sent.stable list byte₀)).and
    (hpreserved.quiet.stable.and hpreserved.log_stable)
  apply hstable.interrupted
  intro s s' h hexec
  apply hexec.wp (hpreserved.wp_handleInterrupt h.1 h.2.1 h.2.2)

end Preserved

theorem Preserved.of_handlerOp {R : State H → Prop} (hstable : (system H).Stable R)
    (hnext : ∀ op s r, HandlerOp op → R s → State.admits op s r → R (State.next op s r)) :
    Preserved p list byte₀ (fun _ _ => True) R (fun _ => True) where
  quiet :=
    { stable := hstable
      next := fun op s r hop => hnext op s r hop.quietOp.handlerOp }
  guard _ _ _ _ _ := trivial
  service s status hon h hread := by
    have htrue : ∀ (q : Driver Unit) (s : State H),
        wp (system H) (fun _ _ => True) q (fun _ _ => True) s := by
      intro q s
      apply wp_of_performs (P := fun _ => True)
      apply Prog.performs_true
    have hstatus : Unmasked status
        { s with hw := H.read .intrStat status s.hw, log := s.log ++ [.read .intrStat status] } := by
      unfold Unmasked
      rw [value_read (by rfl)]
      apply canRead_intrStat hread
    apply wp_mono
    . apply wp_and
      . apply On.wp_service (G := fun _ _ => True) (fun _ => True) (fun _ => True) (fun _ => True)
          (fun _ => True) (fun _ => True)
        . apply hon.append
          . apply Silent.read
            simp
          . apply value_intrMask_read
        . apply hstatus
        . trivial
        . intro s _ _ _
          apply htrue
        . intro _ s _ _ _
          apply htrue
        . intro _ s _ _ _
          apply htrue
        . intro _ s _ _ _
          apply htrue
        . intro s _ _
          apply htrue
      . apply wp_performs (G := fun _ _ => True) (performs_service_handlerOp status) hstable _ hnext
        . apply hnext (.readRegister .intrStat) s status (by simp [HandlerOp]) h hread
        . intro _ _ _ _
          trivial
    . intro op s h
      apply h.1
    . intro _ s h
      exact ⟨h.1.1, h.2⟩
  log_stable _ _ _ _ := trivial
  log_next _ _ _ _ _ _ _ := trivial

structure Untouched (A : State H → Prop) : Prop extends Inert A where
  write : ∀ s v reg, A s → reg ≠ .dataCmd → (reg = .enable → v = 0) → (reg = .intrMask → v = 0) →
    A { s with hw := H.write v reg s.hw, log := s.log ++ [.write v reg] }

theorem Idle.and_untouched {A B : State H → Prop} (hA : Idle A) (hB : Untouched B) :
    Idle fun s => A s ∧ B s where
  toInert := hA.toInert.and hB.toInert
  off s h hawake := hA.off s h.1 hawake
  write s v reg h hreg henable hmask :=
    ⟨hA.write s v reg h.1 hreg henable hmask, hB.write s v reg h.2 hreg henable hmask⟩

/--
What a property adds to the contract of the order of the words and bytes: `on` while the interrupts
are enabled, `left` from the end of the sleep until the controller is disabled, `done` from there on
and `log` all the time.
-/
structure Extension (s₀ : State H) (p : Pointer) (list : List BusMessage)
    (K C : H.State → Prop) where
  guard : Op → State H → Prop
  on : State H → Prop
  left : SleepResult → State H → Prop
  done : SleepResult → State H → Prop
  log : State H → Prop
  on_preserved : Preserved p list s₀.memory.byte guard on log
  left_preserved : ∀ r, Preserved p list s₀.memory.byte guard (left r) log
  cleared_clrIntr : ∀ h v, K h → H.canRead .clrIntr h v → C (H.read .clrIntr v h)
  cleared_calm : ∀ h, C h → K h
  cleared_step : ∀ h h', C h → H.step h h' → C h'
  cleared_read : ∀ reg h v, C h → reg ≠ .dataCmd → H.canRead reg h v → C (H.read reg v h)
  cleared_write : ∀ h, C h → C (H.write 0 .intrMask h)
  start : ∀ s : State H, s.device = s₀.device.setup p list.length → s.memory = s₀.memory →
    s.sleeper = .running → Preparatory s.log → value s.hw .enable = 1 → value s.hw .intrMask = 0 →
    C s.hw → ∀ s' : State H,
      s' = { s with
        hw := H.write intrDefaultMask .intrMask s.hw
        log := s.log ++ [.write intrDefaultMask .intrMask] } →
      on s' ∧ log s'
  sleep : ∀ s : State H, OnSent p list s₀.memory.byte s → on s → log s → s.sleeper = .running →
    ∀ s' : State H, s' = { s with sleeper := .asleep, log := s.log ++ [.enterSleep] } →
      on s' ∧ log s'
  leave : ∀ (s : State H) r, OnSent p list s₀.memory.byte s → on s → log s →
    s.sleeper ≠ .running → State.admits .leaveSleep s r →
    ∀ s' : State H, s' = { s with sleeper := .running, log := s.log ++ [.sleep r] } →
      left r s' ∧ log s'
  off : ∀ (s : State H) r, OnSent p list s₀.memory.byte s → left r s → log s →
    s.sleeper = .running →
    ∀ s' : State H, s' = { s with hw := H.write 0 .enable s.hw, log := s.log ++ [.write 0 .enable] } →
      done r s' ∧ log s'
  done_untouched : ∀ r, Untouched fun s => done r s ∧ log s
  done_return : ∀ (s : State H) r, done r s → log s →
    done r { s with preparing := none } ∧ log { s with preparing := none }

namespace Extension

variable {s₀ : State H} {K C : H.State → Prop}

def contract (e : Extension s₀ p list K C) (hlive : s₀.live = some (p, list.length))
    (hmessage : ∀ i m, list[i]? = some m → s₀.memory.message p i = m) (hK : Calm K) :
    Contract H s₀ p list.length where
  calm := K
  cleared := C
  on s := OnSent p list s₀.memory.byte s ∧ e.on s ∧ e.log s
  left r s := (OnSent p list s₀.memory.byte s ∧ e.left r s ∧ e.log s) ∧ s.sleeper = .running
  done r s := Ended K list s₀.memory.byte s ∧ e.done r s ∧ e.log s
  calm_step := hK.step
  calm_read := hK.read
  calm_write := hK.write
  cleared_clrIntr := e.cleared_clrIntr
  cleared_calm := e.cleared_calm
  cleared_step := e.cleared_step
  cleared_read := e.cleared_read
  cleared_write := e.cleared_write
  on_start s hdevice hmemory hlive' hpreparing hsleeper hlog henable hmask hw := by
    refine ⟨?_, e.start s hdevice hmemory hsleeper hlog henable hmask hw _ rfl⟩
    apply (orderContract s₀ p list hlive hmessage hK).on_start s hdevice hmemory hlive' hpreparing
      hsleeper hlog henable hmask (e.cleared_calm _ hw)
  on_stable := e.on_preserved.stable
  on_sleep s h hsleeper := by
    refine ⟨?_, e.sleep s h.1 h.2.1 h.2.2 hsleeper _ rfl⟩
    apply h.1.append .enterSleep (by simp) rfl
  on_leave s r h hsleeper hr := by
    refine ⟨⟨?_, e.leave s r h.1 h.2.1 h.2.2 hsleeper hr _ rfl⟩, rfl⟩
    apply h.1.append .sleep (by simp) rfl
  left_stable r := (e.left_preserved r).stable.and stable_running
  left_off s r h := by
    refine ⟨?_, e.off s r h.1.1 h.1.2.1 h.1.2.2 h.2 _ rfl⟩
    apply h.1.1.ended hK h.2
  done_idle r := (Ended.idle hK).and_untouched (e.done_untouched r)
  done_return s r h := ⟨{ h.1 with }, e.done_return s r h.2.1 h.2.2⟩
  done_error s r h := h.1.commandError

def Watched (e : Extension s₀ p list K C) (op : Op) (s : State H) : Prop :=
  ((QuietOp op ∨ op = .writeRegister 0 .intrMask) ∧ Preparatory s.log ∧ K s.hw)
    ∨ (Guard p list s₀.memory.byte op s ∧ e.guard op s ∧ Sent list s₀.memory.byte s.log ∧ e.log s)
    ∨ ∃ r, QuietOp op ∧ Ended K list s₀.memory.byte s ∧ e.done r s ∧ e.log s

variable {e : Extension s₀ p list K C} {hlive : s₀.live = some (p, list.length)}
  {hmessage : ∀ i m, list[i]? = some m → s₀.memory.message p i = m} {hK : Calm K}

theorem wp_handleInterrupt (h : (e.contract hlive hmessage hK).Phase s) :
    wp (system H) e.Watched handleInterrupt (fun _ _ => True) s := by
  apply (e.contract hlive hmessage hK).wp_handleInterrupt
  . intro op s hop hlog hcalm
    exact .inl ⟨hop, hlog, hcalm⟩
  . intro s h
    apply wp_mono (e.on_preserved.wp_handleInterrupt h.1 h.2.1 h.2.2)
    . intro op s h
      exact .inr (.inl ⟨h.1.1, h.1.2, h.2⟩)
    . intro _ _ _
      trivial
  . intro r s h
    apply wp_mono ((e.left_preserved r).wp_handleInterrupt h.1.1 h.1.2.1 h.1.2.2)
    . intro op s h
      exact .inr (.inl ⟨h.1.1, h.1.2, h.2⟩)
    . intro _ _ _
      trivial
  . intro r op s hop h
    exact .inr (.inr ⟨r, hop, h⟩)
  . apply h

theorem reachable {F : State H → Prop} {cfg : Config (system H) IOReturn}
    (e : Extension s₀ p list K C) (hlive : s₀.live = some (p, list.length))
    (hmessage : ∀ i m, list[i]? = some m → s₀.memory.message p i = m) (hK : Calm K)
    (hpreparatory : ∀ s : State H, Preparatory s.log → K s.hw → F s) (hlog : ∀ s, e.log s → F s)
    (h₀ : ∃ preparing, (e.contract hlive hmessage hK).Resting s₀.device preparing s₀)
    (hc : Reachable (system H) handleInterrupt s₀ (transferI2C p list.length) cfg) :
    F cfg.state := by
  rcases Contract.reachable_cases (fun _ h => wp_handleInterrupt h) h₀ hc with h | ⟨op, k, _, h⟩
  . rcases h with ⟨d, preparing, h⟩ | h | h | ⟨r, h⟩ | ⟨r, h⟩
    . apply hpreparatory _ h.log h.calm
    . apply hpreparatory _ h.log h.hw
    . apply hlog _ h.2.2
    . apply hlog _ h.1.2.2
    . apply hlog _ h.2.2
  . rcases h with h | h | ⟨r, _, h⟩
    . apply hpreparatory _ h.2.1 h.2.2
    . apply hlog _ h.2.2.2
    . apply hlog _ h.2.2

theorem reachable_handler {cfg : Config (system H) IOReturn} {op : Op} {k : op.Ans → Driver Unit}
    (e : Extension s₀ p list K C) (hlive : s₀.live = some (p, list.length))
    (hmessage : ∀ i m, list[i]? = some m → s₀.memory.message p i = m) (hK : Calm K)
    (h₀ : ∃ preparing, (e.contract hlive hmessage hK).Resting s₀.device preparing s₀)
    (hc : Reachable (system H) handleInterrupt s₀ (transferI2C p list.length) cfg)
    (hhd : cfg.handler = some (.call op k)) : e.Watched op cfg.state := by
  apply Contract.reachable_handler (fun _ h => wp_handleInterrupt h) h₀ hc hhd

theorem reachable_atAccess {F : State H → Prop} {cfg : Config (system H) IOReturn}
    (e : Extension s₀ p list K C) (hlive : s₀.live = some (p, list.length))
    (hmessage : ∀ i m, list[i]? = some m → s₀.memory.message p i = m) (hK : Calm K)
    (hpreparatory : ∀ s : State H, Preparatory s.log → F s) (hon : ∀ s, e.on s → F s)
    (hleft : ∀ r s, e.left r s → F s) (hdone : ∀ r s, Ended K list s₀.memory.byte s → e.done r s → F s)
    (hread : ∀ reg s, e.guard (.readRegister reg) s → F s)
    (hwrite : ∀ v reg s, e.guard (.writeRegister v reg) s → F s)
    (h₀ : ∃ preparing, (e.contract hlive hmessage hK).Resting s₀.device preparing s₀)
    (hc : Reachable (system H) handleInterrupt s₀ (transferI2C p list.length) cfg)
    (haccess : AtAccess cfg) : F cfg.state := by
  have hwatched : ∀ op s, (e.guard op s → F s) → e.Watched op s → F s := by
    intro op s hguard h
    rcases h with h | h | ⟨r, _, h⟩
    . apply hpreparatory _ h.2.1
    . apply hguard h.2.1
    . apply hdone r _ h.1 h.2.1
  apply Contract.reachable_atAccess (fun _ h => wp_handleInterrupt h) _ _ _ h₀ hc haccess
  . rintro s (⟨d, preparing, h⟩ | h | h | ⟨r, h⟩ | ⟨r, h⟩)
    . apply hpreparatory _ h.log
    . apply hpreparatory _ h.log
    . apply hon _ h.2.1
    . apply hleft r _ h.1.2.1
    . apply hdone r _ h.1 h.2.1
  . intro reg s
    apply hwatched _ _ (hread reg s)
  . intro v reg s
    apply hwatched _ _ (hwrite v reg s)

theorem reachable_returns {cfg : Config (system H) IOReturn} {ret : IOReturn}
    (e : Extension s₀ p list K C) (hlive : s₀.live = some (p, list.length))
    (hmessage : ∀ i m, list[i]? = some m → s₀.memory.message p i = m) (hK : Calm K)
    (h₀ : ∃ preparing, (e.contract hlive hmessage hK).Resting s₀.device preparing s₀)
    (hc : Reachable (system H) handleInterrupt s₀ (transferI2C p list.length) cfg)
    (hnone : cfg.handler = none) (hmain : cfg.main = .ret ret) :
    Preparatory cfg.state.log
      ∨ ∃ r, ret = outcome r cfg.state.device ∧ Ended K list s₀.memory.byte cfg.state
          ∧ e.done r cfg.state ∧ e.log cfg.state := by
  rcases h₀ with ⟨preparing, h₀⟩
  have hreturns := hc.main_returns (fun _ _ h => h.1) (fun _ _ h => h.1.phase)
    (fun _ h => wp_handleInterrupt h) (Contract.wp_transferI2C h₀) hnone hmain
  rcases hreturns.1 with ⟨_, preparing, h⟩ | ⟨r, hret, h⟩
  . left
    apply h.log
  . right
    exact ⟨r, hret, h⟩

theorem reachable_phase {cfg : Config (system H) IOReturn}
    (e : Extension s₀ p list K C) (hlive : s₀.live = some (p, list.length))
    (hmessage : ∀ i m, list[i]? = some m → s₀.memory.message p i = m) (hK : Calm K)
    (h₀ : ∃ preparing, (e.contract hlive hmessage hK).Resting s₀.device preparing s₀)
    (hc : Reachable (system H) handleInterrupt s₀ (transferI2C p list.length) cfg)
    (hnone : cfg.handler = none) : (e.contract hlive hmessage hK).Phase cfg.state := by
  rcases h₀ with ⟨preparing, h₀⟩
  apply hc.idle (fun _ _ h => h.1) (fun _ _ h => h.1.phase) (fun _ h => wp_handleInterrupt h)
    (Contract.wp_transferI2C h₀) hnone

theorem reachable_asleep {cfg : Config (system H) IOReturn}
    (e : Extension s₀ p list K C) (hlive : s₀.live = some (p, list.length))
    (hmessage : ∀ i m, list[i]? = some m → s₀.memory.message p i = m) (hK : Calm K)
    (h₀ : ∃ preparing, (e.contract hlive hmessage hK).Resting s₀.device preparing s₀)
    (hc : Reachable (system H) handleInterrupt s₀ (transferI2C p list.length) cfg)
    (hnone : cfg.handler = none) (hsleeper : cfg.state.sleeper ≠ .running) :
    OnSent p list s₀.memory.byte cfg.state ∧ e.on cfg.state ∧ e.log cfg.state := by
  rcases reachable_phase e hlive hmessage hK h₀ hc hnone
    with ⟨d, preparing, h⟩ | h | h | ⟨r, h⟩ | ⟨r, h⟩
  . exact absurd h.sleeper hsleeper
  . exact absurd h.sleeper hsleeper
  . apply h
  . exact absurd h.2 hsleeper
  . exact absurd h.1.sleeper hsleeper

theorem resting {s : State H} {memory : Memory} (h : AtRest K s) (hK : Calm K)
    (e : Extension (State.next (.beginTransfer p list) s memory) p list K C)
    (hmessage : ∀ i m, list[i]? = some m → memory.message p i = m) :
    let s₀ : State H := State.next (.beginTransfer p list) s memory
    ∃ preparing, (e.contract rfl hmessage hK).Resting s₀.device preparing s₀ :=
  ⟨_, { h.resting hK hmessage with }⟩

end Extension

end VoodooI2C
