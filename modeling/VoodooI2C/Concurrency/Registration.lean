import VoodooI2C.Concurrency.Run
import VoodooI2C.Interaction.Recording
import VoodooI2C.Transaction.Steady

/-!
This module contains how often the interrupt of the controller is registered while any number of
threads use the bus.
-/

namespace VoodooI2C

open Interaction Concurrency

variable {α : Type}

/--
`count` is how often the interrupt is registered, `refused` says whether the last attempt failed.
-/
structure Registration where
  count : Nat
  refused : Bool
  deriving DecidableEq, Repr

namespace Registration

def note (op : Op) (r : op.Ans) (x : Registration) : Registration :=
  match op, r with
  | .registerInterrupt, ret =>
    if ret = .success then ⟨x.count + 1, false⟩ else { x with refused := true }
  | .unregisterInterrupt, _ => { x with count := x.count - 1 }
  | _, _ => x

end Registration

abbrev registering (H : Hardware) : World Op Op.Ans :=
  (system H).recording fun op _ r x => Registration.note op r x

abbrev interruptedRegistering (H : Hardware) : World Op Op.Ans :=
  (registering H).interrupted handleInterrupt

/-! What does not concern the interrupt. -/

def BusDevice.power (d : BusDevice) : Bool × Bool := (d.awake, d.isInterruptRegistered)

def PowerlessOp (op : Op) : Prop :=
  match op with
  | .update f => ∀ d, (f d).power = d.power
  | .registerInterrupt | .unregisterInterrupt => False
  | _ => True

theorem TransferOp.powerlessOp {op : Op} (h : TransferOp op) : PowerlessOp op := by
  cases op with
  | update f => exact fun d => congrArg Prod.snd (h d)
  | registerInterrupt | unregisterInterrupt => contradiction
  | _ => trivial

theorem HandlerOp.powerlessOp {op : Op} (h : HandlerOp op) : PowerlessOp op := by
  cases op with
  | update f =>
    intro d
    have hpower : (f d).fixed.power = d.fixed.power := congrArg _ (h d)
    exact hpower
  | registerInterrupt | unregisterInterrupt => contradiction
  | _ => trivial

section Knows

variable {H : Hardware} {s : (registering H).State}

structure Knows (awake registered : Bool) (x : Registration) (s : (registering H).State) : Prop where
  awake : s.1.device.awake = awake
  registered : s.1.device.isInterruptRegistered = registered
  notes : s.2 = x

variable {awake registered : Bool} {x : Registration}

theorem Knows.next {op : Op} {r : op.Ans} (h : Knows awake registered x s) (hop : PowerlessOp op) :
    Knows awake registered x ((registering H).next op s r) := by
  cases op with
  | update f =>
    have hpower := hop s.1.device
    exact ⟨(congrArg Prod.fst hpower).trans h.awake, (congrArg Prod.snd hpower).trans h.registered,
      h.notes⟩
  | registerInterrupt | unregisterInterrupt => contradiction
  | reach point => cases point <;> exact ⟨h.awake, h.registered, h.notes⟩
  | _ => exact ⟨h.awake, h.registered, h.notes⟩

theorem Knows.stable : (interruptedRegistering H).Stable (Knows awake registered x) := by
  have hstable : (registering H).Stable (Knows awake registered x) := by
    rintro s s' h ⟨⟨hw, _, hs⟩, hnotes⟩
    exact ⟨by rw [hs]; exact h.awake, by rw [hs]; exact h.registered, hnotes.trans h.notes⟩
  apply hstable.interrupted
  intro s s' h hexec
  have hq := Prog.performs_mono performs_handleInterrupt fun _ h => HandlerOp.powerlessOp h
  refine hexec.wp (Q := fun _ => Knows awake registered x)
    (wp_performs (G := fun _ _ => True) hq hstable (fun _ _ _ _ => trivial) ?_ h)
  intro op s r hop h _
  exact h.next hop

/-! Registering and unregistering. -/

def RegistrationGuard (op : Op) (s : (registering H).State) : Prop :=
  s.2.count ≤ 1
    ∧ (op = .registerInterrupt → s.2.count = 0)
    ∧ (op = .unregisterInterrupt → s.2.count = 1)

theorem PowerlessOp.guard {op : Op} (hop : PowerlessOp op) (hcount : s.2.count ≤ 1) :
    RegistrationGuard op s := by
  refine ⟨hcount, ?_, ?_⟩
  . rintro rfl
    contradiction
  . rintro rfl
    contradiction

theorem Knows.wp_powerless {q : Driver α} (hq : q.Performs PowerlessOp) (hcount : x.count ≤ 1)
    (h : Knows awake registered x s) :
    wp (interruptedRegistering H) RegistrationGuard q (fun _ => Knows awake registered x) s := by
  refine wp_performs hq Knows.stable ?_ ?_ h
  . intro op s hop h
    apply hop.guard
    rw [h.notes]
    apply hcount
  . intro op s r hop h _
    exact h.next hop

theorem Knows.wp_return {a : α} {Q : α → (registering H).State → Prop}
    (h : Knows awake registered x s) (hQ : ∀ s, Knows awake registered x s → Q a s) :
    wp (interruptedRegistering H) RegistrationGuard (pure a) Q s := by
  intro s' henv
  apply hQ
  exact Knows.stable.env h henv

theorem Knows.wp_device {f : BusDevice → Driver α} {Q : α → (registering H).State → Prop}
    (hcount : x.count ≤ 1) (h : Knows awake registered x s)
    (hf : ∀ d s, d.awake = awake → d.isInterruptRegistered = registered →
      Knows awake registered x s → wp (interruptedRegistering H) RegistrationGuard (f d) Q s) :
    wp (interruptedRegistering H) RegistrationGuard (device >>= f) Q s := by
  apply wp_step Knows.stable h
  intro s h
  have hpowerless : PowerlessOp .device := trivial
  refine ⟨hpowerless.guard (by rw [h.notes]; exact hcount), ?_⟩
  rintro d rfl
  exact hf _ _ h.awake h.registered (h.next (r := s.1.device) hpowerless)

theorem Knows.wp_update {g : BusDevice → BusDevice} {f : Unit → Driver α}
    {Q : α → (registering H).State → Prop} (hcount : x.count ≤ 1) (h : Knows awake registered x s)
    (awake' registered' : Bool)
    (hg : ∀ d : BusDevice, d.power = (awake, registered) → (g d).power = (awake', registered'))
    (hf : ∀ s, Knows awake' registered' x s →
      wp (interruptedRegistering H) RegistrationGuard (f ()) Q s) :
    wp (interruptedRegistering H) RegistrationGuard (update g >>= f) Q s := by
  apply wp_step Knows.stable h
  intro s h
  refine ⟨⟨by rw [h.notes]; exact hcount, by simp, by simp⟩, fun _ _ => ?_⟩
  apply hf
  have hpower := hg s.1.device (Prod.ext h.awake h.registered)
  exact ⟨congrArg Prod.fst hpower, congrArg Prod.snd hpower, h.notes⟩

theorem Knows.wp_startI2CInterrupt {refused : Bool} (h : Knows awake false ⟨0, refused⟩ s) :
    wp (interruptedRegistering H) RegistrationGuard startI2CInterrupt
      (fun ret s => (ret = .success ∧ Knows awake true ⟨1, false⟩ s)
        ∨ (ret ≠ .success ∧ Knows awake false ⟨0, true⟩ s)) s := by
  unfold startI2CInterrupt
  apply h.wp_device (Nat.zero_le 1)
  intro d s _ hd h
  rw [if_neg (by simp [hd])]
  apply wp_step Knows.stable h
  intro s h
  have hzero : s.2.count = 0 := congrArg Registration.count h.notes
  refine ⟨⟨by omega, fun _ => hzero, by simp⟩, fun ret _ => ?_⟩
  by_cases hret : ret = .success
  . have hnext : Knows awake false ⟨1, false⟩ ((registering H).next .registerInterrupt s ret) := by
      refine ⟨h.awake, h.registered, ?_⟩
      simp [Registration.note, hret, hzero]
    rw [if_pos hret]
    unfold enableInterrupt
    rw [wp_bind]
    apply wp_post (hnext.wp_powerless (Prog.performs_perform (by trivial)) (Nat.le_refl 1))
    intro _ s h
    refine h.wp_update (Nat.le_refl 1) awake true (fun d hd => ?_) fun s h => ?_
    . have hawake : d.awake = awake := congrArg Prod.fst hd
      exact Prod.ext hawake rfl
    . exact h.wp_return fun s h => .inl ⟨hret, h⟩
  . have hnext : Knows awake false ⟨0, true⟩ ((registering H).next .registerInterrupt s ret) := by
      refine ⟨h.awake, h.registered, ?_⟩
      simp [Registration.note, hret, hzero]
    rw [if_neg hret]
    exact hnext.wp_return fun s h => .inr ⟨hret, h⟩

theorem Knows.wp_stopI2CInterrupt {refused : Bool}
    (h : Knows awake registered ⟨registered.toNat, refused⟩ s) :
    wp (interruptedRegistering H) RegistrationGuard stopI2CInterrupt
      (fun _ => Knows awake false ⟨0, refused⟩) s := by
  unfold stopI2CInterrupt
  apply h.wp_device (Bool.toNat_le registered)
  intro d s _ hd h
  cases registered with
  | false =>
    rw [if_neg (by simp [hd])]
    exact h.wp_return fun _ h => h
  | true =>
    rw [if_pos hd]
    unfold disableInterrupt
    rw [wp_bind]
    apply wp_post (h.wp_powerless (Prog.performs_perform (by trivial)) (Nat.le_refl 1))
    intro _ s h
    apply wp_step Knows.stable h
    intro s h
    have hone : s.2.count = 1 := congrArg Registration.count h.notes
    refine ⟨⟨by omega, by simp, fun _ => hone⟩, fun _ _ => ?_⟩
    have hnext : Knows awake true ⟨0, refused⟩ ((registering H).next .unregisterInterrupt s ()) := by
      refine ⟨h.awake, h.registered, ?_⟩
      simp [Registration.note, h.notes]
    apply wp_tail
    refine hnext.wp_update (Nat.zero_le 1) awake false (fun d hd => ?_) fun s h => ?_
    . have hawake : d.awake = awake := congrArg Prod.fst hd
      exact Prod.ext hawake rfl
    . exact h.wp_return fun _ h => h

/-! Calls. -/

def Accounted (s : (registering H).State) : Prop :=
  ∃ awake refused, Knows awake (awake && !refused) ⟨(awake && !refused).toNat, refused⟩ s

theorem Accounted.stable : (interruptedRegistering H).Stable Accounted := by
  rintro s s' ⟨awake, refused, h⟩ henv
  exact ⟨awake, refused, Knows.stable s s' h henv⟩

theorem Accounted.count_le (h : Accounted s) : s.2.count ≤ 1 := by
  rcases h with ⟨awake, refused, h⟩
  rw [h.notes]
  apply Bool.toNat_le

theorem Accounted.wp_powerless {q : Driver α} (hq : q.Performs PowerlessOp) (h : Accounted s) :
    wp (interruptedRegistering H) RegistrationGuard q (fun _ => Accounted) s := by
  rcases h with ⟨awake, refused, h⟩
  apply wp_post (h.wp_powerless hq (Bool.toNat_le _))
  intro _ s h
  exact ⟨awake, refused, h⟩

theorem Knows.accounted_powerOff {refused : Bool}
    (h : Knows true (true && !refused) ⟨(true && !refused).toNat, refused⟩ s) :
    wp (interruptedRegistering H) RegistrationGuard setPowerState.powerOff (fun _ => Accounted) s := by
  unfold setPowerState.powerOff
  refine h.wp_update (Bool.toNat_le _) false (true && !refused) (fun d hd => ?_) fun s h => ?_
  . have hregistered : d.isInterruptRegistered = (true && !refused) := congrArg Prod.snd hd
    exact Prod.ext rfl hregistered
  . rw [wp_bind]
    apply wp_post (h.wp_powerless _ (Bool.toNat_le _))
    . intro _ s h
      apply wp_post h.wp_stopI2CInterrupt
      intro _ s h
      exact ⟨false, refused, h⟩
    . exact Prog.performs_mono (transferOp_toggleBusState .off) fun _ h => TransferOp.powerlessOp h

theorem Knows.accounted_powerOn {refused : Bool} (h : Knows false false ⟨0, refused⟩ s) :
    wp (interruptedRegistering H) RegistrationGuard setPowerState.powerOn (fun _ => Accounted) s := by
  have hpowerless : ∀ {β : Type} {q : Driver β}, q.Performs TransferOp → q.Performs PowerlessOp :=
    fun hq => Prog.performs_mono hq fun _ h => TransferOp.powerlessOp h
  unfold setPowerState.powerOn
  rw [wp_bind]
  apply wp_post (h.wp_powerless (hpowerless (transferOp_toggleBusState .on)) (Nat.zero_le 1))
  intro _ s h
  rw [wp_bind]
  apply wp_post (h.wp_powerless (hpowerless transferOp_initialiseBus) (Nat.zero_le 1))
  intro _ s h
  rw [wp_bind]
  apply wp_post (h.wp_powerless (hpowerless (transferOp_toggleInterrupts .off)) (Nat.zero_le 1))
  intro _ s h
  refine h.wp_update (Nat.zero_le 1) true false (fun d hd => ?_) fun s h => ?_
  . have hregistered : d.isInterruptRegistered = false := congrArg Prod.snd hd
    exact Prod.ext rfl hregistered
  . rw [wp_bind]
    apply wp_post h.wp_startI2CInterrupt
    rintro _ s (⟨_, h⟩ | ⟨_, h⟩)
    . exact h.wp_return fun _ h => ⟨true, false, h⟩
    . exact h.wp_return fun _ h => ⟨true, true, h⟩

theorem Accounted.wp_change (whichState : Nat) (h : Accounted s) :
    wp (interruptedRegistering H) RegistrationGuard (setPowerState.change whichState)
      (fun _ => Accounted) s := by
  rcases h with ⟨awake, refused, h⟩
  unfold setPowerState.change
  apply h.wp_device (Bool.toNat_le _)
  intro d s hd _ h
  have hsame : wp (interruptedRegistering H) RegistrationGuard (pure ()) (fun _ => Accounted) s :=
    h.wp_return fun _ h => ⟨awake, refused, h⟩
  cases awake with
  | true =>
    split
    . apply h.accounted_powerOff
    . apply hsame
  | false =>
    split
    . rw [if_neg (by simp [hd])]
      apply hsame
    . rw [if_pos (by simp [hd])]
      apply h.accounted_powerOn

theorem Accounted.wp_call (call : Call) (h : Accounted s) :
    wp (interruptedRegistering H) RegistrationGuard call.run (fun _ => Accounted) s := by
  cases call with
  | transferI2C messages list =>
    apply h.wp_powerless
    unfold Call.run
    apply Prog.performs_bind (Prog.performs_perform (by trivial))
    intro _
    apply Prog.performs_bind
    . exact Prog.performs_mono (transferOp_transferI2C _ _) fun _ h => TransferOp.powerlessOp h
    . intro _
      exact Prog.performs_perform (by trivial)
  | setPowerState whichState forThis =>
    unfold Call.run
    dsimp only
    unfold VoodooI2C.setPowerState
    split
    . apply h.wp_powerless
      apply performs_pure
    . rw [bind_assoc, wp_bind]
      apply wp_post (h.wp_change whichState)
      intro _ s h
      apply h.wp_powerless
      apply performs_pure
  | losePower =>
    apply h.wp_powerless
    unfold Call.run
    simp only [performs_device_bind]
    refine ⟨trivial, fun d => ?_⟩
    split
    . exact ⟨trivial, fun _ => trivial⟩
    . apply performs_pure

theorem powerless_keepBusClear (con : Word) :
    (startController.keepBusClear con).Performs PowerlessOp := by
  unfold startController.keepBusClear
  split
  . exact Prog.performs_perform fun _ => rfl
  . apply performs_pure

theorem Knows.wp_startController {refused : Bool} (h : Knows true false ⟨0, refused⟩ s) :
    wp (interruptedRegistering H) RegistrationGuard startController
      (fun ret s => ret = true → Accounted s) s := by
  have hfalse : ∀ {registered x s}, Knows (H := H) true registered x s →
      wp (interruptedRegistering H) RegistrationGuard (pure false)
        (fun ret s => ret = true → Accounted s) s :=
    fun h => h.wp_return fun _ _ hret => absurd hret Bool.false_ne_true
  have hpowerless : ∀ {β : Type} {q : Driver β}, q.Performs TransferOp → q.Performs PowerlessOp :=
    fun hq => Prog.performs_mono hq fun _ h => TransferOp.powerlessOp h
  unfold startController
  refine h.wp_update (Nat.zero_le 1) true false (fun d hd => hd) fun s h => ?_
  rw [wp_bind]
  apply wp_post (h.wp_powerless (Prog.performs_perform (by trivial)) (Nat.zero_le 1))
  intro con s h
  rw [wp_bind]
  apply wp_post (h.wp_powerless (powerless_keepBusClear con) (Nat.zero_le 1))
  intro _ s h
  rw [wp_bind]
  apply wp_post (h.wp_powerless (hpowerless transferOp_initialiseBus) (Nat.zero_le 1))
  intro ret s h
  split
  . apply hfalse h
  . rw [wp_bind]
    apply wp_post (h.wp_powerless (hpowerless (transferOp_toggleInterrupts .off)) (Nat.zero_le 1))
    intro _ s h
    rw [wp_bind]
    apply wp_post h.wp_startI2CInterrupt
    rintro ret s (⟨hret, h⟩ | ⟨hret, h⟩)
    . rw [if_neg (not_not_intro hret)]
      exact h.wp_return fun _ h _ => ⟨true, false, h⟩
    . rw [if_pos hret]
      apply hfalse h

theorem Accounted.wp_runCalls (calls : List Call) (h : Accounted s) :
    wp (interruptedRegistering H) RegistrationGuard (runCalls calls) (fun _ => Accounted) s := by
  induction calls generalizing s with
  | nil =>
    apply h.wp_powerless
    apply performs_pure
  | cons call calls ih =>
    unfold runCalls
    rw [wp_bind]
    apply wp_post (h.wp_call call)
    intro _ s h
    apply ih h

end Knows

/-! Threads. -/

variable {H : Hardware} {ι Nub : Type} [DecidableEq ι] [DecidableEq Nub] {nubs : Nub → DeviceNub}
  {requests : ι → List (BusRequest Nub)} {s₀ s₁ : (registering H).State}
  {c : Pool (registering H) (Lock Nub) ι Unit}

/--
After `start` any number of threads use the bus. The interrupt is registered only while it is not, and
unregistered only while it is registered once. Whenever no thread has taken `i2c_bus_lock`, it is
registered once if the driver is awake and the last attempt to register it did not fail, and not at
all otherwise.
-/
theorem requests_registered (hawake : s₀.1.device.awake = true)
    (hregistered : s₀.1.device.isInterruptRegistered = false) (hcount : s₀.2.count = 0)
    (hstart : Exec (interruptedRegistering H) startController s₀ true s₁)
    (hc : Pool.Reachable (registering H) handleInterrupt s₁ (fun i => thread nubs (requests i)) c)
    (hidle : c.handler = none) :
    c.state.2.count ≤ 1
      ∧ (∀ i k, c.thread i = .call (.perform .registerInterrupt) k → c.state.2.count = 0)
      ∧ (∀ i k, c.thread i = .call (.perform .unregisterInterrupt) k → c.state.2.count = 1)
      ∧ (c.owner .i2cBusLock = none →
          c.state.2.count = (c.state.1.device.awake && !c.state.2.refused).toNat
            ∧ c.state.1.device.isInterruptRegistered = decide (c.state.2.count = 1)) := by
  have h₀ : Knows true false ⟨0, s₀.2.refused⟩ s₀ := ⟨hawake, hregistered, by rw [← hcount]⟩
  have h₁ : Accounted s₁ := hstart.wp h₀.wp_startController rfl
  rcases hc.exists_ran .i2cBusLock with ⟨taken, performed, hran⟩
  rcases hran.serial fun i => guarded_thread nubs (requests i) with ⟨calls, rest, h⟩
  have hrun := h.run.reachable
  have hsequence : Prog.sequence (calls.map fun call => call.2.run)
      = runCalls (calls.map Prod.snd) := runCalls_eq_sequence calls
  rw [hsequence] at hrun
  have hp := h₁.wp_runCalls (calls.map Prod.snd)
  have hG : ∀ op s, RegistrationGuard (H := H) op s → s.2.count ≤ 1 := fun _ _ h => h.1
  have hQ : ∀ (_ : Unit) (s : (registering H).State), Accounted s → s.2.count ≤ 1 :=
    fun _ _ h => h.count_le
  have hhandler : ∀ s : (registering H).State, s.2.count ≤ 1 →
      wp (registering H) (fun _ _ => True) handleInterrupt (fun _ _ => True) s :=
    fun _ _ => wp_true (wp_of_performs performs_handleInterrupt)
  have hguard : ∀ i op k, c.thread i = .call (.perform op) k → RegistrationGuard op c.state := by
    intro i op k hthread
    have hguarded := h.guarded i
    rw [hthread] at hguarded
    have hmain : Pool.current .i2cBusLock c
        = .call op fun r => Pool.untilRelease .i2cBusLock (k r) := by
      simp only [Pool.current, hguarded.1, hthread, Pool.untilRelease]
    exact hrun.main_guard hG hQ hhandler hp hidle hmain
  refine ⟨hrun.idle hG hQ hhandler hp hidle, ?_, ?_, ?_⟩
  . intro i k hthread
    exact (hguard i _ k hthread).2.1 rfl
  . intro i k hthread
    exact (hguard i _ k hthread).2.2 rfl
  . intro hfree
    have hmain : Pool.current .i2cBusLock c = .ret () := by
      simp only [Pool.current, hfree]
    rcases hrun.main_returns hG hQ hhandler hp hidle hmain with ⟨awake, refused, hknows⟩
    have hstate : c.state.1.device.awake = awake ∧ c.state.1.device.isInterruptRegistered
        = (awake && !refused) ∧ c.state.2 = ⟨(awake && !refused).toNat, refused⟩ :=
      ⟨hknows.awake, hknows.registered, hknows.notes⟩
    rw [hstate.1, hstate.2.1, hstate.2.2]
    refine ⟨rfl, ?_⟩
    cases awake && !refused <;> rfl

/-! The driver sleeps and wakes up, another thread has taken the gate of its nub meanwhile. -/

def registeringPlayer : Player (registering smallFifo) :=
  timeoutPlayer.recording fun op _ r x => Registration.note op r x

def registeringBoot : (registering smallFifo).State := (bootState, ⟨0, false⟩)

def registeringState : (registering smallFifo).State :=
  registeringPlayer.final startController registeringBoot

def cyclingRequests (reads : Bool) : List (BusRequest Unit) :=
  match reads with
  | false => [.setPowerState 0 true, .setPowerState 1 true]
  | true => [.nub () 9 (.readI2C 0x90 1)]

def cyclingPool : Pool (registering smallFifo) (Lock Unit) Bool Unit :=
  registeringPlayer.poolPlay handleInterrupt
    (List.replicate 10 (.thread false) ++ .thread true :: List.replicate 22 (.thread false))
    ⟨registeringState, fun _ => none, fun i => thread (fun _ => busyNub) (cyclingRequests i), none⟩

theorem requests_registered_cycling :
    cyclingPool.owner .i2cBusLock = none
      ∧ cyclingPool.owner (.nubGate ()) = some true
      ∧ cyclingPool.state.2 = ⟨1, false⟩
      ∧ cyclingPool.state.2.count ≤ 1
      ∧ (∀ i k, cyclingPool.thread i = .call (.perform .registerInterrupt) k →
          cyclingPool.state.2.count = 0)
      ∧ (∀ i k, cyclingPool.thread i = .call (.perform .unregisterInterrupt) k →
          cyclingPool.state.2.count = 1)
      ∧ (cyclingPool.owner .i2cBusLock = none →
          cyclingPool.state.2.count
              = (cyclingPool.state.1.device.awake && !cyclingPool.state.2.refused).toNat
            ∧ cyclingPool.state.1.device.isInterruptRegistered
              = decide (cyclingPool.state.2.count = 1)) := by
  have hc : Pool.Reachable (registering smallFifo) handleInterrupt registeringState
      (fun i => thread (fun _ => busyNub) (cyclingRequests i)) cyclingPool := by
    apply registeringPlayer.reachable_poolPlay
  have hstart : Exec (interruptedRegistering smallFifo) startController registeringBoot true
      registeringState := by
    apply Exec.interrupted
    apply registeringPlayer.exec_final
    decide +kernel
  refine ⟨by decide +kernel, by decide +kernel, by decide +kernel, ?_⟩
  exact requests_registered rfl rfl rfl hstart hc (by decide +kernel)

end VoodooI2C
