import VoodooI2C.Refusal.Handler

/-!
This module contains when the caller is told that a list was refused, for all runs with a controller
that aborts nothing.
-/

namespace VoodooI2C

open Interaction RegisterFile

variable {txDepth rxDepth : Word} {list : List BusMessage} {p : Pointer}
  {byte₀ : Address → Byte} {status : Word} {s s₀ : State (steadyFifo txDepth rxDepth)}
  {log t : List Event} {e : Event} {r : SleepResult}

/--
What the caller is woken up for until it returns from its sleep.
-/
structure Watchful (list : List BusMessage) (s : State (steadyFifo txDepth rxDepth)) : Prop where
  begun : Begun s.log
  endless : Endless s.hw
  command : s.device.commandError = 0
  entered : .enterSleep ∈ s.log → s.sleeper ≠ .running
  sleeps : ∀ r, .sleep r ∉ s.log
  woken : s.sleeper = .woken → .wakeup ∈ s.log
  wakeup : InTime list s.log → .wakeup ∈ s.log → s.device.messageError ≠ 0

/--
If a message was refused in time, the caller has been woken up.
-/
structure Attentive (list : List BusMessage) (s : State (steadyFifo txDepth rxDepth)) : Prop
    extends Watchful list s where
  error : InTime list s.log → s.device.messageError ≠ 0 → s.sleeper = .woken

/--
If a message was refused in time, the caller has been woken up or will be at the end of this run.
-/
structure Noticing (list : List BusMessage) (s : State (steadyFifo txDepth rxDepth)) : Prop
    extends Watchful list s where
  error : InTime list s.log → s.device.messageError ≠ 0 →
    s.sleeper = .woken ∨ s.sleeper ≠ .running ∧ s.device.receiveOutstanding = 0

theorem Watchful.grown (h : Watchful list s₀) (hgrown : Grown s₀ s)
    (herror : s₀.device.messageError ≠ 0 → s.device.messageError ≠ 0) : Watchful list s where
  begun := hgrown.mem h.begun
  endless := hgrown.endless
  command := hgrown.command.trans h.command
  entered henter := by
    rw [hgrown.sleeper]
    apply h.entered
    rw [← hgrown.mem_iff (by simp [Event.Plain])]
    apply henter
  sleeps r := by
    rw [hgrown.mem_iff (by simp [Event.Plain])]
    apply h.sleeps
  woken hwoken := by
    rw [hgrown.mem_iff (by simp [Event.Plain])]
    apply h.woken
    rw [← hgrown.sleeper]
    apply hwoken
  wakeup htime hwakeup := by
    apply herror
    apply h.wakeup (hgrown.inTime htime)
    rw [← hgrown.mem_iff (by simp [Event.Plain])]
    apply hwakeup

namespace Attentive

theorem noticing (h : Attentive list s) : Noticing list s :=
  { h with error := fun htime herror => .inl (h.error htime herror) }

theorem unchanged (h : Attentive list s₀) (hunchanged : Unchanged s₀ s) : Attentive list s where
  toWatchful := by
    apply h.toWatchful.grown hunchanged.toGrown
    rw [hunchanged.error]
    exact id
  error htime herror := by
    rw [hunchanged.sleeper]
    apply h.error (hunchanged.inTime htime)
    rw [← hunchanged.error]
    apply herror

theorem sending (h : Attentive list s₀) (hsending : Sending list s₀ s) : Noticing list s where
  toWatchful := by
    apply h.toWatchful.grown hsending.toGrown
    intro herror
    exact absurd hsending.error herror
  error htime herror := by
    right
    rcases hsending.refused herror htime with ⟨henter, houtstanding⟩
    refine ⟨?_, houtstanding⟩
    rw [hsending.sleeper]
    apply h.entered
    rw [← hsending.mem_iff (by simp [Event.Plain])]
    apply henter

end Attentive

structure Leaving (list : List BusMessage) (r : SleepResult)
    (s : State (steadyFifo txDepth rxDepth)) : Prop where
  begun : Begun s.log
  endless : Endless s.hw
  slept : ∀ r', .sleep r' ∈ s.log → r' = r
  error : InTime list s.log → r = .awakened → s.device.messageError ≠ 0

namespace Leaving

theorem grown (h : Leaving list r s₀) (hgrown : Grown s₀ s)
    (herror : s₀.device.messageError ≠ 0 → s.device.messageError ≠ 0) : Leaving list r s where
  begun := hgrown.mem h.begun
  endless := hgrown.endless
  slept r' hmem := by
    apply h.slept
    rw [← hgrown.mem_iff (by simp [Event.Plain])]
    apply hmem
  error htime hr := by
    apply herror
    apply h.error (hgrown.inTime htime) hr

theorem unchanged (h : Leaving list r s₀) (hunchanged : Unchanged s₀ s) : Leaving list r s := by
  apply h.grown hunchanged.toGrown
  rw [hunchanged.error]
  exact id

theorem sending (h : Leaving list r s₀) (hsending : Sending list s₀ s) : Leaving list r s := by
  apply h.grown hsending.toGrown
  intro herror
  exact absurd hsending.error herror

end Leaving

namespace Noticing

theorem wakes (h : Noticing list s) (herror : s.device.messageError ≠ 0) {hw : Fifo}
    (hend : Endless hw) :
    Attentive list ({ s with
      sleeper := if s.sleeper = .asleep then .woken else s.sleeper
      log := s.log ++ [.wakeup]
      hw := hw } : State (steadyFifo txDepth rxDepth)) where
  begun := List.mem_append_left _ h.begun
  endless := hend
  command := h.command
  entered henter := by
    have := h.entered (by simpa using henter)
    dsimp only
    split
    . simp
    . apply this
  sleeps r := by
    simpa using h.sleeps r
  woken _ := by simp
  wakeup _ _ := herror
  error htime _ := by
    have := h.error htime.of_append herror
    cases hs : s.sleeper with
    | running => simp [hs] at this
    | asleep => rfl
    | woken => rfl

theorem wp_wakeup (habort : status &&& intrTxAbrt = 0) (hstop : status &&& intrStopDet = 0)
    (h : Noticing list s) :
    wp (system (steadyFifo txDepth rxDepth)) SleepGuard (serviceInterrupt.wakeup status)
      (fun _ => Attentive list) s := by
  have hbits : status &&& (intrTxAbrt ||| intrStopDet) = 0 := by
    rw [BitVec.and_or_distrib_left, habort, hstop]
    rfl
  unfold serviceInterrupt.wakeup
  apply wp_device
  split
  . next hdone =>
    have herror : s.device.messageError ≠ 0 := by
      rcases hdone.1 with hstatus | herror
      . exact absurd hbits hstatus
      . apply herror
    apply wp_tail
    apply wp_commandWakeup
    apply wp_done
    intro hw hsteps
    apply h.wakes herror
    apply ((Unchanged.refl h.endless).steps hsteps).endless
  . next hdone =>
    have hattentive : Attentive list s :=
      { h with
        error := by
          intro htime herror
          rcases h.error htime herror with hwoken | ⟨_, houtstanding⟩
          . apply hwoken
          . exact absurd ⟨.inr herror, houtstanding⟩ hdone }
    have hrefl := Unchanged.refl h.endless
    split
    . apply wp_post hrefl.wp_workaround
      intro _ s' h'
      apply hattentive.unchanged h'
    . apply wp_done
      intro hw hsteps
      apply hattentive.unchanged (hrefl.steps hsteps)

end Noticing

theorem Leaving.wp_wakeup (h : Leaving list r s) :
    wp (system (steadyFifo txDepth rxDepth)) SleepGuard (serviceInterrupt.wakeup status)
      (fun _ => Leaving list r) s := by
  have hrefl := Unchanged.refl h.endless
  unfold serviceInterrupt.wakeup
  apply wp_device
  split
  . apply wp_tail
    apply wp_commandWakeup
    apply wp_done
    intro hw hsteps
    exact
      { begun := List.mem_append_left _ h.begun
        endless := (hrefl.steps hsteps).endless
        slept := fun r' hmem => h.slept r' (by simpa using hmem)
        error := fun htime => h.error htime.of_append }
  . split
    . apply wp_post hrefl.wp_workaround
      intro _ s' h'
      apply h.unchanged h'
    . apply wp_done
      intro hw hsteps
      apply h.unchanged (hrefl.steps hsteps)

def EndsWoken (log : List Event) : Prop :=
  ∀ before r after, log = before ++ .sleep r :: after → .wakeup ∈ before → r = .awakened

theorem EndsWoken.concat (h : EndsWoken log) (he : ∀ r, e = .sleep r → .wakeup ∈ log → r = .awakened) :
    EndsWoken (log ++ [e]) := by
  intro before r after heq hwakeup
  rcases List.eq_nil_or_concat after with rfl | ⟨after, e', rfl⟩
  . rcases List.append_inj' heq rfl with ⟨rfl, hlast⟩
    apply he r _ hwakeup
    simpa using hlast
  . rw [List.concat_eq_append, ← List.cons_append, ← List.append_assoc] at heq
    rcases List.append_inj' heq rfl with ⟨rfl, _⟩
    apply h before r after rfl hwakeup

theorem EndsWoken.of_not_mem (h : ∀ r, .sleep r ∉ log) : EndsWoken log := by
  intro before r after heq
  exact absurd (by simp [heq]) (h r)

theorem endsWoken_next {op : Op} {a : op.Ans} (hguard : SleepGuard op s)
    (h : InTime list s.log → EndsWoken s.log) :
    InTime list (State.next op s a).log → EndsWoken (State.next op s a).log := by
  intro htime
  cases op with
  | leaveSleep => contradiction
  | readRegister reg | writeRegister v reg | store b c | enterSleep | commandWakeup =>
    apply EndsWoken.concat
    . apply h htime.of_append
    . simp
  | beginTransfer messages list =>
    apply EndsWoken.of_not_mem
    simp [State.next]
  | reach point => cases point <;> apply h htime
  | _ => apply h htime

theorem Attentive.quiet : Quiet (@Attentive txDepth rxDepth list) where
  stable := by
    rintro s _ h ⟨hw, hstep, rfl⟩
    apply h.unchanged ((Unchanged.refl h.endless).steps (.single hstep))
  next op s a hop h _ := h.unchanged ((Unchanged.refl h.endless).next_quiet hop.quietOp)

theorem Leaving.quiet : Quiet (@Leaving txDepth rxDepth list r) where
  stable := by
    rintro s _ h ⟨hw, hstep, rfl⟩
    apply h.unchanged ((Unchanged.refl h.endless).steps (.single hstep))
  next op s a hop h _ := h.unchanged ((Unchanged.refl h.endless).next_quiet hop.quietOp)

theorem preserved_of_parts {R : State (steadyFifo txDepth rxDepth) → Prop}
    (R' : State (steadyFifo txDepth rxDepth) → Prop)
    (hquiet : Quiet R) (hfaulty : Faulty list) (hbegun : ∀ s, R s → Begun s.log)
    (hendless : ∀ s, R s → Endless s.hw) (hunchanged : ∀ s₀ s, R s₀ → Unchanged s₀ s → R s)
    (hweaken : ∀ s, R s → R' s) (hsending : ∀ s₀ s, R s₀ → Sending list s₀ s → R' s)
    (hwakeup : ∀ s status, status &&& intrTxAbrt = 0 → status &&& intrStopDet = 0 → R' s →
      wp (system (steadyFifo txDepth rxDepth)) SleepGuard (serviceInterrupt.wakeup status)
        (fun _ => R) s) :
    Preserved p list byte₀ SleepGuard R fun s => InTime list s.log → EndsWoken s.log where
  quiet := hquiet
  guard op s hop _ _ := hop.handlerOp.sleepGuard
  service s status hon h hread := by
    have hend := hendless s h
    rcases hend.intrStat hread with ⟨habort, hstop⟩
    have hstatus : Unmasked status
        ({ s with
          hw := s.hw.read .intrStat
          log := s.log ++ [.read .intrStat status] } : State (steadyFifo txDepth rxDepth)) := by
      apply canRead_intrStat hread
    apply On.wp_service R R R R' R
    . apply hon.append
      . apply Silent.read
        simp
      . apply value_intrMask_read
    . apply hstatus
    . apply hunchanged s _ h
      apply (Unchanged.refl hend).read
    . intro s _ _ h
      apply wp_post (Unchanged.wp_clear (Unchanged.refl (hendless s h)))
      intro _ s' h'
      apply hunchanged s s' h h'
    . intro hbit
      exact absurd habort hbit
    . intro _ s _ _ h
      apply wp_post (Unchanged.wp_receive (Unchanged.refl (hendless s h)))
      intro _ s' h'
      apply hunchanged s s' h h'
    . intro _ s hon hstatus h
      apply wp_post (wp_send_refused hfaulty hon hstatus (hbegun s h) (hendless s h))
      rintro _ s' (h' | h')
      . apply hweaken s' (hunchanged s s' h h')
      . apply hsending s s' h h'
    . intro s _ h
      apply hwakeup s status habort hstop h
  log_stable := by
    rintro s _ h ⟨hw, _, rfl⟩
    apply h
  log_next op s a _ hguard h _ := endsWoken_next hguard h

theorem Attentive.preserved (p : Pointer) (byte₀ : Address → Byte) (hfaulty : Faulty list) :
    Preserved p list byte₀ (@SleepGuard txDepth rxDepth) (Attentive list)
      (fun s => InTime list s.log → EndsWoken s.log) := by
  apply preserved_of_parts (Noticing list) Attentive.quiet hfaulty
  . intro s h
    apply h.begun
  . intro s h
    apply h.endless
  . intro s₀ s h h'
    apply h.unchanged h'
  . intro s h
    apply h.noticing
  . intro s₀ s h h'
    apply h.sending h'
  . intro s status habort hstop h
    apply h.wp_wakeup habort hstop

theorem Leaving.preserved (p : Pointer) (byte₀ : Address → Byte) (hfaulty : Faulty list)
    (r : SleepResult) :
    Preserved p list byte₀ (@SleepGuard txDepth rxDepth) (Leaving list r)
      (fun s => InTime list s.log → EndsWoken s.log) := by
  apply preserved_of_parts (Leaving list r) Leaving.quiet hfaulty
  . intro s h
    apply h.begun
  . intro s h
    apply h.endless
  . intro s₀ s h h'
    apply h.unchanged h'
  . intro s h
    apply h
  . intro s₀ s h h'
    apply h.sending h'
  . intro s status _ _ h
    apply h.wp_wakeup

theorem Watchful.start (h : Preparatory s.log) (hsleeper : s.sleeper = .running)
    (hcommand : s.device.commandError = 0) (hend : Endless s.hw) :
    Watchful list ({ s with
      hw := s.hw.write txDepth.toNat intrDefaultMask .intrMask
      log := s.log ++ [.write intrDefaultMask .intrMask] } : State (steadyFifo txDepth rxDepth))
    where
  begun := by simp [Begun]
  endless := by
    show Endless (s.hw.write txDepth.toNat intrDefaultMask .intrMask)
    apply hend.write
    intro heq
    contradiction
  command := hcommand
  entered henter := by
    have := h.not_mem (e := .enterSleep) (by simp [Event.Preparatory])
    simp [this] at henter
  sleeps r := by
    have := h.not_mem (e := .sleep r) (by simp [Event.Preparatory])
    simpa using this
  woken hwoken := by
    rw [hsleeper] at hwoken
    contradiction
  wakeup _ hwakeup := by
    have := h.not_mem (e := .wakeup) (by simp [Event.Preparatory])
    simp [this] at hwakeup

theorem Attentive.sleep (h : Attentive list s) (hsleeper : s.sleeper = .running) :
    Attentive list { s with sleeper := .asleep, log := s.log ++ [.enterSleep] } where
  begun := List.mem_append_left _ h.begun
  endless := h.endless
  command := h.command
  entered _ := by simp
  sleeps r := by
    simpa using h.sleeps r
  woken hwoken := by contradiction
  wakeup htime hwakeup := by
    apply h.wakeup htime.of_append
    simpa using hwakeup
  error htime herror := by
    have := h.error htime.of_append herror
    rw [hsleeper] at this
    contradiction

theorem Attentive.leave (h : Attentive list s) (hr : State.admits .leaveSleep s r) :
    Leaving list r { s with sleeper := .running, log := s.log ++ [.sleep r] } where
  begun := List.mem_append_left _ h.begun
  endless := h.endless
  slept r' hmem := by
    simpa [h.sleeps r'] using hmem
  error htime hawakened := by
    apply h.wakeup htime.of_append
    apply h.woken
    exact hr.mp hawakened

structure Told (list : List BusMessage) (r : SleepResult) (d : BusDevice) (log : List Event) : Prop
    where
  slept : ∀ r', .sleep r' ∈ log → r' = r
  error : InTime list log → r = .awakened → d.messageError ≠ 0

theorem Told.append {d : BusDevice} (h : Told list r d log) (he : e.Plain) :
    Told list r d (log ++ [e]) where
  slept r' hmem := by
    rw [List.mem_append, List.mem_singleton] at hmem
    rcases hmem with hmem | rfl
    . apply h.slept r' hmem
    . contradiction
  error htime := h.error htime.of_append

theorem endsWoken_append (he : e.Plain) (h : InTime list log → EndsWoken log) :
    InTime list (log ++ [e]) → EndsWoken (log ++ [e]) := by
  intro htime
  apply (h htime.of_append).concat
  rintro r rfl
  contradiction

def refusalExtension (s₀ : State (steadyFifo txDepth rxDepth)) (p : Pointer)
    (hfaulty : Faulty list) : Extension s₀ p list Fifo.Empty Fifo.Cleared where
  guard := SleepGuard
  on := Attentive list
  left r := Leaving list r
  done r s := Told list r s.device s.log
  log s := InTime list s.log → EndsWoken s.log
  on_preserved := Attentive.preserved p s₀.memory.byte hfaulty
  left_preserved := Leaving.preserved p s₀.memory.byte hfaulty
  cleared_clrIntr h v hempty _ := hempty.cleared
  cleared_calm h hcleared := hcleared.toEmpty
  cleared_step h h' hcleared hstep := hcleared.step hstep.1
  cleared_read reg h v hcleared hreg _ := hcleared.read hreg
  cleared_write h hcleared := { hcleared with }
  start s hdevice _ hsleeper hlog _ _ hcleared s' hs' := by
    rw [hs']
    have hend : Endless s.hw :=
      { hcleared with
        tx := by
          rw [hcleared.tx]
          simp }
    constructor
    . refine { Watchful.start hlog hsleeper ?_ hend with error := ?_ }
      . rw [hdevice]
        rfl
      . intro _ herror
        simp only [hdevice] at herror
        contradiction
    . intro _
      apply EndsWoken.of_not_mem
      intro r
      have := hlog.not_mem (e := .sleep r) (by simp [Event.Preparatory])
      simpa using this
  sleep s _ h hlog hsleeper s' hs' := by
    rw [hs']
    refine ⟨h.sleep hsleeper, ?_⟩
    intro htime
    apply (hlog htime.of_append).concat
    simp
  leave s r _ h hlog hsleeper hr s' hs' := by
    rw [hs']
    refine ⟨h.leave hr, ?_⟩
    intro htime
    apply (hlog htime.of_append).concat
    intro r' heq hwakeup
    have hwoken := h.error htime.of_append (h.wakeup htime.of_append hwakeup)
    rw [Event.sleep.injEq] at heq
    rw [← heq]
    exact hr.mpr hwoken
  off s r _ h hlog _ s' hs' := by
    rw [hs']
    have htold : Told list r s.device s.log := ⟨h.slept, h.error⟩
    exact ⟨htold.append trivial, endsWoken_append trivial hlog⟩
  done_untouched r :=
    { step := fun s hw h _ => h
      read := fun s reg v h _ _ => ⟨h.1.append trivial, endsWoken_append trivial h.2⟩
      write := fun s v reg h _ _ _ => ⟨h.1.append trivial, endsWoken_append trivial h.2⟩ }
  done_return s r h hlog := ⟨h, hlog⟩

theorem Attentive.messageError (h : Attentive list s) (htime : InTime list s.log)
    (hasleep : s.sleeper = .asleep) : s.device.messageError = 0 := by
  by_contra herror
  have := h.error htime herror
  rw [hasleep] at this
  contradiction

theorem Attentive.working (h : Attentive list s) (hon : On p list byte₀ s) :
    Working list s.device s.log (value s.hw .intrMask) := by
  rcases hon.2.2 with hworking | ⟨hcommand, _⟩
  . apply hworking
  . rw [h.command] at hcommand
    contradiction

theorem Attentive.index_ne (h : Attentive list s) (hfaulty : Faulty list) (hon : On p list byte₀ s) :
    s.device.messageWriteIndex ≠ s.device.messageNumber := by
  rw [hon.1.2.2.2.1]
  apply hfaulty.index_ne (h.working hon).2.1

theorem Attentive.mask (h : Attentive list s) (htime : InTime list s.log) (hfaulty : Faulty list)
    (hon : On p list byte₀ s) (hasleep : s.sleeper = .asleep) :
    value s.hw .intrMask = intrDefaultMask := by
  have hmask := (h.working hon).2.2.2
  unfold MaskFits at hmask
  rw [if_neg (not_not_intro (h.messageError htime hasleep)), if_neg (h.index_ne hfaulty hon)] at hmask
  apply hmask.1

section Reachable

variable {memory : Memory} {c : Config (system (steadyFifo txDepth rxDepth)) IOReturn}

theorem transferI2C_endsWoken (h₀ : AtRest Fifo.Empty s) (hfaulty : Faulty list)
    (hmessage : ∀ i m, list[i]? = some m → memory.message p i = m)
    (hc : Reachable (system (steadyFifo txDepth rxDepth)) handleInterrupt
      (State.next (.beginTransfer p list) s memory) (transferI2C p list.length) c)
    (htime : InTime list c.state.log) : EndsWoken c.state.log := by
  have hK := Fifo.Empty.calm_steady txDepth rxDepth
  let e := refusalExtension (State.next (.beginTransfer p list) s memory) p hfaulty
  apply e.reachable (F := fun s : State (steadyFifo txDepth rxDepth) =>
    InTime list s.log → EndsWoken s.log) rfl hmessage hK _ _ (e.resting h₀ hK hmessage) hc htime
  . intro s h _ _
    apply EndsWoken.of_not_mem
    intro r
    apply h.not_mem
    simp [Event.Preparatory]
  . intro s h
    apply h

theorem transferI2C_error (h₀ : AtRest Fifo.Empty s) (hfaulty : Faulty list)
    (hmessage : ∀ i m, list[i]? = some m → memory.message p i = m)
    (hc : Reachable (system (steadyFifo txDepth rxDepth)) handleInterrupt
      (State.next (.beginTransfer p list) s memory) (transferI2C p list.length) c)
    (htime : InTime list c.state.log) {ret : IOReturn} (hnone : c.handler = none)
    (hmain : c.main = .ret ret) (hmem : .sleep .awakened ∈ c.state.log) : ret = .error := by
  have hK := Fifo.Empty.calm_steady txDepth rxDepth
  let e := refusalExtension (State.next (.beginTransfer p list) s memory) p hfaulty
  rcases e.reachable_returns rfl hmessage hK (e.resting h₀ hK hmessage) hc hnone hmain
    with h | ⟨r, hret, _, htold, _⟩
  . exact absurd hmem (h.not_mem (by simp [Event.Preparatory]))
  . obtain rfl := htold.slept _ hmem
    rw [hret]
    unfold outcome
    rw [if_neg (by simp), if_pos (htold.error htime rfl)]

theorem transferI2C_attentive (h₀ : AtRest Fifo.Empty s) (hfaulty : Faulty list)
    (hmessage : ∀ i m, list[i]? = some m → memory.message p i = m)
    (hc : Reachable (system (steadyFifo txDepth rxDepth)) handleInterrupt
      (State.next (.beginTransfer p list) s memory) (transferI2C p list.length) c)
    (hnone : c.handler = none) (hsleeper : c.state.sleeper ≠ .running) :
    On p list memory.byte c.state ∧ Attentive list c.state := by
  have hK := Fifo.Empty.calm_steady txDepth rxDepth
  let e := refusalExtension (State.next (.beginTransfer p list) s memory) p hfaulty
  rcases e.reachable_asleep rfl hmessage hK (e.resting h₀ hK hmessage) hc hnone hsleeper
    with ⟨hon, hattentive, _⟩
  exact ⟨hon.1, hattentive⟩

end Reachable

end VoodooI2C
