import VoodooI2C.Completion.Run
import VoodooI2C.Progress.Service

/-!
This module contains that a transfer does not get stuck unless a wakeup is lost.
-/

namespace VoodooI2C

open Interaction RegisterFile

section Wakeups

variable {H : Hardware} {s s' : State H} {p : Pointer} {list : List BusMessage} {log : List Event}

def WakeupsInSleep (log : List Event) : Prop :=
  ∀ before after, log = before ++ .wakeup :: after → .enterSleep ∈ before ∧ ∀ r, .sleep r ∉ before

theorem WakeupsInSleep.wokenUp (h : WakeupsInSleep log) (hmem : .wakeup ∈ log) : WokenUp log := by
  rcases List.append_of_mem hmem with ⟨before, after, heq⟩
  exact ⟨before, after, heq, h before after heq⟩

def Unwoken (s : State H) : Prop := s.sleeper ≠ .woken ∧ .sleep .awakened ∉ s.log

/--
Between the two states a command was written, a byte was popped or the handler called `commandWakeup`,
which wakes up the caller if it sleeps.
-/
def Advances (s s' : State H) : Prop :=
  ∃ new, s'.log = s.log ++ new
    ∧ ((∃ v, .write v .dataCmd ∈ new)
        ∨ (∃ v, .read .dataCmd v ∈ new)
        ∨ .wakeup ∈ new ∧ (WakeupsInSleep s'.log → s'.sleeper = .woken))

theorem exec_handlerOp_log {α : Type} {q : Driver α} {a : α} (hq : q.Performs HandlerOp)
    (hexec : Exec (system H) q s a s') : ∃ new, s'.log = s.log ++ new := by
  have hwp : wp (system H) (fun _ _ => True) q (fun _ s' => ∃ new, s'.log = s.log ++ new) s := by
    apply wp_performs hq
    . rintro _ _ h ⟨hw, _, rfl⟩
      apply h
    . intro _ _ _ _
      trivial
    . rintro op s₁ r hop ⟨new, hnew⟩ _
      rcases log_next_handlerOp (s := s₁) (r := r) hop with hlog | ⟨e, hlog, _⟩
      . exact ⟨new, hlog.trans hnew⟩
      . refine ⟨new ++ [e], ?_⟩
        rw [← List.append_assoc, ← hnew]
        apply hlog
    . exact ⟨[], by simp⟩
  apply hexec.wp hwp

theorem Dozing.exec (h : Dozing s) (hexec : Exec (system H) handleInterrupt s () s') : Dozing s' := by
  have hwp : wp (system H) (fun _ _ => True) handleInterrupt (fun _ => Dozing) s := by
    apply wp_performs performs_handleInterrupt Dozing.stable
    . intro _ _ _ _
      trivial
    . intro op s r hop h _
      apply h.next hop
    . apply h
  apply hexec.wp hwp

theorem mem_of_words {t : List Event} (h : words t ≠ []) : ∃ v, .write v .dataCmd ∈ t := by
  rcases List.exists_mem_of_ne_nil _ h with ⟨v, hv⟩
  unfold words at hv
  rw [List.mem_filterMap] at hv
  rcases hv with ⟨e, he, heq⟩
  cases e with
  | write v reg =>
    cases reg with
    | dataCmd => exact ⟨v, he⟩
    | _ => contradiction
  | _ => contradiction

theorem mem_of_pops {t : List Event} (h : pops t ≠ []) : ∃ v, .read .dataCmd v ∈ t := by
  rcases List.exists_mem_of_ne_nil _ h with ⟨b, hb⟩
  unfold pops at hb
  rw [List.mem_filterMap] at hb
  rcases hb with ⟨e, he, heq⟩
  cases e with
  | read reg v =>
    cases reg with
    | dataCmd => exact ⟨v, he⟩
    | _ => contradiction
  | _ => contradiction

theorem not_wakeup (hsleep : Preparatory s.log ∨ Dozing s ∨ ∃ r, Risen r s) (hunwoken : Unwoken s)
    (hwakeups : WakeupsInSleep s.log) : .wakeup ∉ s.log := by
  intro hmem
  have hwoken := hwakeups.wokenUp hmem
  rcases hsleep with h | h | ⟨r, h⟩
  . exact h.not_mem (by simp [Event.Preparatory]) hmem
  . exact hunwoken.1 (h.woken hwoken)
  . apply hunwoken.2
    rw [← h.awakened hwoken]
    apply h.slept

variable [RegisterFile H] {memory : Memory} {c : Config (system H) IOReturn}

theorem transferI2C_sleep (h₀ : Between s)
    (hmessage : ∀ i m, list[i]? = some m → memory.message p i = m)
    (hc : Reachable (system H) handleInterrupt (State.next (.beginTransfer p list) s memory)
      (transferI2C p list.length) c) (hnone : c.handler = none) :
    Preparatory c.state.log ∨ Dozing c.state ∨ ∃ r, Risen r c.state := by
  let e := wakeupExtension (State.next (.beginTransfer p list) s memory) p list
  have hrest := e.resting (h₀.atRest Calm.true) Calm.true hmessage
  rcases e.reachable_phase rfl hmessage Calm.true hrest hc hnone
    with ⟨d, preparing, h⟩ | h | h | ⟨r, h⟩ | ⟨r, h⟩
  . exact .inl h.log
  . exact .inl h.log
  . exact .inr (.inl h.2.1)
  . exact .inr (.inr ⟨r, h.1.2.1⟩)
  . exact .inr (.inr ⟨r, h.2.1⟩)

end Wakeups

variable {txDepth rxDepth : Word} {s s' : State (fifo txDepth rxDepth)} {p : Pointer}
  {list : List BusMessage} {byte₀ : Address → Byte} {e₀ : List Word}

theorem Whole.places_ne_nil (hwhole : Whole list) (hsome : list ≠ []) :
    VoodooI2C.places list ≠ [] := by
  intro hnil
  have hplaces := hwhole.places
  rw [hnil, List.map_nil] at hplaces
  cases list with
  | nil => contradiction
  | cons m list =>
    have hlength := hwhole.length_ne_zero m List.mem_cons_self
    rw [List.flatMap_cons] at hplaces
    have hrange := congrArg List.length (List.append_eq_nil_iff.mp hplaces.symm).1
    rw [List.length_map, List.length_range, List.length_nil] at hrange
    apply hlength
    apply BitVec.eq_of_toNat_eq hrange

theorem Vigilant.poised (h : Vigilant e₀ list s) (hon : On p list byte₀ s)
    (hawake : s.device.awake = true) (haborted : s.hw.aborted = false) (htx : s.hw.tx = [])
    (hmessage : s.device.messageError = 0)
    (hdue : s.device.messageWriteIndex = s.device.messageNumber → s.hw.stopDet = true) :
    Poised p list byte₀ e₀ s.hw.rx (words s.log).length (pops s.log).length s := by
  have hbalanced : Balanced s := by
    rcases h.flows.flowing with hbalanced | ⟨_, haborted'⟩
    . apply hbalanced
    . rw [haborted] at haborted'
      contradiction
  exact
    { on := hon
      vigilant := h
      still :=
        { depths := h.flows.depths
          commandError := hbalanced.1
          messageError := hmessage
          outstanding := by
            rw [hbalanced.2.owed_eq haborted]
            unfold Fifo.owed
            rw [htx, List.countP_nil, Nat.add_zero]
          tx := htx
          rx := rfl
          written := rfl
          popped := rfl }
      awake := hawake
      enabled := hbalanced.2.enabled
      aborted := fun h => by
        rw [haborted] at h
        contradiction
      due := by
        by_cases hindex : s.device.messageWriteIndex = s.device.messageNumber
        . exact .inr (.inl (hdue hindex))
        . exact .inr (.inr hindex) }

theorem Vigilant.stopDet (h : Vigilant e₀ list s) (hon : On p list byte₀ s) (hwhole : Whole list)
    (hsome : list ≠ []) (haborted : s.hw.aborted = false) (htx : s.hw.tx = [])
    (hwakeup : .wakeup ∉ s.log) (hmessage : s.device.messageError = 0)
    (hindex : s.device.messageWriteIndex = s.device.messageNumber) : s.hw.stopDet = true := by
  have hcount := hon.2.1.2.1 hindex hmessage
  have hwords : words s.log ≠ [] := by
    rw [← List.length_pos_iff, hcount, List.length_pos_iff]
    apply hwhole.places_ne_nil hsome
  rcases h.raised haborted hwhole hwords hcount htx with hstop | hcleared
  . apply hstop
  . exact absurd (hcleared.wakeup h.answered) hwakeup

theorem Progressed.advances {new : List Event}
    (h : Progressed (words s.log).length (pops s.log).length s'.log) (hnew : s'.log = s.log ++ new)
    (hwakeup : .wakeup ∉ s.log)
    (hwoken : .wakeup ∈ new → WakeupsInSleep s'.log → s'.sleeper = .woken) : Advances s s' := by
  refine ⟨new, hnew, ?_⟩
  unfold Progressed at h
  rw [hnew, words_append, pops_append, List.length_append, List.length_append, List.mem_append] at h
  rcases h with h | h | h | h
  . left
    apply mem_of_words
    rw [← List.length_pos_iff]
    omega
  . right
    left
    apply mem_of_pops
    rw [← List.length_pos_iff]
    omega
  . contradiction
  . exact .inr (.inr ⟨h, hwoken h⟩)

structure InProgress (s : State (fifo txDepth rxDepth)) : Prop where
  begun : Begun s.log
  enabled : s.hw.regs .enable ≠ 0
  awake : s.device.awake = true
  aborted : s.hw.aborted = false

/--
The controller can execute a command, or an interrupt is pending whose run makes progress.
-/
def Live (s : State (fifo txDepth rxDepth)) : Prop :=
  (∃ v b, s.hw.tx.head? = some v
      ∧ Fifo.Step rxDepth.toNat s.hw (s.hw.execute rxDepth.toNat v b))
    ∨ (∀ v, (fifo txDepth rxDepth).canRead .intrStat s.hw v → v ≠ 0)
      ∧ (∃ s', Exec (system (fifo txDepth rxDepth)) handleInterrupt s () s')
      ∧ ∀ s', Exec (system (fifo txDepth rxDepth)) handleInterrupt s () s' → Advances s s'

theorem exists_exec_handleInterrupt (s : State (fifo txDepth rxDepth)) :
    ∃ s', Exec (system (fifo txDepth rxDepth)) handleInterrupt s () s' := by
  rcases exists_exec (W := system (fifo txDepth rxDepth)) performs_handleInterrupt
    (fun op s _ =>
      ⟨_, (Fifo.script txDepth rxDepth).admits_respond SleepResult.timedOut_ne op s⟩) s
    with ⟨_, s', hexec⟩
  exact ⟨s', hexec⟩

section Claim

variable {memory : Memory} {c : Config (system (fifo txDepth rxDepth)) IOReturn}

theorem completionContract_phase (h₀ : AtRest Fifo.Empty s)
    (hdepths : Depths txDepth rxDepth s.device)
    (hmessage : ∀ i m, list[i]? = some m → memory.message p i = m)
    (hc : Reachable (system (fifo txDepth rxDepth)) handleInterrupt
      (State.next (.beginTransfer p list) s memory) (transferI2C p list.length) c)
    (hnone : c.handler = none) :
    (completionContract (State.next (.beginTransfer p list) s memory) p list rfl hmessage
      hdepths).Phase c.state := by
  rcases completionContract_resting h₀ hdepths hmessage with ⟨preparing, hresting⟩
  exact hc.idle (fun _ _ h => h.1) (fun _ _ h => h.1.phase)
    (fun _ h => completionContract_wp_handleInterrupt h) (Contract.wp_transferI2C hresting) hnone

theorem transferI2C_vigilant (h₀ : AtRest Fifo.Empty s) (hdepths : Depths txDepth rxDepth s.device)
    (hmessage : ∀ i m, list[i]? = some m → memory.message p i = m)
    (hc : Reachable (system (fifo txDepth rxDepth)) handleInterrupt
      (State.next (.beginTransfer p list) s memory) (transferI2C p list.length) c)
    (hnone : c.handler = none) (hbegun : Begun c.state.log) (henable : c.state.hw.regs .enable ≠ 0)
    : On p list memory.byte c.state ∧ Vigilant s.hw.executed list c.state := by
  rcases completionContract_phase h₀ hdepths hmessage hc hnone
    with ⟨d, preparing, h⟩ | h | h | ⟨r, h⟩ | ⟨r, h⟩
  . exact absurd hbegun h.log.not_begun
  . exact absurd hbegun h.log.not_begun
  . exact ⟨h.1.1, h.2.1⟩
  . exact ⟨h.1.1.1, h.1.2.1⟩
  . exact absurd h.1.disabled henable

theorem transferI2C_vigilant_asleep (h₀ : AtRest Fifo.Empty s)
    (hdepths : Depths txDepth rxDepth s.device)
    (hmessage : ∀ i m, list[i]? = some m → memory.message p i = m)
    (hc : Reachable (system (fifo txDepth rxDepth)) handleInterrupt
      (State.next (.beginTransfer p list) s memory) (transferI2C p list.length) c)
    (hnone : c.handler = none) (hsleeper : c.state.sleeper ≠ .running) :
    On p list memory.byte c.state ∧ Vigilant s.hw.executed list c.state := by
  rcases completionContract_phase h₀ hdepths hmessage hc hnone
    with ⟨d, preparing, h⟩ | h | h | ⟨r, h⟩ | ⟨r, h⟩
  . exact absurd h.sleeper hsleeper
  . exact absurd h.sleeper hsleeper
  . exact ⟨h.1.1, h.2.1⟩
  . exact absurd h.2 hsleeper
  . exact absurd h.1.sleeper hsleeper

/--
While a transfer is in progress and the caller slept at every wakeup but was not woken up, the
transfer does not get stuck.
-/
theorem transferI2C_progress (h₀ : Between s) (hdepths : Depths txDepth rxDepth s.device)
    (htxDepth : 0 < txDepth.toInt) (hrxDepth : 0 < rxDepth.toInt)
    (hmessage : ∀ i m, list[i]? = some m → memory.message p i = m) (hwhole : Whole list)
    (hsome : list ≠ [])
    (hc : Reachable (system (fifo txDepth rxDepth)) handleInterrupt
      (State.next (.beginTransfer p list) s memory) (transferI2C p list.length) c)
    (hnone : c.handler = none) (hprogress : InProgress c.state) (hunwoken : Unwoken c.state)
    (hwakeups : WakeupsInSleep c.state.log) : Live c.state := by
  have hsleep := transferI2C_sleep h₀ hmessage hc hnone
  have hwakeup := not_wakeup hsleep hunwoken hwakeups
  have hrest := h₀.atRest (Fifo.Empty.calm txDepth rxDepth)
  rcases transferI2C_vigilant hrest hdepths hmessage hc hnone hprogress.begun hprogress.enabled
    with ⟨hon, hvigilant⟩
  cases htx : c.state.hw.tx with
  | cons v tx =>
    have hhead : c.state.hw.tx.head? = some v := by rw [htx, List.head?_cons]
    exact .inl ⟨v, 0, hhead, .execute hhead⟩
  | nil =>
    have herror : c.state.device.messageError = 0 := by
      by_contra herror
      exact hvigilant.refused herror hwhole
    have hpoised := hvigilant.poised hon hprogress.awake hprogress.aborted htx herror
      (hvigilant.stopDet hon hwhole hsome hprogress.aborted htx hwakeup herror)
    refine .inr ⟨fun v => hpoised.intrStat_ne_zero, exists_exec_handleInterrupt c.state, ?_⟩
    intro s' hexec
    rcases exec_handlerOp_log performs_handleInterrupt hexec with ⟨new, hnew⟩
    have hresponded := hexec.wp (hpoised.wp_handleInterrupt hsome htxDepth hrxDepth)
    have hprogressed := hresponded.resolve_right fun h => h.1 hwhole
    apply hprogressed.advances hnew hwakeup
    intro hmem hwakeups'
    rcases hsleep with h | h | ⟨r, h⟩
    . exact absurd hprogress.begun h.not_begun
    . apply (h.exec hexec).woken
      apply hwakeups'.wokenUp
      rw [hnew]
      apply List.mem_append_right _ hmem
    . -- this wakeup comes after the sleep of the caller
      rcases List.append_of_mem hmem with ⟨before, after, heq⟩
      rw [heq, ← List.append_assoc] at hnew
      have hnot := (hwakeups' _ _ hnew).2 r
      exact absurd (List.mem_append_left _ h.slept) hnot

end Claim

/-! The caller sleeps and no word was written yet. -/

def sleepingRun : Config (system smallFifo) IOReturn :=
  timeoutPlayer.play handleInterrupt (List.replicate 28 .main)
    ⟨State.next (.beginTransfer 7 byteList) readyState (readyState.memory.put byteList),
      transferI2C 7 byteList.length, none⟩

theorem transferI2C_progress_byte :
    sleepingRun.state.sleeper = .asleep ∧ Live sleepingRun.state := by
  have hdepths : Depths 2 2 readyState.device := ⟨by decide +kernel, by decide +kernel⟩
  have hreachable : Reachable (system smallFifo) handleInterrupt
      (State.next (.beginTransfer 7 byteList) readyState (readyState.memory.put byteList))
      (transferI2C 7 byteList.length) sleepingRun := by
    apply timeoutPlayer.reachable_play
  have hasleep : sleepingRun.state.sleeper = .asleep := by decide +kernel
  have hwakeup : .wakeup ∉ sleepingRun.state.log := by decide +kernel
  refine ⟨hasleep, ?_⟩
  apply transferI2C_progress between_readyState hdepths (by decide) (by decide) Memory.put_message
    whole_byteList (by decide) hreachable rfl
  . exact
      { begun := by
          unfold Begun
          decide +kernel
        enabled := by decide +kernel
        awake := by decide +kernel
        aborted := by decide +kernel }
  . exact ⟨by rw [hasleep]; simp, by decide +kernel⟩
  . intro before after heq
    apply absurd _ hwakeup
    rw [heq]
    simp

/-! The handler sees the end of the transfer before the caller sleeps. -/

def stuckRun : Config (system smallFifo) IOReturn :=
  timeoutPlayer.play handleInterrupt
    (List.replicate 27 .main ++ [.handler, .env, .handler, .main])
    ⟨State.next (.beginTransfer 7 byteList) readyState (readyState.memory.put byteList),
      transferI2C 7 byteList.length, none⟩

theorem not_transferI2C_progress :
    Between readyState
      ∧ Depths 2 2 readyState.device
      ∧ Whole byteList
      ∧ Reachable (system smallFifo) handleInterrupt
          (State.next (.beginTransfer 7 byteList) readyState (readyState.memory.put byteList))
          (transferI2C 7 byteList.length) stuckRun
      ∧ stuckRun.handler = none
      ∧ InProgress stuckRun.state
      ∧ stuckRun.state.sleeper = .asleep
      ∧ Unwoken stuckRun.state
      ∧ ¬ Live stuckRun.state := by
  have hdepths : Depths 2 2 readyState.device := ⟨by decide +kernel, by decide +kernel⟩
  have hasleep : stuckRun.state.sleeper = .asleep := by decide +kernel
  have htx : stuckRun.state.hw.tx = [] := by decide +kernel
  have hstat : stuckRun.state.hw.answer .intrStat = 0 := by decide +kernel
  refine ⟨between_readyState, hdepths, whole_byteList, timeoutPlayer.reachable_play _ _, rfl, ?_,
    hasleep, ⟨by rw [hasleep]; simp, by decide +kernel⟩, ?_⟩
  . exact
      { begun := by
          unfold Begun
          decide +kernel
        enabled := by decide +kernel
        awake := by decide +kernel
        aborted := by decide +kernel }
  . rintro (⟨v, b, hhead, _⟩ | ⟨hpending, _⟩)
    . rw [htx] at hhead
      contradiction
    . apply hpending 0 _ rfl
      rw [← hstat]
      exact Fifo.canRead_answer .intrStat stuckRun.state.hw

end VoodooI2C
