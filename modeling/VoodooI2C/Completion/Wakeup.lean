import VoodooI2C.Transfer.Extend

/-!
This module contains when a wakeup that signals the end of a transfer is not lost, whatever the
controller does.
-/

namespace VoodooI2C

open Interaction RegisterFile

variable {H : Hardware} {s : State H} {log : List Event} {e : Event} {r : SleepResult}
  {p : Pointer} {list : List BusMessage}

def lastStatus (log : List Event) : Option Word :=
  (log.filterMap fun
    | .read .intrStat v => some v
    | _ => none).getLast?

def Completing (log : List Event) : Prop :=
  ∃ status, lastStatus log = some status
    ∧ status &&& intrStopDet ≠ 0
    ∧ status &&& intrTxAbrt = 0
    ∧ readCommands (words log) = (pops log).length

def Signalled (log : List Event) : Prop :=
  ∃ before after, log = before ++ .wakeup :: after ∧ Completing before

def SignalledInSleep (log : List Event) : Prop :=
  ∀ before after, log = before ++ .wakeup :: after → Completing before →
    .enterSleep ∈ before ∧ ∀ r, .sleep r ∉ before

def WokenUp (log : List Event) : Prop :=
  ∃ before after, log = before ++ .wakeup :: after
    ∧ .enterSleep ∈ before ∧ ∀ r, .sleep r ∉ before

namespace WokenUp

theorem concat_iff :
    WokenUp (log ++ [e])
      ↔ WokenUp log ∨ e = .wakeup ∧ .enterSleep ∈ log ∧ ∀ r, .sleep r ∉ log := by
  constructor
  . rintro ⟨before, after, heq, h⟩
    rcases List.eq_nil_or_concat after with rfl | ⟨after, e', rfl⟩
    . right
      rcases List.append_inj' heq rfl with ⟨rfl, hlast⟩
      refine ⟨?_, h⟩
      simpa using hlast
    . left
      rw [List.concat_eq_append, ← List.cons_append, ← List.append_assoc] at heq
      rcases List.append_inj' heq rfl with ⟨rfl, _⟩
      exact ⟨before, after, rfl, h⟩
  . rintro (⟨before, after, rfl, h⟩ | ⟨rfl, h⟩)
    . refine ⟨before, after ++ [e], ?_, h⟩
      simp
    . exact ⟨log, [], rfl, h⟩

theorem concat (he : e ≠ .wakeup) : WokenUp (log ++ [e]) ↔ WokenUp log := by
  rw [concat_iff]
  simp [he]

end WokenUp

theorem Signalled.wokenUp (h : Signalled log) (hsleep : SignalledInSleep log) : WokenUp log := by
  rcases h with ⟨before, after, heq, hcompleting⟩
  exact ⟨before, after, heq, hsleep before after heq hcompleting⟩

structure Dozing (s : State H) : Prop where
  sleeps : ∀ r, .sleep r ∉ s.log
  entered : .enterSleep ∈ s.log → s.sleeper ≠ .running
  woken : WokenUp s.log → s.sleeper = .woken

structure Risen (r : SleepResult) (s : State H) : Prop where
  slept : .sleep r ∈ s.log
  awakened : WokenUp s.log → r = .awakened

namespace Dozing

theorem append {hw : H.State} {memory : Memory} (h : Dozing s) (hsleep : ∀ r, e ≠ .sleep r)
    (henter : e ≠ .enterSleep) (hwakeup : e ≠ .wakeup) :
    Dozing { s with hw := hw, memory := memory, log := s.log ++ [e] } where
  sleeps r := by
    rw [List.mem_append, List.mem_singleton, not_or]
    exact ⟨h.sleeps r, (hsleep r).symm⟩
  entered hmem := by
    rw [List.mem_append, List.mem_singleton] at hmem
    rcases hmem with hmem | rfl
    . apply h.entered hmem
    . contradiction
  woken hwoken := by
    apply h.woken
    rw [← WokenUp.concat hwakeup]
    apply hwoken

theorem wakeup (h : Dozing s) :
    Dozing { s with
      sleeper := if s.sleeper = .asleep then .woken else s.sleeper
      log := s.log ++ [.wakeup] } where
  sleeps r := by
    simpa using h.sleeps r
  entered hmem := by
    have := h.entered (by simpa using hmem)
    dsimp only
    split
    . simp
    . apply this
  woken hwoken := by
    have hsleeper : s.sleeper ≠ .running := by
      rcases WokenUp.concat_iff.mp hwoken with hwoken | ⟨_, henter, _⟩
      . rw [h.woken hwoken]
        simp
      . apply h.entered henter
    cases hs : s.sleeper with
    | running => exact absurd hs hsleeper
    | asleep => rfl
    | woken => rfl

theorem stable : (system H).Stable (Dozing (H := H)) := by
  rintro s _ h ⟨hw, _, rfl⟩
  exact { h with }

theorem next {op : Op} {a : op.Ans} (h : Dozing s) (hop : HandlerOp op) :
    Dozing (State.next op s a) := by
  cases op with
  | readRegister reg | writeRegister v reg | store b c =>
    apply h.append
    . simp
    . simp
    . simp
  | commandWakeup => apply h.wakeup
  | update f => exact { h with }
  | device | message _ _ | load _ | disableInterrupt | enableInterrupt => apply h
  | reach point =>
    cases point with
    | readFromBus | transferMessageToBus => apply h
    | _ => contradiction
  | _ => contradiction

end Dozing

namespace Risen

theorem append {hw : H.State} {memory : Memory} {sleeper : Sleeper} (h : Risen r s) :
    Risen r { s with hw := hw, memory := memory, sleeper := sleeper, log := s.log ++ [e] } where
  slept := List.mem_append_left _ h.slept
  awakened hwoken := by
    rcases WokenUp.concat_iff.mp hwoken with hwoken | ⟨_, _, hsleeps⟩
    . apply h.awakened hwoken
    . exact absurd h.slept (hsleeps r)

theorem stable (r : SleepResult) : (system H).Stable (Risen (H := H) r) := by
  rintro s _ h ⟨hw, _, rfl⟩
  exact { h with }

theorem next {op : Op} {a : op.Ans} (h : Risen r s) (hop : HandlerOp op) :
    Risen r (State.next op s a) := by
  cases op with
  | readRegister reg | writeRegister v reg | store b c | commandWakeup => apply h.append
  | update f => exact { h with }
  | device | message _ _ | load _ | disableInterrupt | enableInterrupt => apply h
  | reach point =>
    cases point with
    | readFromBus | transferMessageToBus => apply h
    | _ => contradiction
  | _ => contradiction

end Risen

theorem WokenUp.mem (h : WokenUp log) : .wakeup ∈ log := by
  rcases h with ⟨before, after, rfl, _⟩
  simp

variable [RegisterFile H]

def wakeupExtension (s₀ : State H) (p : Pointer) (list : List BusMessage) :
    Extension s₀ p list (fun _ => True) (fun _ => True) where
  guard _ _ := True
  on := Dozing
  left := Risen
  done := Risen
  log _ := True
  on_preserved := Preserved.of_handlerOp Dozing.stable fun op s a hop h _ => h.next hop
  left_preserved r := Preserved.of_handlerOp (Risen.stable r) fun op s a hop h _ => h.next hop
  cleared_clrIntr _ _ _ _ := trivial
  cleared_calm _ _ := trivial
  cleared_step _ _ _ _ := trivial
  cleared_read _ _ _ _ _ _ := trivial
  cleared_write _ _ := trivial
  start s _ _ _ hlog _ _ _ s' hs' := by
    rw [hs']
    refine ⟨⟨?_, ?_, ?_⟩, trivial⟩
    . intro r
      have := hlog.not_mem (e := .sleep r) (by simp [Event.Preparatory])
      simpa using this
    . intro henter
      have := hlog.not_mem (e := .enterSleep) (by simp [Event.Preparatory])
      simp [this] at henter
    . intro hwoken
      have hmem := ((WokenUp.concat (by simp)).mp hwoken).mem
      exact absurd hmem (hlog.not_mem (by simp [Event.Preparatory]))
  sleep s _ h _ hsleeper s' hs' := by
    rw [hs']
    refine ⟨⟨?_, ?_, ?_⟩, trivial⟩
    . intro r
      simpa using h.sleeps r
    . simp
    . intro hwoken
      have := h.woken ((WokenUp.concat (by simp)).mp hwoken)
      rw [hsleeper] at this
      contradiction
  leave s r _ h _ _ hr s' hs' := by
    rw [hs']
    refine ⟨⟨by simp, ?_⟩, trivial⟩
    intro hwoken
    exact hr.mpr (h.woken ((WokenUp.concat (by simp)).mp hwoken))
  off s r _ h _ _ s' hs' := by
    rw [hs']
    exact ⟨h.append, trivial⟩
  done_untouched r :=
    { step := fun s hw h _ => ⟨{ h.1 with }, trivial⟩
      read := fun s reg v h _ _ => ⟨h.1.append, trivial⟩
      write := fun s v reg h _ _ _ => ⟨h.1.append, trivial⟩ }
  done_return s r h _ := ⟨{ h with }, trivial⟩

theorem outcome_eq_timeout {d : BusDevice} (h : outcome r d = .timeout) : r = .timedOut := by
  unfold outcome at h
  split at h
  . assumption
  . split at h
    . contradiction
    . split at h
      . contradiction
      . split at h <;> contradiction

/--
A wakeup while the caller sleeps is not lost.
-/
theorem transferI2C_not_timeout {memory : Memory} {c : Config (system H) IOReturn} {ret : IOReturn}
    (h₀ : Between s) (hmessage : ∀ i m, list[i]? = some m → memory.message p i = m)
    (hc : Reachable (system H) handleInterrupt (State.next (.beginTransfer p list) s memory)
      (transferI2C p list.length) c)
    (hnone : c.handler = none) (hret : c.main = .ret ret)
    (hsleep : SignalledInSleep c.state.log) (hsignalled : Signalled c.state.log) :
    ret ≠ .timeout := by
  let e := wakeupExtension (State.next (.beginTransfer p list) s memory) p list
  have hrest := e.resting (h₀.atRest Calm.true) Calm.true hmessage
  have hwoken := hsignalled.wokenUp hsleep
  rintro rfl
  rcases e.reachable_returns rfl hmessage Calm.true hrest hc hnone hret
    with h | ⟨r, houtcome, _, hrisen, _⟩
  . exact absurd hwoken.mem (h.not_mem (by simp [Event.Preparatory]))
  . have hr := outcome_eq_timeout houtcome.symm
    have := Risen.awakened hrisen hwoken
    rw [hr] at this
    contradiction

/-! A byte is sent. -/

def byteList : List BusMessage := [⟨0x10, 0x41, 0, 1⟩]

def byteRun (n : Nat) : Config (system smallFifo) IOReturn :=
  timeoutPlayer.play handleInterrupt
    (List.replicate n .main ++ [.handler, .env, .handler] ++ List.replicate 20 .main)
    ⟨State.next (.beginTransfer 7 byteList) readyState (readyState.memory.put byteList),
      transferI2C 7 byteList.length, none⟩

theorem reachable_byteRun (n : Nat) :
    Reachable (system smallFifo) handleInterrupt
      (State.next (.beginTransfer 7 byteList) readyState (readyState.memory.put byteList))
      (transferI2C 7 byteList.length) (byteRun n) := by
  apply timeoutPlayer.reachable_play

theorem signalledInSleep_of_take
    (h : ∀ n ∈ List.range log.length, log[n]? = some .wakeup →
      .enterSleep ∈ log.take n
        ∧ .sleep .awakened ∉ log.take n ∧ .sleep .timedOut ∉ log.take n
        ∧ .sleep .interrupted ∉ log.take n) :
    SignalledInSleep log := by
  intro before after heq _
  have htake : log.take before.length = before := by
    rw [heq, List.take_left]
  have hbefore := h before.length
  rw [htake] at hbefore
  have hmem : before.length ∈ List.range log.length := by
    rw [List.mem_range, heq, List.length_append, List.length_cons]
    omega
  have hget : log[before.length]? = some .wakeup := by
    rw [heq, List.getElem?_append_right (Nat.le_refl _), Nat.sub_self, List.getElem?_cons_zero]
  rcases hbefore hmem hget with ⟨henter, hawakened, htimedOut, hinterrupted⟩
  refine ⟨henter, ?_⟩
  intro r
  cases r with
  | awakened => apply hawakened
  | timedOut => apply htimedOut
  | interrupted => apply hinterrupted

theorem transferI2C_not_timeout_byte :
    Signalled (byteRun 28).state.log
      ∧ (byteRun 28).main = .ret .success
      ∧ IOReturn.success ≠ .timeout := by
  have hsignalled : Signalled (byteRun 28).state.log := by
    refine ⟨(byteRun 28).state.log.take 23, (byteRun 28).state.log.drop 24, by decide +kernel,
      0x200, by decide +kernel, by decide, by decide, by decide +kernel⟩
  have hret : (byteRun 28).main = .ret .success := by rfl
  refine ⟨hsignalled, hret, ?_⟩
  apply transferI2C_not_timeout between_readyState Memory.put_message (reachable_byteRun 28) rfl hret
  . apply signalledInSleep_of_take
    decide +kernel
  . apply hsignalled

/--
The handler sees the end of the transfer before the caller sleeps.
-/
theorem transferI2C_timeout_byte :
    (∀ m ∈ byteList, m.Good 0x10)
      ∧ Reachable (system smallFifo) handleInterrupt
          (State.next (.beginTransfer 7 byteList) readyState (readyState.memory.put byteList))
          (transferI2C 7 byteList.length) (byteRun 27)
      ∧ Signalled (byteRun 27).state.log
      ∧ (byteRun 27).handler = none
      ∧ (byteRun 27).main = .ret .timeout := by
  refine ⟨by decide, reachable_byteRun 27, ?_, rfl, rfl⟩
  refine ⟨(byteRun 27).state.log.take 22, (byteRun 27).state.log.drop 23, by decide +kernel,
    0x200, by decide +kernel, by decide, by decide, by decide +kernel⟩

end VoodooI2C
