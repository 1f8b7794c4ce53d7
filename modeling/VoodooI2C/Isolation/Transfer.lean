import VoodooI2C.Isolation.Run

/-!
This module contains that two calls of `transferI2C` with the same list of messages do the same if they
get the same from outside, whatever the calls before them have left behind.
-/

namespace VoodooI2C

open Interaction Isolation

variable {H : Hardware} [RegisterFile H] {p : Pointer} {s t : State H}

/--
What a call of `transferI2C` does and returns depends on the list of messages and on what it gets from
outside only: the readings of the registers, the interrupts and how the sleep ends. It does not depend
on how earlier calls have ended.
-/
theorem transferI2C_isolated {list : List BusMessage} {memory memory' : Memory}
    {c e : Config (system H) IOReturn} (hs : Between s) (ht : Between t)
    (hconf : SameConfiguration s.device t.device)
    (hlist : SameMessages p list.length memory memory')
    (h : Pair.Abreast (system H) handleInterrupt SameAnswer
      (State.next (.beginTransfer p list) s memory) (State.next (.beginTransfer p list) t memory')
      (transferI2C p list.length) (transferI2C p list.length) c e) :
    e.state.log = c.state.log
      ∧ (c.handler = none ↔ e.handler = none)
      ∧ (c.handler = none → ∀ ret, c.main = .ret ret ↔ e.main = .ret ret) := by
  have hconcluded : Concluded p list.length
      (State.next (.beginTransfer p list) s memory, State.next (.beginTransfer p list) t memory') :=
    ⟨s.device, t.device,
      { log := rfl
        memory := hlist
        left := rfl
        right := rfl
        configuration := hconf
        offLeft := (hs.atRest Calm.true).off
        offRight := (ht.atRest Calm.true).off }⟩
  have hsound := (rule p list.length).abreast hconcluded.wp_transferI2C h
  refine ⟨?_, hsound.handler_iff, ?_⟩
  . apply hsound.always (R := fun x : State H × State H => x.2.log = x.1.log)
    . intro _ x hx
      apply Phase.log hx
    . intro _ _ hx
      apply hx
    . rintro _ _ x ⟨_, hx⟩
      apply Phase.log (.inl hx)
  . intro hnone ret
    rcases hsound.returns hnone with ⟨_, _, _, _, hc, he⟩ | ⟨a, b, hc, he, rfl, _⟩
    . rw [hc, he]
      simp
    . rw [hc, he]

/-! A transfer after one that was cut in the middle of a message. -/

def longList : List BusMessage := [⟨0x10, 0x80, 0, 5⟩]

def lateTurns : List Turn := List.replicate 30 .main ++ [.handler] ++ List.replicate 400 .main

def lateRun : Config (system smallFifo) Unit :=
  timeoutPlayer.play handleInterrupt lateTurns
    ⟨readyState, runCalls [.transferI2C 7 longList], none⟩

example :
    lateRun.state.device.transactionBuffer = 0x82
      ∧ lateRun.state.device.transactionBufferLength = 3 := by
  decide +kernel

theorem ret_of_isRet {q : Driver Unit} (h : (q matches .ret _) = true) : q = .ret () := by
  cases q with
  | ret a => rfl
  | call op k => contradiction

theorem lateRun_main : lateRun.main = .ret () := by
  apply ret_of_isRet
  decide +kernel

theorem lateRun_handler : lateRun.handler = none := by
  rw [← Option.isNone_iff_eq_none]
  decide +kernel

theorem between_lateRun : Between lateRun.state := by
  refine ⟨readyState, [.transferI2C 7 longList], started_readyState, ?_, ?_⟩
  . intro p list hmem
    simp only [List.mem_singleton, Call.transferI2C.injEq] at hmem
    rw [hmem.2]
    decide
  . have hreach : Reachable (system smallFifo) handleInterrupt readyState
        (runCalls [.transferI2C 7 longList]) lateRun := timeoutPlayer.reachable_play _ _
    apply hreach.exec lateRun_handler lateRun_main

def lateMemory : Memory := lateRun.state.memory.put pairList

def lateState : State smallFifo :=
  State.next (.beginTransfer 7 pairList) lateRun.state lateMemory

def stepTurns : List Turn :=
  List.replicate 28 .main
    ++ ([38, 28, 42, 38, 22].flatMap fun n => List.replicate n .handlerStep ++ [.env, .env])
    ++ List.replicate 6 .main

def stepRun (s : State smallFifo) : Config (system smallFifo) IOReturn :=
  timeoutPlayer.play handleInterrupt stepTurns ⟨s, transferI2C 7 pairList.length, none⟩

theorem sameMessages_late : SameMessages 7 pairList.length pairMemory lateMemory where
  message _ _ := rfl
  byte := by decide +kernel

theorem transferI2C_isolated_late :
    (stepRun lateState).state.log = (stepRun pairState).state.log
      ∧ ((stepRun pairState).handler = none ↔ (stepRun lateState).handler = none)
      ∧ ((stepRun pairState).handler = none →
          ∀ ret, (stepRun pairState).main = .ret ret ↔ (stepRun lateState).main = .ret ret) := by
  apply transferI2C_isolated between_readyState between_lateRun _ sameMessages_late
  . apply timeoutPlayer.abreast_play handleInterrupt stepTurns _ .start
    decide +kernel
  . constructor <;> decide +kernel

end VoodooI2C
