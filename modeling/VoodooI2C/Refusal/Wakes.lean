import VoodooI2C.Interaction.Projection
import VoodooI2C.Progress.Run
import VoodooI2C.Refusal.Run
import VoodooI2C.Transaction.Steady

/-!
This module contains that the caller is woken up whenever the driver refuses its list in time: whatever
happens while it sleeps brings the transfer forward, and that only so often.
-/

namespace VoodooI2C

open Interaction RegisterFile

variable {txDepth rxDepth : Word} {list : List BusMessage} {p : Pointer}
  {byte₀ : Address → Byte} {s s' : State (steadyFifo txDepth rxDepth)} {log : List Event}

/-! A controller that aborts nothing is a controller that may abort. -/

def State.relaxed (s : State (steadyFifo txDepth rxDepth)) : State (fifo txDepth rxDepth) :=
  { s with hw := s.hw }

def relaxed (txDepth rxDepth : Word) :
    Projection (system (steadyFifo txDepth rxDepth)) (system (fifo txDepth rxDepth)) where
  map := State.relaxed
  admits {op s r} hr := by
    cases op <;> exact hr
  next {op s r} := by
    cases op with
    | reach point => cases point <;> rfl
    | _ => rfl
  env {s s'} henv := by
    rcases henv with ⟨hw, hstep, rfl⟩
    exact ⟨hw, hstep.1, rfl⟩

/--
The words that the driver wrote, the bytes that it popped and the commands that the controller
executed.
-/
def workDone (s : State (steadyFifo txDepth rxDepth)) : Nat :=
  (words s.log).length + (pops s.log).length + s.hw.executed.length

/--
The controller can execute a command, or `TX_EMPTY` interrupts the driver and the run of the handler
wakes up the caller, writes a word or pops a byte.
-/
def Responsive (list : List BusMessage) (s : State (steadyFifo txDepth rxDepth)) : Prop :=
  (∃ hw : Fifo, (steadyFifo txDepth rxDepth).step s.hw hw
      ∧ s.hw.executed.length < hw.executed.length)
    ∨ (∀ v, (steadyFifo txDepth rxDepth).canRead .intrStat s.hw v → v &&& intrTxEmpty ≠ 0)
      ∧ (∃ s', Exec (system (steadyFifo txDepth rxDepth)) handleInterrupt s () s')
      ∧ ∀ s', Exec (system (steadyFifo txDepth rxDepth)) handleInterrupt s () s' →
          InTime list s'.log → s'.sleeper = .woken ∨ workDone s < workDone s'

/--
The caller is woken up in the end, unless the driver refuses the list too late. While it sleeps there is
something for the controller or the handler to do, whatever happens in between, and they can do it only
so often.
-/
inductive Wakes (list : List BusMessage) : State (steadyFifo txDepth rxDepth) → Prop where
  | woken {s : State (steadyFifo txDepth rxDepth)} : s.sleeper = .woken → Wakes list s
  | late {s : State (steadyFifo txDepth rxDepth)} : ¬ InTime list s.log → Wakes list s
  | later {s : State (steadyFifo txDepth rxDepth)} :
    (∀ s', (interrupted (steadyFifo txDepth rxDepth)).Env s s' → s'.sleeper = .asleep →
      InTime list s'.log → Responsive list s') →
    (∀ s', (interrupted (steadyFifo txDepth rxDepth)).Env s s' → workDone s < workDone s' →
      Wakes list s') →
      Wakes list s

def Fifo.steadyScript (txDepth rxDepth : Word) : Script (steadyFifo txDepth rxDepth) where
  answer := Fifo.answer
  move h :=
    if h.aborted = true then none
    else h.tx.head?.map fun c => Fifo.execute rxDepth.toNat c 0x5A h
  canRead_answer := Fifo.canRead_answer
  step_move h h' heq := by
    split at heq
    . contradiction
    . next haborted =>
      rcases Option.map_eq_some_iff.mp heq with ⟨c, hc, rfl⟩
      rw [Bool.not_eq_true] at haborted
      exact ⟨.execute hc, haborted⟩

theorem Endless.execute {h : Fifo} (hend : Endless h) {c : Word} (hc : h.tx.head? = some c) :
    ∃ hw : Fifo, (steadyFifo txDepth rxDepth).step h hw
      ∧ h.executed.length < hw.executed.length := by
  refine ⟨h.execute rxDepth.toNat c 0, ⟨.execute hc, hend.aborted⟩, ?_⟩
  simp [Fifo.execute]

theorem intrStat_of_tx_eq_nil {h : Fifo} (hmask : h.regs .intrMask = intrDefaultMask)
    (htx : h.tx = []) {v : Word} (hread : (steadyFifo txDepth rxDepth).canRead .intrStat h v) :
    v &&& intrTxEmpty ≠ 0 := by
  rcases hread with ⟨raw, hraises, rfl⟩
  have hempty : raw &&& intrTxEmpty ≠ 0 := by
    apply hraises.2.2.1.mpr
    rw [htx]
    apply Nat.zero_le
  rw [hmask, BitVec.and_assoc]
  apply hempty

theorem executed_next {op : Op} {r : op.Ans} (hop : HandlerOp op) :
    (Fifo.executed (State.next op s r).hw) = s.hw.executed := by
  cases op with
  | readRegister reg => exact Fifo.executed_read reg s.hw
  | writeRegister v reg => exact Fifo.executed_write _ v reg s.hw
  | reach point => cases point <;> rfl
  | _ => rfl

theorem executed_le (hexec : Exec (system (steadyFifo txDepth rxDepth)) handleInterrupt s () s') :
    s.hw.executed.length ≤ s'.hw.executed.length := by
  have hwp : wp (system (steadyFifo txDepth rxDepth)) (fun _ _ => True) handleInterrupt
      (fun _ s' => s.hw.executed.length ≤ s'.hw.executed.length) s := by
    apply wp_performs performs_handleInterrupt
    . rintro s' _ h ⟨hw, hstep, rfl⟩
      apply Nat.le_trans h
      dsimp only
      cases hstep.1 with
      | execute _ => simp [Fifo.execute]
      | abort _ | stop _ => apply Nat.le_refl
    . intro _ _ _ _
      trivial
    . intro op s' r hop h _
      rw [executed_next hop]
      apply h
    . apply Nat.le_refl
  apply hexec.wp hwp

theorem workDone_lt
    (hexec : Exec (system (steadyFifo txDepth rxDepth)) handleInterrupt s () s')
    (h : (words s.log).length < (words s'.log).length
      ∨ (pops s.log).length < (pops s'.log).length) : workDone s < workDone s' := by
  rcases exec_handlerOp_log performs_handleInterrupt hexec with ⟨new, hnew⟩
  have hexecuted := executed_le hexec
  unfold workDone
  rw [hnew, words_append, pops_append, List.length_append, List.length_append] at h ⊢
  omega

section Claim

variable {memory : Memory} {s₀ : State (steadyFifo txDepth rxDepth)}
  {c : Config (system (steadyFifo txDepth rxDepth)) IOReturn}

theorem transferI2C_relaxed (h₀ : AtRest Fifo.Empty s₀)
    (hdepths : Depths txDepth rxDepth s₀.device)
    (hmessage : ∀ i m, list[i]? = some m → memory.message p i = m)
    (hc : Reachable (system (steadyFifo txDepth rxDepth)) handleInterrupt
      (State.next (.beginTransfer p list) s₀ memory) (transferI2C p list.length) c)
    (hnone : c.handler = none) (hsleeper : c.state.sleeper ≠ .running) :
    On p list memory.byte c.state.relaxed ∧ Vigilant s₀.hw.executed list c.state.relaxed := by
  have h₀' : AtRest Fifo.Empty s₀.relaxed := ⟨h₀.sleeper, h₀.calm, h₀.off⟩
  exact transferI2C_vigilant_asleep h₀' hdepths hmessage ((relaxed txDepth rxDepth).reachable hc)
    hnone hsleeper

theorem transferI2C_workDone_le (h₀ : AtRest Fifo.Empty s₀)
    (hdepths : Depths txDepth rxDepth s₀.device) (hfaulty : Faulty list)
    (hmessage : ∀ i m, list[i]? = some m → memory.message p i = m)
    (hc : Reachable (system (steadyFifo txDepth rxDepth)) handleInterrupt
      (State.next (.beginTransfer p list) s₀ memory) (transferI2C p list.length) c)
    (hnone : c.handler = none) (hsleeper : c.state.sleeper ≠ .running) :
    workDone c.state ≤ s₀.hw.executed.length + 3 * (places list).length := by
  have hattentive := (transferI2C_attentive h₀ hfaulty hmessage hc hnone hsleeper).2
  have htracked := (transferI2C_relaxed h₀ hdepths hmessage hc hnone hsleeper).2.advance.tracked
  rcases htracked.sequence hattentive.endless.aborted with ⟨done, hexecuted, hwords, hreceived⟩
  have hle := htracked.marked.le
  have hread : readCommands done ≤ done.length := List.countP_le_length
  unfold workDone
  have hexecuted : c.state.hw.executed = s₀.hw.executed ++ done := hexecuted
  have hwords : done ++ c.state.hw.tx = words c.state.log := hwords
  have hlength := congrArg List.length hwords
  have hle : (words c.state.log).length ≤ (places list).length := hle
  have hreceived : c.state.hw.rx.length + (pops c.state.log).length = readCommands done := hreceived
  rw [List.length_append] at hlength
  rw [hexecuted, List.length_append]
  omega

theorem transferI2C_responsive (h₀ : AtRest Fifo.Empty s₀) (hawake : s₀.device.awake = true)
    (hdepths : Depths txDepth rxDepth s₀.device) (htxDepth : 0 < txDepth.toInt)
    (hrxDepth : 0 < rxDepth.toInt) (hfaulty : Faulty list)
    (hmessage : ∀ i m, list[i]? = some m → memory.message p i = m)
    (hc : Reachable (system (steadyFifo txDepth rxDepth)) handleInterrupt
      (State.next (.beginTransfer p list) s₀ memory) (transferI2C p list.length)
      ⟨s, q, none⟩)
    (hasleep : s.sleeper = .asleep) (htime : InTime list s.log) : Responsive list s := by
  have hsleeper : s.sleeper ≠ .running := by simp [hasleep]
  rcases transferI2C_attentive h₀ hfaulty hmessage hc rfl hsleeper with ⟨hon, hattentive⟩
  rcases transferI2C_relaxed h₀ hdepths hmessage hc rfl hsleeper with ⟨hon', hvigilant⟩
  have hlasting := transferI2C_lasting hc rfl
  have hsome : list ≠ [] := by
    rcases hfaulty with ⟨m, hm, _⟩
    apply List.ne_nil_of_mem hm
  cases htx : s.hw.tx with
  | cons v tx =>
    left
    apply hattentive.endless.execute (c := v)
    rw [htx, List.head?_cons]
  | nil =>
    right
    have hpoised := hvigilant.poised hon'
      ((congrArg (fun l => l.2.1) hlasting).trans hawake) hattentive.endless.aborted htx
      (hattentive.messageError htime hasleep)
      (fun hindex => absurd hindex (hattentive.index_ne hfaulty hon))
    have hmask := hattentive.mask htime hfaulty hon hasleep
    refine ⟨fun v => intrStat_of_tx_eq_nil hmask htx, ?_, ?_⟩
    . rcases exists_exec (W := system (steadyFifo txDepth rxDepth)) performs_handleInterrupt
        (fun op s _ =>
          ⟨_, (Fifo.steadyScript txDepth rxDepth).admits_respond SleepResult.timedOut_ne op s⟩) s
        with ⟨_, s', hexec⟩
      exact ⟨s', hexec⟩
    . intro s' hexec htime'
      have hstep : (interrupted (steadyFifo txDepth rxDepth)).env s s' := .inr hexec
      have hsleeper' := stable_sleeping s s' hsleeper hstep
      have hattentive' := (transferI2C_attentive h₀ hfaulty hmessage
        (hc.wait (.single hstep)) rfl hsleeper').2
      have hwoken : s'.device.messageError ≠ 0 → s'.sleeper = .woken := hattentive'.error htime'
      have hresponded := ((relaxed txDepth rxDepth).exec hexec).wp
        (hpoised.wp_handleInterrupt hsome htxDepth hrxDepth)
      rcases hresponded with (h | h | h) | ⟨_, herror⟩
      . exact .inr (workDone_lt hexec (.inl h))
      . exact .inr (workDone_lt hexec (.inr h))
      . exact .inl (hwoken (hattentive'.wakeup htime' h))
      . exact .inl (hwoken herror)

theorem transferI2C_wakes (h₀ : AtRest Fifo.Empty s₀) (hawake : s₀.device.awake = true)
    (hdepths : Depths txDepth rxDepth s₀.device) (htxDepth : 0 < txDepth.toInt)
    (hrxDepth : 0 < rxDepth.toInt) (hfaulty : Faulty list)
    (hmessage : ∀ i m, list[i]? = some m → memory.message p i = m)
    (hc : Reachable (system (steadyFifo txDepth rxDepth)) handleInterrupt
      (State.next (.beginTransfer p list) s₀ memory) (transferI2C p list.length)
      ⟨s, q, none⟩)
    (hsleeper : s.sleeper ≠ .running) : Wakes list s := by
  -- the induction is on what is left to do
  induction hn : s₀.hw.executed.length + 3 * (places list).length - workDone s
    using Nat.strongRecOn generalizing s with
  | _ n ih =>
    apply Wakes.later
    . intro s' henv hasleep htime
      exact transferI2C_responsive h₀ hawake hdepths htxDepth hrxDepth hfaulty hmessage
        (hc.wait henv) hasleep htime
    . intro s' henv hlt
      have hc' := hc.wait henv
      have hsleeper' := stable_sleeping.env hsleeper henv
      have hle := transferI2C_workDone_le h₀ hdepths hfaulty hmessage hc' rfl hsleeper'
      dsimp only at hle
      exact ih _ (by omega) hc' hsleeper' rfl

/--
What is promised to the caller of a list that is to be refused: a wakeup ends its sleep, then it gets
an error, and while it sleeps some interrupt is enabled and it is woken up in the end.
-/
structure Refuses (list : List BusMessage)
    (c : Config (system (steadyFifo txDepth rxDepth)) IOReturn) : Prop where
  ends : EndsWoken c.state.log
  returns : ∀ ret, c.handler = none → c.main = .ret ret → .sleep .awakened ∈ c.state.log →
    ret = .error
  unmasked : c.handler = none → c.state.sleeper = .asleep → value c.state.hw .intrMask ≠ 0
  wakes : c.handler = none → c.state.sleeper = .asleep → Wakes list c.state

/--
The caller learns that the list was refused whenever the driver refuses it in time.
-/
theorem transferI2C_refuses (h₀ : AtRest Fifo.Empty s₀) (hawake : s₀.device.awake = true)
    (hdepths : Depths txDepth rxDepth s₀.device) (htxDepth : 0 < txDepth.toInt)
    (hrxDepth : 0 < rxDepth.toInt) (hfaulty : Faulty list)
    (hmessage : ∀ i m, list[i]? = some m → memory.message p i = m)
    (hc : Reachable (system (steadyFifo txDepth rxDepth)) handleInterrupt
      (State.next (.beginTransfer p list) s₀ memory) (transferI2C p list.length) c)
    (htime : InTime list c.state.log) : Refuses list c where
  ends := transferI2C_endsWoken h₀ hfaulty hmessage hc htime
  returns _ hnone hmain hmem := transferI2C_error h₀ hfaulty hmessage hc htime hnone hmain hmem
  unmasked hnone hasleep := by
    rcases transferI2C_attentive h₀ hfaulty hmessage hc hnone (by simp [hasleep])
      with ⟨hon, hattentive⟩
    rw [hattentive.mask htime hfaulty hon hasleep]
    decide
  wakes hnone hasleep := by
    rcases c with ⟨s, q, handler⟩
    obtain rfl : handler = none := hnone
    apply transferI2C_wakes h₀ hawake hdepths htxDepth hrxDepth hfaulty hmessage hc
    simp [show s.sleeper = .asleep from hasleep]

end Claim

/-! A controller with FIFOs of two entries, and the messages after one that has no bytes. -/

def steadyPlayer : Player (system (steadyFifo 2 2)) :=
  (Fifo.steadyScript 2 2).player .timedOut SleepResult.timedOut_ne

def steadyState : State (steadyFifo 2 2) where
  device := readyState.device
  memory := readyState.memory
  live := none
  preparing := none
  sleeper := .running
  log := []
  hw := readyState.hw

theorem atRest_steadyState : AtRest Fifo.Empty steadyState where
  sleeper := rfl
  calm := ⟨by decide +kernel, by decide +kernel, by decide +kernel, by decide +kernel⟩
  off := by decide +kernel

theorem depths_steadyState : Depths 2 2 steadyState.device :=
  ⟨by decide +kernel, by decide +kernel⟩

def sleepTurns : List Turn := List.replicate 28 .main ++ [.handler]

def sleepRun (list : List BusMessage) (turns : List Turn) :
    Config (system (steadyFifo 2 2)) IOReturn :=
  steadyPlayer.play handleInterrupt turns
    ⟨State.next (.beginTransfer 7 list) steadyState (steadyState.memory.put list),
      transferI2C 7 list.length, none⟩

theorem reachable_sleepRun (list : List BusMessage) (turns : List Turn) :
    Reachable (system (steadyFifo 2 2)) handleInterrupt
      (State.next (.beginTransfer 7 list) steadyState (steadyState.memory.put list))
      (transferI2C 7 list.length) (sleepRun list turns) := by
  apply steadyPlayer.reachable_play

theorem inTime_of_take
    (h : ∀ n ∈ List.range log.length, log[n]? = some (.write 0 .intrMask) →
      .write intrDefaultMask .intrMask ∈ log.take n →
      (words (log.take n)).length = (places list).length →
        .enterSleep ∈ log.take n
          ∧ readCommands (words (log.take n)) = (pops (log.take n)).length) :
    InTime list log := by
  intro before after heq hbegun hlength
  have htake : log.take before.length = before := by
    rw [heq, List.take_left]
  have := h before.length
  rw [htake] at this
  apply this
  . rw [List.mem_range, heq, List.length_append, List.length_cons]
    omega
  . rw [heq, List.getElem?_append_right (Nat.le_refl _), Nat.sub_self, List.getElem?_cons_zero]
  . apply hbegun
  . apply hlength

def sentList : List BusMessage := [⟨0x10, 0x41, 0, 1⟩, ⟨0x10, 0x90, 0, 0⟩]

theorem faulty_sentList : Faulty sentList :=
  ⟨⟨0x10, 0x90, 0, 0⟩, by decide, ⟨0x10, 0x41, 0, 1⟩, rfl, by decide⟩

theorem transferI2C_refuses_sent :
    let c := sleepRun sentList (List.replicate 28 .main)
    let c' := sleepRun sentList (sleepTurns ++ List.replicate 20 .main)
    (c.state.sleeper = .asleep ∧ Wakes sentList c.state)
      ∧ .sleep .awakened ∈ c'.state.log ∧ Refuses sentList c' := by
  intro c c'
  have hrefuses : ∀ turns, InTime sentList (sleepRun sentList turns).state.log →
      Refuses sentList (sleepRun sentList turns) := by
    intro turns htime
    exact transferI2C_refuses atRest_steadyState rfl depths_steadyState (by decide) (by decide)
      faulty_sentList Memory.put_message (reachable_sleepRun _ _) htime
  have hasleep : c.state.sleeper = .asleep := by decide +kernel
  refine ⟨⟨hasleep, (hrefuses _ ?_).wakes rfl hasleep⟩, by decide +kernel, hrefuses _ ?_⟩
  . apply inTime_of_take
    decide +kernel
  . apply inTime_of_take
    decide +kernel

def receivedList : List BusMessage := [⟨0x10, 0x80, 1, 1⟩, ⟨0x10, 0x90, 0, 0⟩]

theorem faulty_receivedList : Faulty receivedList :=
  ⟨⟨0x10, 0x90, 0, 0⟩, by decide, ⟨0x10, 0x80, 1, 1⟩, rfl, by decide⟩

/--
The byte is outstanding when the message without bytes is refused. So the caller is not woken up, and
as all interrupts are masked it never will be.
-/
theorem transferI2C_not_refuses :
    let c := sleepRun receivedList sleepTurns
    Faulty receivedList
      ∧ AtRest Fifo.Empty steadyState
      ∧ steadyState.device.awake = true
      ∧ Depths 2 2 steadyState.device
      ∧ Reachable (system (steadyFifo 2 2)) handleInterrupt
          (State.next (.beginTransfer 7 receivedList) steadyState
            (steadyState.memory.put receivedList))
          (transferI2C 7 receivedList.length) c
      ∧ c.handler = none
      ∧ c.state.sleeper = .asleep
      ∧ value c.state.hw .intrMask = 0
      ∧ .wakeup ∉ c.state.log
      ∧ ¬ Refuses receivedList c := by
  intro c
  have hnone : c.handler = none := by rfl
  have hsleeper : c.state.sleeper = .asleep := by decide +kernel
  have hmask : value c.state.hw .intrMask = 0 := by decide +kernel
  refine ⟨faulty_receivedList, atRest_steadyState, rfl, depths_steadyState, reachable_sleepRun _ _,
    hnone, hsleeper, hmask, by decide +kernel, ?_⟩
  intro h
  exact h.unmasked hnone hsleeper hmask

end VoodooI2C
