import VoodooI2C.Flow.Handler

/-!
This module contains the balance of the FIFOs for all runs: neither FIFO ever overflows, and nothing is
read from an empty one.
-/

namespace VoodooI2C

open Interaction RegisterFile

variable {txDepth rxDepth : Word} {s : State (fifo txDepth rxDepth)} {p : Pointer}
  {list : List BusMessage} {byte₀ : Address → Byte} {status : Word}

namespace Fifo

theorem aborted_read (reg : Register) (h : Fifo) : (h.read reg).aborted = h.aborted := by
  unfold Fifo.read
  split <;> rfl

theorem aborted_write {n : Nat} {v : Word} {reg : Register} (h : Fifo) (hreg : reg ≠ .enable) :
    (h.write n v reg).aborted = h.aborted := by
  unfold Fifo.write
  split
  . split <;> rfl
  . contradiction
  . rfl

theorem Step.aborted {n : Nat} {h h' : Fifo} (hstep : Step n h h') (haborted : h.aborted = true) :
    h'.aborted = true := by
  cases hstep with
  | execute hc => apply haborted
  | abort hactive => rfl
  | stop _ => apply haborted

end Fifo

theorem steps_aborted {h h' : Fifo} (hsteps : (fifo txDepth rxDepth).Steps h h')
    (haborted : h.aborted = true) : h'.aborted = true := by
  induction hsteps with
  | refl => apply haborted
  | tail _ hstep ih => apply Fifo.Step.aborted hstep ih

namespace Flowing

theorem steps {hw : Fifo} (h : Flowing s) (hsteps : (fifo txDepth rxDepth).Steps s.hw hw) :
    Flowing ({ s with hw := hw } : State (fifo txDepth rxDepth)) := by
  rcases h with h | ⟨herror, haborted⟩
  . exact .inl (h.steps hsteps)
  . exact .inr ⟨herror, steps_aborted hsteps haborted⟩

theorem read (reg : Register) (v : Word) (h : Flowing s) (hreg : reg ≠ .dataCmd) :
    Flowing ({ s with hw := s.hw.read reg, log := s.log ++ [.read reg v] } :
      State (fifo txDepth rxDepth)) := by
  rcases h with h | ⟨herror, haborted⟩
  . exact .inl (h.read reg v hreg)
  . exact .inr ⟨herror, (Fifo.aborted_read reg s.hw).trans haborted⟩

theorem write (v : Word) (reg : Register) (h : Flowing s) (hreg : reg ≠ .dataCmd)
    (henable : reg ≠ .enable) :
    Flowing ({ s with hw := s.hw.write txDepth.toNat v reg, log := s.log ++ [.write v reg] } :
      State (fifo txDepth rxDepth)) := by
  rcases h with h | ⟨herror, haborted⟩
  . exact .inl (h.write v reg hreg henable)
  . exact .inr ⟨herror, (Fifo.aborted_write s.hw henable).trans haborted⟩

end Flowing

/--
What holds between the parts of the handler. The controller has aborted if `status` says so.
-/
structure Flows (status : Word) (s : State (fifo txDepth rxDepth)) : Prop where
  depths : Depths txDepth rxDepth s.device
  flowing : Flowing s
  aborted : status &&& intrTxAbrt ≠ 0 → s.hw.aborted = true

namespace Flows

theorem steps {hw : Fifo} (h : Flows status s) (hsteps : (fifo txDepth rxDepth).Steps s.hw hw) :
    Flows status ({ s with hw := hw } : State (fifo txDepth rxDepth)) where
  depths := h.depths
  flowing := h.flowing.steps hsteps
  aborted hbit := steps_aborted hsteps (h.aborted hbit)

theorem read (reg : Register) (v : Word) (h : Flows status s) (hreg : reg ≠ .dataCmd) :
    Flows status ({ s with hw := s.hw.read reg, log := s.log ++ [.read reg v] } :
      State (fifo txDepth rxDepth)) where
  depths := h.depths
  flowing := h.flowing.read reg v hreg
  aborted hbit := (Fifo.aborted_read reg s.hw).trans (h.aborted hbit)

theorem write (v : Word) (reg : Register) (h : Flows status s) (hreg : reg ≠ .dataCmd)
    (henable : reg ≠ .enable) :
    Flows status ({ s with hw := s.hw.write txDepth.toNat v reg, log := s.log ++ [.write v reg] } :
      State (fifo txDepth rxDepth)) where
  depths := h.depths
  flowing := h.flowing.write v reg hreg henable
  aborted hbit := (Fifo.aborted_write s.hw henable).trans (h.aborted hbit)

theorem unseen (h : Flows status s) : Flows 0 s where
  depths := h.depths
  flowing := h.flowing
  aborted hbit := by simp at hbit

theorem stable : (system (fifo txDepth rxDepth)).Stable (Flows status) := by
  rintro s _ h ⟨hw, hstep, rfl⟩
  apply h.steps (.single hstep)

theorem next_quiet {op : Op} {r : op.Ans} (h : Flows status s) (hop : QuietOp op) :
    Flows status (State.next op s r) := by
  cases op with
  | readRegister reg => apply h.read reg r hop.1
  | device | disableInterrupt | enableInterrupt => apply h
  | _ => contradiction

theorem seen (h : Flows 0 s) (hread : (fifo txDepth rxDepth).canRead .intrStat s.hw status) :
    Flows status s where
  depths := h.depths
  flowing := h.flowing
  aborted hbit := by
    rcases h.flowing with h | h
    . rcases Fifo.raises_of_intrStat hread hbit with ⟨raw, hraises, hraw⟩
      apply h.2.aborted
      apply hraises.2.2.2.1.mp hraw
    . apply h.2

theorem wp_clear (h : Flows status s) :
    wp (system (fifo txDepth rxDepth)) FlowGuard (readClearInterruptBits.clear status)
      (fun _ => Flows status) s := by
  apply wp_performs (performs_clear status) stable
  . rintro op s (hop | ⟨a, rfl⟩) h
    . cases op with
      | readRegister reg => exact ⟨h.flowing, fun heq => absurd heq hop.1⟩
      | writeRegister v reg => contradiction
      | _ => trivial
    . trivial
  . rintro op s r (hop | ⟨a, rfl⟩) h hr
    . apply h.next_quiet hop
    . exact ⟨{ h.depths with }, h.flowing, h.aborted⟩
  . apply h

theorem wp_abort (h : Flows status s) (hbit : status &&& intrTxAbrt ≠ 0) :
    wp (system (fifo txDepth rxDepth)) FlowGuard serviceInterrupt.abort (fun _ => Flows 0) s := by
  have herror := or_errTxAbrt_ne_zero s.device.commandError
  unfold serviceInterrupt.abort
  apply wp_update
  apply wp_update
  apply wp_update
  apply wp_tail
  apply wp_writeRegister
  intro hw hsteps
  have haborted := steps_aborted hsteps (h.aborted hbit)
  refine ⟨⟨.inr ⟨herror, haborted⟩, by intro h; contradiction⟩, ?_⟩
  apply wp_done
  intro hw' hsteps'
  refine ⟨{ h.depths with }, .inr ⟨herror, ?_⟩, by simp⟩
  apply steps_aborted hsteps'
  exact (Fifo.aborted_write hw (by simp)).trans haborted

theorem wp_wakeup (h : Flows 0 s) :
    wp (system (fifo txDepth rxDepth)) FlowGuard (serviceInterrupt.wakeup status)
      (fun _ => Flows 0) s := by
  apply wp_performs (performs_wakeup status) stable
  . intro op s hop h
    cases op with
    | readRegister reg | writeRegister v reg =>
      have hop : reg = .intrMask := hop
      rw [hop]
      exact ⟨h.flowing, by intro h; contradiction⟩
    | _ => trivial
  . intro op s r hop h _
    cases op with
    | readRegister reg =>
      have hop : reg = .intrMask := hop
      apply h.read
      simp [hop]
    | writeRegister v reg =>
      have hop : reg = .intrMask := hop
      apply h.write
      . simp [hop]
      . simp [hop]
    | commandWakeup => exact ⟨h.depths, h.flowing, h.aborted⟩
    | device => apply h
    | _ => contradiction
  . apply h

theorem wp_depths {q : Driver Unit} (h : Depths txDepth rxDepth s.device)
    (hq : q.Performs HandlerOp) :
    wp (system (fifo txDepth rxDepth)) (fun _ _ => True) q
      (fun _ s' => Depths txDepth rxDepth s'.device) s := by
  apply wp_post (wp_fixed rfl hq)
  intro _ s' hfixed
  constructor
  . exact (congrArg BusDevice.transactionFifoDepth hfixed).trans h.transaction
  . exact (congrArg BusDevice.receiveFifoDepth hfixed).trans h.receive

theorem balanced {bit : Word} (h : Flows 0 s) (hon : On p list byte₀ s) (hstatus : Unmasked status s)
    (hbit : status &&& bit ≠ 0) : Balanced s := by
  rcases h.flowing with h | ⟨herror, _⟩
  . apply h
  . rcases hon with ⟨_, _, ⟨hzero, _⟩ | haborted⟩
    . exact absurd hzero herror
    . rw [eq_zero_of_aborted haborted hstatus] at hbit
      simp at hbit

theorem wp_part {q : Driver Unit} (h : Flows 0 s) (hq : q.Performs HandlerOp)
    (hwp : wp (system (fifo txDepth rxDepth)) FlowGuard q (fun _ s' => Balanced s') s) :
    wp (system (fifo txDepth rxDepth)) FlowGuard q (fun _ => Flows 0) s := by
  apply wp_mono (wp_and hwp (wp_depths h.depths hq))
  . intro op s h
    apply h.1
  . intro _ s h
    exact ⟨h.2, .inl h.1, by simp⟩

theorem wp_receive (h : Flows 0 s) (hon : On p list byte₀ s) (hstatus : Unmasked status s) :
    wp (system (fifo txDepth rxDepth)) FlowGuard (serviceInterrupt.receive status)
      (fun _ => Flows 0) s := by
  unfold serviceInterrupt.receive
  split
  . next hbit =>
    apply h.wp_part
    . apply Prog.performs_mono performs_readFromBus
      intro op hop
      apply hop.handlerOp
    . apply wp_readFromBus_flow (h.balanced hon hstatus hbit)
  . apply wp_done
    intro hw hsteps
    apply h.steps hsteps

theorem wp_send (h : Flows 0 s) (hon : On p list byte₀ s) (hstatus : Unmasked status s) :
    wp (system (fifo txDepth rxDepth)) FlowGuard (serviceInterrupt.send status)
      (fun _ => Flows 0) s := by
  unfold serviceInterrupt.send
  split
  . next hbit =>
    apply h.wp_part
    . apply Prog.performs_mono performs_transferMessageToBus
      intro op hop
      apply hop.handlerOp
    . apply wp_transferMessageToBus_flow h.depths (h.balanced hon hstatus hbit)
  . apply wp_done
    intro hw hsteps
    apply h.steps hsteps

theorem preserved (p : Pointer) (list : List BusMessage) (byte₀ : Address → Byte) :
    Preserved p list byte₀ (@FlowGuard txDepth rxDepth) (Flows 0)
      (fun s => Fits txDepth.toNat rxDepth.toNat s.hw) where
  quiet :=
    { stable := stable
      next := fun op s r hop h _ => h.next_quiet hop.quietOp }
  guard op s hop _ h := by
    cases op with
    | readRegister reg => exact ⟨h.flowing, fun heq => absurd heq hop.1⟩
    | writeRegister v reg => contradiction
    | _ => trivial
  service s status hon h hread := by
    have hstatus : Unmasked status
        ({ s with
          hw := s.hw.read .intrStat
          log := s.log ++ [.read .intrStat status] } : State (fifo txDepth rxDepth)) := by
      apply canRead_intrStat hread
    apply On.wp_service (Flows status) (Flows status) (Flows 0) (Flows 0) (Flows 0)
    . apply hon.append
      . apply Silent.read
        simp
      . apply value_intrMask_read
    . apply hstatus
    . apply (h.seen hread).read
      simp
    . intro s _ _ h
      apply h.wp_clear
    . intro hbit s _ _ h
      apply h.wp_abort hbit
    . intro _ s hon hstatus h
      apply h.unseen.wp_receive hon hstatus
    . intro _ s hon hstatus h
      apply h.wp_send hon hstatus
    . intro s _ h
      apply h.wp_wakeup
  log_stable := by
    rintro s _ h ⟨hw, hstep, rfl⟩
    apply h.step hstep
  log_next op s r _ hguard h _ := by
    cases op with
    | readRegister reg => apply h.read
    | writeRegister v reg =>
      apply h.write
      intro heq
      apply (hguard.2 heq).2
    | losePower => exact Fits.of_nil rfl rfl
    | reach point => cases point <;> apply h
    | _ => apply h

end Flows

def flowExtension (s₀ : State (fifo txDepth rxDepth)) (p : Pointer) (list : List BusMessage)
    (hdepths : Depths txDepth rxDepth s₀.device) : Extension s₀ p list Fifo.Empty Fifo.Cleared where
  guard := FlowGuard
  on := Flows 0
  left _ := Flows 0
  done _ _ := True
  log s := Fits txDepth.toNat rxDepth.toNat s.hw
  on_preserved := Flows.preserved p list s₀.memory.byte
  left_preserved _ := Flows.preserved p list s₀.memory.byte
  cleared_clrIntr h v hempty _ := hempty.cleared
  cleared_calm h hcleared := hcleared.toEmpty
  cleared_step h h' hcleared hstep := hcleared.step hstep
  cleared_read reg h v hcleared hreg _ := hcleared.read hreg
  cleared_write h hcleared := { hcleared with }
  start s hdevice _ _ hlog henable _ hcleared s' hs' := by
    rw [hs']
    have hflow : Flow txDepth.toNat rxDepth.toNat 0 s.hw := by
      apply Flow.start hcleared
      show value s.hw .enable ≠ 0
      rw [henable]
      decide
    have hbalanced : Balanced s := by
      unfold Balanced
      rw [hdevice]
      exact ⟨rfl, hflow⟩
    have hflows : Flows 0 s :=
      { depths := by
          rw [hdevice]
          exact { hdepths with }
        flowing := .inl hbalanced
        aborted := by simp }
    constructor
    . apply hflows.write _ .intrMask (by simp) (by simp)
    . apply hflow.fits.write_of_ne intrDefaultMask .intrMask (by simp)
  sleep s _ h hlog _ s' hs' := by
    rw [hs']
    exact ⟨{ h with }, hlog⟩
  leave s r _ h hlog _ _ s' hs' := by
    rw [hs']
    exact ⟨{ h with }, hlog⟩
  off s r _ _ hlog _ s' hs' := by
    rw [hs']
    exact ⟨trivial, hlog.write_of_ne 0 .enable (by simp)⟩
  done_untouched _ :=
    { step := fun s hw h hstep => ⟨trivial, h.2.step hstep⟩
      read := fun s reg v h _ _ => ⟨trivial, h.2.read reg⟩
      write := fun s v reg h hreg _ _ => ⟨trivial, h.2.write_of_ne v reg hreg⟩ }
  done_return s r _ h := ⟨trivial, h⟩

def Counted (s : State (fifo txDepth rxDepth)) : Prop :=
  s.device.receiveOutstanding = s.hw.owed
    ∧ 0 ≤ s.device.receiveOutstanding
    ∧ s.device.receiveOutstanding ≤ rxDepth.toNat

/--
What is promised for every configuration of a transfer. An access to `IC_DATA_CMD` and the change of
`receive_outstanding` that goes with it count as one step.
-/
structure NoOverrun (c : Config (system (fifo txDepth rxDepth)) IOReturn) : Prop where
  level : c.state.hw.tx.length ≤ txDepth.toNat
  room : ∀ w, c.state.hw.tx.head? = some w → isRead w → c.state.hw.rx.length < rxDepth.toNat
  write : ∀ v k, c.handler = some (.call (.writeRegister v .dataCmd) k) →
    c.state.hw.tx.length < txDepth.toNat
  read : ∀ k, c.handler = some (.call (.readRegister .dataCmd) k) → c.state.hw.rx ≠ []
  caller : ∀ op k, c.handler = none → c.main = .call op k →
    op ≠ .readRegister .dataCmd ∧ ∀ v, op ≠ .writeRegister v .dataCmd
  balance : AtAccess c → Begun c.state.log → c.state.hw.regs .enable ≠ 0 →
    c.state.hw.aborted = false → Counted c.state

theorem Flowing.counted (h : Flowing s) (haborted : s.hw.aborted = false) : Counted s := by
  rcases h with h | ⟨_, h⟩
  . exact ⟨h.2.owed_eq haborted, h.2.nonneg, h.2.le_depth⟩
  . rw [haborted] at h
    contradiction

/--
Neither FIFO ever overflows, and no byte is read from an empty one.
-/
theorem transferI2C_noOverrun {memory : Memory}
    {c : Config (system (fifo txDepth rxDepth)) IOReturn} (h₀ : Between s)
    (hdepths : Depths txDepth rxDepth s.device)
    (hmessage : ∀ i m, list[i]? = some m → memory.message p i = m)
    (hc : Reachable (system (fifo txDepth rxDepth)) handleInterrupt
      (State.next (.beginTransfer p list) s memory) (transferI2C p list.length) c) :
    NoOverrun c := by
  have hK := Fifo.Empty.calm txDepth rxDepth
  let e := flowExtension (State.next (.beginTransfer p list) s memory) p list hdepths
  have hrest := e.resting (h₀.atRest hK) hK hmessage
  have hfits : Fits txDepth.toNat rxDepth.toNat c.state.hw := by
    apply e.reachable (F := fun s => Fits txDepth.toNat rxDepth.toNat s.hw) rfl hmessage hK _ _ hrest
      hc
    . intro s _ hempty
      exact Fits.of_nil hempty.tx hempty.rx
    . intro s h
      apply h
  constructor
  . apply hfits.tx
  . intro w hw hread
    apply hfits.room hw hread
  . intro v k hhd
    rcases e.reachable_handler rfl hmessage hK hrest hc hhd with ⟨hop, _⟩ | h | ⟨r, hop, _⟩
    . rcases hop with hop | hop
      . contradiction
      . simp at hop
    . apply (h.2.1.2 rfl).1
    . contradiction
  . intro k hhd
    rcases e.reachable_handler rfl hmessage hK hrest hc hhd with ⟨hop, _⟩ | h | ⟨r, hop, _⟩
    . rcases hop with hop | hop
      . exact absurd rfl hop.1
      . simp at hop
    . apply h.2.1.2 rfl
    . exact absurd rfl hop.1
  . intro op k hnone hmain
    have hguard := Contract.reachable_main (c := e.contract rfl hmessage hK)
      (fun _ h => Extension.wp_handleInterrupt h) hrest hc hnone hmain
    constructor
    . rintro rfl
      exact hguard.2 rfl
    . rintro v rfl
      exact hguard.2.1 rfl
  . intro haccess
    apply e.reachable_atAccess
      (F := fun s : State (fifo txDepth rxDepth) =>
        Begun s.log → value s.hw .enable ≠ 0 → s.hw.aborted = false → Counted s)
      rfl hmessage hK _ _ _ _ _ _ hrest hc haccess
    . intro s hlog hbegun
      exact absurd hbegun hlog.not_begun
    . intro s h _ _
      apply h.flowing.counted
    . intro r s h _ _
      apply h.flowing.counted
    . intro r s h _ _ henable
      exact absurd h.disabled henable
    . intro reg s h _ _
      apply h.1.counted
    . intro v reg s h _ _
      apply h.1.counted

theorem transferI2C_noOverrun_pair :
    Depths 2 2 readyState.device ∧ words pairRun.state.log ≠ [] ∧ NoOverrun pairRun := by
  have hdepths : Depths 2 2 readyState.device := ⟨by decide +kernel, by decide +kernel⟩
  refine ⟨hdepths, by decide +kernel, ?_⟩
  apply transferI2C_noOverrun between_readyState hdepths Memory.put_message reachable_pairRun

end VoodooI2C
