import VoodooI2C.Completion.Parts

/-!
This module contains the verification of the handler for the end of a transfer: it wakes up the caller
in every run in which it clears `STOP_DET`, and only after all bytes were moved.
-/

namespace VoodooI2C

open Interaction RegisterFile

variable {txDepth rxDepth : Word} {s : State (fifo txDepth rxDepth)} {p : Pointer}
  {list : List BusMessage} {byte₀ byte : Address → Byte} {e₀ ws : List Word} {n : Nat} {status v : Word}
  {log : List Event} {e : Event} {op : Op} {C C' D D' F T T' : Prop} {h h' : Fifo} {reg : Register}
  {place : Place}

/-! What the log says about the wakeups. -/

def Answered (log : List Event) : Prop :=
  ∀ before v after, log = before ++ .read .clrStopDet v :: after → Begun before → .wakeup ∈ after

def StopCleared (log : List Event) : Prop :=
  ∃ before v after, log = before ++ .read .clrStopDet v :: after ∧ Begun before

def Stops (status : Word) : Prop := status &&& intrTxAbrt = 0 ∧ status &&& intrStopDet ≠ 0

def Completed (log : List Event) : Prop :=
  ∃ before after status, log = before ++ .wakeup :: after
    ∧ lastStatus before = some status ∧ Stops status

theorem Answered.concat (h : Answered log) (he : ∀ v, e ≠ .read .clrStopDet v) :
    Answered (log ++ [e]) := by
  intro before v after heq hbegun
  rcases List.eq_nil_or_concat after with rfl | ⟨after, e', rfl⟩
  . rcases List.append_inj' heq rfl with ⟨_, hlast⟩
    rw [List.cons.injEq] at hlast
    exact absurd hlast.1 (he v)
  . rw [List.concat_eq_append, ← List.cons_append, ← List.append_assoc] at heq
    rcases List.append_inj' heq rfl with ⟨hlog, _⟩
    rw [List.concat_eq_append]
    apply List.mem_append_left
    apply h before v after hlog hbegun

theorem Answered.wakeup : Answered (log ++ [.wakeup]) := by
  intro before v after heq _
  rcases List.eq_nil_or_concat after with rfl | ⟨after, e', rfl⟩
  . rcases List.append_inj' heq rfl with ⟨_, hlast⟩
    simp at hlast
  . rw [List.concat_eq_append, ← List.cons_append, ← List.append_assoc] at heq
    rcases List.append_inj' heq rfl with ⟨_, hlast⟩
    rw [List.concat_eq_append, ← hlast]
    simp

theorem StopCleared.append {t : List Event} (h : StopCleared log) : StopCleared (log ++ t) := by
  rcases h with ⟨before, v, after, rfl, hbegun⟩
  refine ⟨before, v, after ++ t, ?_, hbegun⟩
  rw [List.append_assoc, List.cons_append]

theorem StopCleared.read {v : Word} (h : Begun log) : StopCleared (log ++ [.read .clrStopDet v]) :=
  ⟨log, v, [], rfl, h⟩

theorem StopCleared.wakeup (h : StopCleared log) (hanswered : Answered log) : .wakeup ∈ log := by
  rcases h with ⟨before, v, after, rfl, hbegun⟩
  apply List.mem_append_right
  apply List.mem_cons_of_mem
  apply hanswered before v after rfl hbegun

theorem Completed.concat_iff :
    Completed (log ++ [e])
      ↔ Completed log
        ∨ e = .wakeup ∧ ∃ status, lastStatus log = some status ∧ Stops status := by
  constructor
  . rintro ⟨before, after, status, heq, h⟩
    rcases List.eq_nil_or_concat after with rfl | ⟨after, e', rfl⟩
    . right
      rcases List.append_inj' heq rfl with ⟨rfl, hlast⟩
      rw [List.cons.injEq] at hlast
      exact ⟨hlast.1, status, h⟩
    . left
      rw [List.concat_eq_append, ← List.cons_append, ← List.append_assoc] at heq
      rcases List.append_inj' heq rfl with ⟨hlog, _⟩
      exact ⟨before, after, status, hlog, h⟩
  . rintro (⟨before, after, status, rfl, h⟩ | ⟨rfl, status, h⟩)
    . refine ⟨before, after ++ [e], status, ?_, h⟩
      rw [List.append_assoc, List.cons_append]
    . exact ⟨log, [], status, rfl, h⟩

theorem lastStatus_concat (he : ∀ v, e ≠ .read .intrStat v) :
    lastStatus (log ++ [e]) = lastStatus log := by
  unfold lastStatus
  rw [List.filterMap_append]
  cases e with
  | read reg v =>
    cases reg with
    | intrStat => exact absurd rfl (he v)
    | _ => simp
  | _ => simp

theorem lastStatus_read (v : Word) : lastStatus (log ++ [.read .intrStat v]) = some v := by
  unfold lastStatus
  rw [List.filterMap_append]
  simp

def PlainOp (status : Word) (op : Op) : Prop :=
  match op with
  | .readRegister reg =>
    reg ≠ .intrStat ∧ reg ≠ .clrIntr ∧ reg ≠ .enableStatus
      ∧ (reg = .clrStopDet → status &&& intrStopDet ≠ 0)
      ∧ (reg = .clrTxAbrt → status &&& intrTxAbrt ≠ 0)
  | .commandWakeup => False
  | op => HandlerOp op

theorem PlainOp.handlerOp (h : PlainOp status op) : HandlerOp op := by
  cases op with
  | readRegister reg => apply h.2.2.1
  | commandWakeup => contradiction
  | _ => apply h

theorem ReadFromBusOp.plainOp (h : ReadFromBusOp op) : PlainOp status op := by
  cases op with
  | readRegister reg => rcases h with rfl | rfl <;> simp [PlainOp]
  | commandWakeup => contradiction
  | _ => apply h.handlerOp

theorem TransferMessageToBusOp.plainOp (h : TransferMessageToBusOp op) : PlainOp status op := by
  cases op with
  | readRegister reg => rcases h with rfl | rfl <;> simp [PlainOp]
  | commandWakeup => contradiction
  | _ => apply h.handlerOp

theorem plainOp_clearInterrupt (bit : Word) {reg : Register}
    (hreg : reg ≠ .intrStat ∧ reg ≠ .clrIntr ∧ reg ≠ .enableStatus ∧ reg ≠ .clrStopDet
      ∧ reg ≠ .clrTxAbrt) :
    (clearInterrupt status bit reg).Performs (PlainOp status) := by
  unfold clearInterrupt
  split
  . simp only [performs_readRegister_bind, performs_pure, implies_true, and_true]
    rcases hreg with ⟨hintr, hclr, hstatus, hstop, habrt⟩
    exact ⟨hintr, hclr, hstatus, fun heq => absurd heq hstop, fun heq => absurd heq habrt⟩
  . simp

theorem plainOp_clear : (readClearInterruptBits.clear status).Performs (PlainOp status) := by
  have habort : (readClearInterruptBits.clearTxAbrt status).Performs (PlainOp status) := by
    unfold readClearInterruptBits.clearTxAbrt
    split
    . next hbit =>
      simp only [performs_readRegister_bind, performs_update_bind, performs_pure, implies_true,
        and_true]
      refine ⟨by simp [PlainOp], fun source => ⟨fun _ => rfl, ?_⟩⟩
      simp only [PlainOp]
      exact ⟨by simp, by simp, by simp, by simp, fun _ => hbit⟩
    . simp
  have hstop : (readClearInterruptBits.clearStopDet status).Performs (PlainOp status) := by
    unfold readClearInterruptBits.clearStopDet
    simp only [performs_device_bind]
    refine ⟨trivial, fun d => ?_⟩
    split
    . next hbit =>
      simp only [performs_readRegister_bind, performs_pure, implies_true, and_true]
      exact ⟨by simp, by simp, by simp, fun _ => hbit.1, by simp⟩
    . simp
  unfold readClearInterruptBits.clear
  apply Prog.performs_bind (plainOp_clearInterrupt _ (by simp)) fun _ => ?_
  apply Prog.performs_bind (plainOp_clearInterrupt _ (by simp)) fun _ => ?_
  apply Prog.performs_bind (plainOp_clearInterrupt _ (by simp)) fun _ => ?_
  apply Prog.performs_bind (plainOp_clearInterrupt _ (by simp)) fun _ => ?_
  apply Prog.performs_bind habort fun _ => ?_
  apply Prog.performs_bind (plainOp_clearInterrupt _ (by simp)) fun _ => ?_
  apply Prog.performs_bind (plainOp_clearInterrupt _ (by simp)) fun _ => ?_
  apply Prog.performs_bind hstop fun _ => ?_
  apply Prog.performs_bind (plainOp_clearInterrupt _ (by simp)) fun _ => ?_
  apply plainOp_clearInterrupt _ (by simp)

theorem plainOp_abort : serviceInterrupt.abort.Performs (PlainOp status) := by
  simp only [serviceInterrupt.abort, performs_update_bind]
  refine ⟨fun _ => rfl, fun _ => rfl, fun _ => rfl, ?_⟩
  exact Prog.performs_perform (show PlainOp status (.writeRegister 0 .intrMask) from .inr rfl)

theorem plainOp_receive : (serviceInterrupt.receive status).Performs (PlainOp status) := by
  unfold serviceInterrupt.receive
  split
  . apply Prog.performs_mono performs_readFromBus
    intro op h
    apply h.plainOp
  . simp

theorem plainOp_send : (serviceInterrupt.send status).Performs (PlainOp status) := by
  unfold serviceInterrupt.send
  split
  . apply Prog.performs_mono performs_transferMessageToBus
    intro op h
    apply h.plainOp
  . simp

/--
What the operations of the handler after it has read a status keep of the controller. `F` says that
the status says the end of the transfer, `D` that received bytes are still to be read then, `C` that an
abort was noticed.
-/
structure Advance (e₀ : List Word) (list : List BusMessage) (txDepth rxDepth : Nat) (C D F : Prop)
    (ws : List Word) (n : Nat) (h : Fifo) : Prop where
  tracked : Tracked e₀ list ws n h
  fits : Fits txDepth rxDepth h
  aborted : h.aborted = true → h.txAbrt = true ∨ C
  finished : F → Finished e₀ list ws n h
  drained : F → D ∨ h.rx = []

namespace Advance

variable {txDepth rxDepth : Nat}

theorem weaken (h₀ : Advance e₀ list txDepth rxDepth C D F ws n h) (hC : C → C')
    (hD : F → h.rx ≠ [] → D → D') : Advance e₀ list txDepth rxDepth C' D' F ws n h :=
  { h₀ with
    aborted := fun haborted => (h₀.aborted haborted).imp_right hC
    drained := fun hF => by
      by_cases hrx : h.rx = []
      . exact .inr hrx
      . left
        apply hD hF hrx
        rcases h₀.drained hF with hD | hrx'
        . apply hD
        . contradiction }

theorem step (h₀ : Advance e₀ list txDepth rxDepth C D F ws n h) (hstep : Fifo.Step rxDepth h h') :
    Advance e₀ list txDepth rxDepth C D F ws n h' where
  tracked := h₀.tracked.step h₀.fits hstep
  fits := h₀.fits.step hstep
  aborted := by
    cases hstep with
    | execute _ | stop _ => apply h₀.aborted
    | abort _ =>
      intro _
      left
      rfl
  finished hF := (h₀.finished hF).step hstep
  drained hF := by
    cases hstep with
    | execute hc =>
      rw [(h₀.finished hF).tx] at hc
      contradiction
    | abort _ | stop _ => apply h₀.drained hF

theorem read (h₀ : Advance e₀ list txDepth rxDepth C D F ws n h) (hreg : reg ≠ .dataCmd)
    (hintr : reg ≠ .clrIntr) (habrt : reg = .clrTxAbrt → C) :
    Advance e₀ list txDepth rxDepth C D F ws n (h.read reg) where
  tracked := h₀.tracked.read hreg
  fits := h₀.fits.read reg
  aborted haborted := by
    cases reg with
    | clrIntr => contradiction
    | clrTxAbrt =>
      right
      apply habrt rfl
    | _ => apply h₀.aborted haborted
  finished hF := (h₀.finished hF).read hreg
  drained hF := by
    cases reg with
    | dataCmd => contradiction
    | _ => apply h₀.drained hF

theorem pop (h₀ : Advance e₀ list txDepth rxDepth C D F ws n h) (hrx : h.rx ≠ []) :
    Advance e₀ list txDepth rxDepth C D F ws (n + 1) (h.read .dataCmd) where
  tracked := h₀.tracked.pop hrx
  fits := h₀.fits.read .dataCmd
  aborted := h₀.aborted
  finished hF := (h₀.finished hF).pop hrx
  drained hF := by
    left
    rcases h₀.drained hF with hD | hrx'
    . apply hD
    . contradiction

theorem write_intrMask (h₀ : Advance e₀ list txDepth rxDepth C D F ws n h) :
    Advance e₀ list txDepth rxDepth C D F ws n (h.write txDepth v .intrMask) where
  tracked := h₀.tracked.write_intrMask
  fits := h₀.fits.write_of_ne v .intrMask (by simp)
  aborted := h₀.aborted
  finished hF := (h₀.finished hF).write_intrMask
  drained := h₀.drained

theorem push (h₀ : Advance e₀ list txDepth rxDepth C D F ws n h)
    (hwrite : h.aborted = false →
      h.write txDepth v .dataCmd = { h with tx := h.tx ++ [v], active := true })
    (hplace : (places list)[ws.length]? = some place) (hv : v &&& ~~~0x400 = place.word byte)
    (hroom : isRead v → h.owed < rxDepth)
    (hsmall : h.aborted = false → isRead v → h.owed + 1 < 0x80000000) :
    Advance e₀ list txDepth rxDepth C D F (ws ++ [v]) n (h.write txDepth v .dataCmd) where
  tracked := h₀.tracked.push hwrite hplace hv hsmall
  fits := h₀.fits.write fun _ => hroom
  aborted haborted := by
    have htxAbrt : (h.write txDepth v .dataCmd).txAbrt = h.txAbrt := by
      unfold Fifo.write
      dsimp only
      split <;> rfl
    rw [Fifo.aborted_write h (by simp)] at haborted
    rw [htxAbrt]
    apply h₀.aborted haborted
  finished hF := by
    -- there is no place left
    have hcount := (h₀.finished hF).count
    rcases List.getElem?_eq_some_iff.mp hplace with ⟨hlt, _⟩
    omega
  drained hF := by
    have hcount := (h₀.finished hF).count
    rcases List.getElem?_eq_some_iff.mp hplace with ⟨hlt, _⟩
    omega

end Advance

/--
What they keep of the log. `T` says that the transfer has failed.
-/
structure Heard (T : Prop) (status : Word) (log : List Event) : Prop where
  begun : Begun log
  last : lastStatus log = some status
  answered : Answered log ∨ status &&& (intrTxAbrt ||| intrStopDet) ≠ 0
  woken : .wakeup ∈ log → T ∨ Completed log

namespace Heard

theorem weaken (h : Heard T status log) (hT : T → T') : Heard T' status log :=
  { h with woken := fun hmem => (h.woken hmem).imp_left hT }

theorem append (h : Heard T status log) (hwakeup : e ≠ .wakeup)
    (hintr : ∀ v, e ≠ .read .intrStat v)
    (hstop : ∀ v, e = .read .clrStopDet v → status &&& intrStopDet ≠ 0) :
    Heard T status (log ++ [e]) where
  begun := List.mem_append_left _ h.begun
  last := by rw [lastStatus_concat hintr, h.last]
  answered := by
    by_cases hbit : status &&& (intrTxAbrt ||| intrStopDet) ≠ 0
    . exact .inr hbit
    . left
      apply (h.answered.resolve_right hbit).concat
      intro v heq
      apply hbit
      intro hzero
      apply hstop v heq
      apply (and_or_eq_zero_iff.mp hzero).2
  woken hmem := by
    have hmem' : .wakeup ∈ log := by
      rw [List.mem_append, List.mem_singleton] at hmem
      rcases hmem with hmem | heq
      . apply hmem
      . exact absurd heq.symm hwakeup
    apply (h.woken hmem').imp_right
    intro hcompleted
    exact Completed.concat_iff.mpr (.inl hcompleted)

end Heard

structure Followed (e₀ : List Word) (list : List BusMessage) (C D T : Prop) (status : Word)
    (s : State (fifo txDepth rxDepth)) : Prop where
  advance : Advance e₀ list txDepth.toNat rxDepth.toNat (C ∨ status &&& intrTxAbrt ≠ 0) D (Stops status)
    (words s.log) (pops s.log).length s.hw
  raised : Raised list (StopCleared s.log) (words s.log) s.hw
  heard : Heard T status s.log

namespace Followed

theorem stable : (system (fifo txDepth rxDepth)).Stable (Followed e₀ list C D T status) := by
  rintro s _ h ⟨hw, hstep, rfl⟩
  exact
    { h with
      advance := h.advance.step hstep
      raised := .of_step h.advance.tracked hstep }

theorem owed_lt {v : Word} (hflow : FlowGuard (.writeRegister v .dataCmd) s)
    (hsmall : SmallGuard (.writeRegister v .dataCmd) s) (haborted : s.hw.aborted = false)
    (hread : isRead v) : s.hw.owed + 1 < 0x80000000 := by
  rcases hflow.1 with hbalanced | ⟨_, haborted'⟩
  . have howed := hbalanced.2.owed_le
    have := hsmall hread
    omega
  . rw [haborted] at haborted'
    contradiction

theorem write_eq {v : Word} (hflow : FlowGuard (.writeRegister v .dataCmd) s)
    (haborted : s.hw.aborted = false) :
    s.hw.write txDepth.toNat v .dataCmd = { s.hw with tx := s.hw.tx ++ [v], active := true } := by
  rcases hflow.1 with hbalanced | ⟨_, haborted'⟩
  . apply hbalanced.2.write_dataCmd (hflow.2 rfl).1
    by_contra habrt
    rw [Bool.not_eq_false] at habrt
    rw [hbalanced.2.aborted habrt] at haborted
    contradiction
  . rw [haborted] at haborted'
    contradiction

theorem next {r : op.Ans} (h : Followed e₀ list C D T status s) (hop : PlainOp status op)
    (hguard : Guard p list byte₀ op s) (hflow : FlowGuard op s) (hsmall : SmallGuard op s) :
    Followed e₀ list C D T status (State.next op s r) := by
  cases op with
  | readRegister reg =>
    rcases hop with ⟨hintr, hclr, _, hstop, habrt⟩
    constructor
    . by_cases hreg : reg = .dataCmd
      . subst hreg
        have := h.advance.pop (hflow.2 rfl)
        simpa [State.next, fifo] using this
      . have := h.advance.read hreg hclr fun heq => .inr (habrt heq)
        simpa [State.next, fifo, hreg] using this
    . have hraised : Raised list (StopCleared (s.log ++ [.read reg r])) (words s.log)
          (s.hw.read reg) := by
        apply Raised.read _ hclr
        . rintro rfl
          apply StopCleared.read h.heard.begun
        . apply h.raised.weaken
          apply StopCleared.append
      simpa [State.next, fifo] using hraised
    . apply h.heard.append
      . simp
      . intro v heq
        rw [Event.read.injEq] at heq
        exact hintr heq.1
      . intro v heq
        rw [Event.read.injEq] at heq
        apply hstop heq.1
  | writeRegister v reg =>
    rcases hop with rfl | rfl
    . rcases hguard.2 rfl with ⟨place, hplace, hv⟩
      constructor
      . have := h.advance.push (write_eq hflow) hplace hv (hflow.2 rfl).2
          fun haborted => owed_lt hflow hsmall haborted
        simpa [State.next, fifo] using this
      . have hraised : Raised list (StopCleared (s.log ++ [.write v .dataCmd])) (words s.log ++ [v])
            (s.hw.write txDepth.toNat v .dataCmd) := .push (write_eq hflow)
        simpa [State.next, fifo] using hraised
      . apply h.heard.append (by simp) (by simp) (by simp)
    . constructor
      . have := h.advance.write_intrMask (v := v)
        simpa [State.next, fifo] using this
      . have hraised : Raised list (StopCleared (s.log ++ [.write v .intrMask])) (words s.log)
            (s.hw.write txDepth.toNat v .intrMask) := by
          apply Raised.write_intrMask
          apply h.raised.weaken
          apply StopCleared.append
        simpa [State.next, fifo] using hraised
      . apply h.heard.append (by simp) (by simp) (by simp)
  | store a b =>
    constructor
    . simpa [State.next] using h.advance
    . have hraised : Raised list (StopCleared (s.log ++ [.store a b])) (words s.log) s.hw := by
        apply h.raised.weaken
        apply StopCleared.append
      simpa [State.next] using hraised
    . apply h.heard.append (by simp) (by simp) (by simp)
  | update f | device | message _ _ | load _ | disableInterrupt | enableInterrupt => exact { h with }
  | reach point =>
    cases point with
    | readFromBus | transferMessageToBus => exact { h with }
    | _ => contradiction
  | _ => contradiction

end Followed

structure Moved (e₀ : List Word) (list : List BusMessage) (s : State (fifo txDepth rxDepth)) :
    Prop where
  whole : Whole list
  written : (words s.log).length = (places list).length
  executed : s.hw.executed = e₀ ++ words s.log
  tx : s.hw.tx = []
  received : (pops s.log).length = (readAddresses list).length

def WakeGuard (e₀ : List Word) (list : List BusMessage) (byte₀ : Address → Byte)
    (s : State (fifo txDepth rxDepth)) : Prop :=
  Settled list byte₀ s ∧ ∃ status, lastStatus s.log = some status
    ∧ (Stops status → Moved e₀ list s)
    ∧ (status &&& intrTxAbrt = 0 → Whole list → Moved e₀ list s)

def CompletionGuard (e₀ : List Word) (list : List BusMessage) (byte₀ : Address → Byte) (op : Op)
    (s : State (fifo txDepth rxDepth)) : Prop :=
  FlowGuard op s ∧ SmallGuard op s ∧ HandlerOp op
    ∧ (op = .commandWakeup → WakeGuard e₀ list byte₀ s)

theorem Followed.wp_plain {q : Driver Unit} {Q Q' : Unit → State (fifo txDepth rxDepth) → Prop}
    (h : Followed e₀ list C D T status s) (hq : q.Performs (PlainOp status))
    (hguard : wp (system (fifo txDepth rxDepth)) (Guard p list byte₀) q Q s)
    (hflow : wp (system (fifo txDepth rxDepth)) FlowGuard q Q' s)
    (hsmall : wp (system (fifo txDepth rxDepth)) SmallGuard q (fun _ _ => True) s) :
    wp (system (fifo txDepth rxDepth)) (CompletionGuard e₀ list byte₀) q
      (fun a s' => Q a s' ∧ Q' a s' ∧ Followed e₀ list C D T status s') s := by
  have hwp := wp_and (wp_and hguard hflow) (wp_and hsmall (wp_of_performs hq))
  apply wp_mono (wp_keeping hwp stable _ h)
  . rintro op s ⟨⟨⟨_, hflow⟩, hsmall, hop⟩, _⟩
    refine ⟨hflow, hsmall, hop.handlerOp, ?_⟩
    rintro rfl
    contradiction
  . rintro a s ⟨⟨⟨hQ, hQ'⟩, _⟩, h⟩
    exact ⟨hQ, hQ', h⟩
  . rintro op s r ⟨⟨hguard, hflow⟩, hsmall, hop⟩ h _
    apply h.next hop hguard hflow hsmall

theorem wp_small_of_performs {q : Driver Unit}
    (hq : q.Performs fun op => ∀ v, op ≠ .writeRegister v .dataCmd) :
    wp (system (fifo txDepth rxDepth)) SmallGuard q (fun _ _ => True) s := by
  apply wp_mono (wp_of_performs hq)
  . intro op s hop
    cases op with
    | writeRegister v reg =>
      apply SmallGuard.of_ne
      rintro rfl
      exact hop v rfl
    | _ => trivial
  . intro _ _ h
    apply h

/-! What the parts of the handler do to `bus_device`. -/

def Troubled (d : BusDevice) : Prop := d.commandError ≠ 0 ∨ d.messageError ≠ 0

theorem wp_clear_frame :
    wp (system (fifo txDepth rxDepth)) (fun _ _ => True) (readClearInterruptBits.clear status)
      (fun _ s' => ∃ a, s'.device = { s.device with abortSource := a }) s := by
  apply wp_performs (performs_clear status)
  . rintro s' _ h ⟨hw, _, rfl⟩
    apply h
  . intro _ _ _ _
    trivial
  . rintro op s' r (hop | ⟨a, rfl⟩) ⟨a', h⟩ _
    . cases op with
      | readRegister _ | device | disableInterrupt | enableInterrupt => exact ⟨a', h⟩
      | _ => contradiction
    . refine ⟨a, ?_⟩
      simp only [State.next, h]
  . exact ⟨_, rfl⟩

theorem wp_receive_frame :
    wp (system (fifo txDepth rxDepth)) (fun _ _ => True) (serviceInterrupt.receive status)
      (fun _ s' =>
        s'.device.commandError = s.device.commandError
          ∧ s'.device.messageError = s.device.messageError) s := by
  have hperforms : (serviceInterrupt.receive status).Performs ReadFromBusOp := by
    unfold serviceInterrupt.receive
    split
    . apply performs_readFromBus
    . simp
  apply wp_performs hperforms
  . rintro s' _ h ⟨hw, _, rfl⟩
    apply h
  . intro _ _ _ _
    trivial
  . intro op s' r hop h _
    cases op with
    | update f =>
      rcases hop s'.device with ⟨o, st, l, b, i, heq, _⟩
      simp only [State.next, heq]
      apply h
    | reach point => cases point <;> apply h
    | _ => apply h
  . exact ⟨rfl, rfl⟩

theorem wp_send_frame (status : Word) (s : State (fifo txDepth rxDepth)) :
    wp (system (fifo txDepth rxDepth)) (fun _ _ => True) (serviceInterrupt.send status)
      (fun _ s' => s'.device.commandError = s.device.commandError) s := by
  have hperforms : (serviceInterrupt.send status).Performs TransferMessageToBusOp := by
    unfold serviceInterrupt.send
    split
    . apply performs_transferMessageToBus
    . simp
  apply wp_performs hperforms
  . rintro s' _ h ⟨hw, _, rfl⟩
    apply h
  . intro _ _ _ _
    trivial
  . intro op s' r hop h _
    cases op with
    | update f =>
      rcases hop s'.device with ⟨o, st, l, b, i, e, heq, _⟩
      simp only [State.next, heq]
      apply h
    | reach point => cases point <;> apply h
    | _ => apply h
  . rfl

theorem wp_abort_frame :
    wp (system (fifo txDepth rxDepth)) (fun _ _ => True) serviceInterrupt.abort
      (fun _ s' =>
        s'.device.commandError ≠ 0
          ∧ s'.device.messageError = s.device.messageError
          ∧ s'.device.receiveOutstanding = 0) s := by
  unfold serviceInterrupt.abort
  apply wp_update
  apply wp_update
  apply wp_update
  apply wp_tail
  apply wp_writeRegister
  intro hw _
  refine ⟨trivial, ?_⟩
  apply wp_done
  intro hw' _
  exact ⟨or_errTxAbrt_ne_zero _, rfl, rfl⟩

end VoodooI2C
