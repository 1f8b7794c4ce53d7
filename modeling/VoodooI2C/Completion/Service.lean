import VoodooI2C.Completion.Handler

/-!
This module contains what holds between the parts of a run of the handler for the end of a transfer.
-/

namespace VoodooI2C

open Interaction RegisterFile

variable {txDepth rxDepth : Word} {s : State (fifo txDepth rxDepth)} {p : Pointer}
  {list : List BusMessage} {byte₀ : Address → Byte} {e₀ : List Word} {status bit : Word} {n : Nat}
  {d : BusDevice}

theorem and_and_of_and_eq {x y z : Word} (h : y &&& z = z) : x &&& y &&& z = x &&& z := by
  rw [BitVec.and_assoc, h]

theorem MaskFits.bits {mask : Word} (h : MaskFits d mask) (hmessage : d.messageError = 0) :
    mask &&& intrTxAbrt = intrTxAbrt
      ∧ mask &&& intrRxFull = intrRxFull
      ∧ mask &&& intrStopDet = intrStopDet := by
  unfold MaskFits at h
  rw [if_neg (not_not_intro hmessage)] at h
  split at h
  . rcases h with h | ⟨h, _⟩
    . rw [h]
      decide
    . rw [h]
      decide
  . rw [h.1]
    decide

section On

variable {H : Hardware} [RegisterFile H] {s : State H}

theorem On.undisturbed (h : On p list byte₀ s) (hstatus : Unmasked status s)
    (hbit : status &&& bit ≠ 0) : s.device.commandError = 0 ∧ s.device.messageError = 0 := by
  rcases h.2.2 with ⟨hcommand, _, _, hmask⟩ | haborted
  . refine ⟨hcommand, ?_⟩
    by_contra hmessage
    unfold MaskFits at hmask
    rw [if_pos hmessage] at hmask
    unfold Unmasked at hstatus
    rw [← hstatus, hmask] at hbit
    simp at hbit
  . rw [eq_zero_of_aborted haborted hstatus] at hbit
    simp at hbit

theorem On.mask (h : On p list byte₀ s) (hstatus : Unmasked status s) (hbit : status &&& bit ≠ 0) :
    value s.hw .intrMask &&& intrTxAbrt = intrTxAbrt
      ∧ value s.hw .intrMask &&& intrRxFull = intrRxFull := by
  have hmessage := (h.undisturbed hstatus hbit).2
  rcases h.2.2 with ⟨_, _, _, hmask⟩ | haborted
  . rcases hmask.bits hmessage with ⟨habrt, hfull, _⟩
    exact ⟨habrt, hfull⟩
  . rw [eq_zero_of_aborted haborted hstatus] at hbit
    simp at hbit

end On

theorem ReadSide.finished (h : ReadSide list d n) (hindex : list.length ≤ d.messageReadIndex) :
    n = (readAddresses list).length := by
  have hside := h.2
  split at hside
  . rcases hside with ⟨m, hm, _⟩
    rw [List.getElem?_eq_none hindex] at hm
    contradiction
  . apply hside.finished
    rw [length_readSegments]
    apply hindex

theorem Whole.not_refusedAt {i : Nat} (h : Whole list) : ¬ RefusedAt list i := by
  rintro ⟨m, m₀, hm, hm₀, hbad⟩
  exact hbad (h m (List.mem_of_getElem? hm) m₀ hm₀)

structure Serving (e₀ : List Word) (list : List BusMessage) (status : Word)
    (s : State (fifo txDepth rxDepth)) : Prop where
  flows : Flows status s
  kept : Followed e₀ list (s.device.commandError ≠ 0) (status &&& intrRxFull ≠ 0)
    (Troubled s.device) status s
  refused : s.device.messageError ≠ 0 → ¬ Whole list
  calm : Stops status → s.device.commandError = 0

structure Received (e₀ : List Word) (list : List BusMessage) (status : Word)
    (s : State (fifo txDepth rxDepth)) : Prop where
  flows : Flows 0 s
  kept : Followed e₀ list (s.device.commandError ≠ 0) False (Troubled s.device) status s
  refused : s.device.messageError ≠ 0 → ¬ Whole list
  calm : Stops status → s.device.commandError = 0

/--
What holds at the label `wakeup`.
-/
structure Serviced (e₀ : List Word) (list : List BusMessage) (status : Word)
    (s : State (fifo txDepth rxDepth)) : Prop where
  flows : Flows 0 s
  kept : Followed e₀ list (s.device.commandError ≠ 0) False (Troubled s.device) status s
  refused : s.device.messageError ≠ 0 → ¬ Whole list
  aborted : status &&& intrTxAbrt ≠ 0 → s.device.commandError ≠ 0
  due : status &&& (intrTxAbrt ||| intrStopDet) ≠ 0 → s.device.receiveOutstanding = 0

namespace Serving

theorem wp_clear (h : Serving e₀ list status s) (hon : On p list byte₀ s) :
    wp (system (fifo txDepth rxDepth)) (CompletionGuard e₀ list byte₀)
      (readClearInterruptBits.clear status) (fun _ => Serving e₀ list status) s := by
  have hsmall := wp_small_of_performs (s := s) (Prog.performs_mono (performs_clear status) (by
    rintro op hop v rfl
    rcases hop with hop | ⟨a, hop⟩ <;> contradiction))
  have hwp := h.kept.wp_plain plainOp_clear hon.wp_clear h.flows.wp_clear hsmall
  apply wp_mono (wp_and hwp wp_clear_frame)
  . intro op s h
    apply h.1
  . rintro _ s' ⟨⟨_, hflows, hkept⟩, a, hdevice⟩
    constructor
    . apply hflows
    . rw [hdevice]
      apply hkept
    . rw [hdevice]
      apply h.refused
    . rw [hdevice]
      apply h.calm

theorem wp_abort (h : Serving e₀ list status s) (hon : On p list byte₀ s)
    (hbit : status &&& intrTxAbrt ≠ 0) :
    wp (system (fifo txDepth rxDepth)) (CompletionGuard e₀ list byte₀) serviceInterrupt.abort
      (fun _ => Serviced e₀ list status) s := by
  have hsmall : wp (system (fifo txDepth rxDepth)) SmallGuard serviceInterrupt.abort
      (fun _ _ => True) s := by
    apply wp_small_of_performs
    simp only [serviceInterrupt.abort, performs_update_bind]
    refine ⟨by simp, by simp, by simp, ?_⟩
    apply Prog.performs_perform
    simp
  have hwp := h.kept.wp_plain plainOp_abort (serviceInterrupt.wp_abort hon) (h.flows.wp_abort hbit)
    hsmall
  apply wp_mono (wp_and hwp wp_abort_frame)
  . intro op s h
    apply h.1
  . rintro _ s' ⟨⟨_, hflows, hkept⟩, hcommand, hmessage, ho⟩
    have hstops : ¬ Stops status := fun hstops => hbit hstops.1
    constructor
    . apply hflows
    . constructor
      . apply hkept.advance.weaken
        . intro _
          exact .inl hcommand
        . intro hF
          exact absurd hF hstops
      . apply hkept.raised
      . apply hkept.heard.weaken
        intro _
        exact .inl hcommand
    . rw [hmessage]
      apply h.refused
    . intro _
      apply hcommand
    . intro _
      apply ho

theorem wp_drain (h : Serving e₀ list status s) :
    wp (system (fifo txDepth rxDepth)) (fun _ _ => True) (serviceInterrupt.receive status)
      (fun _ s' => Stops status → status &&& intrRxFull ≠ 0 →
        s'.hw.rx = [] ∨ s'.device.messageNumber ≤ s'.device.messageReadIndex) s := by
  by_cases hstops : Stops status ∧ status &&& intrRxFull ≠ 0
  . have hfinished := h.kept.advance.finished hstops.1
    unfold serviceInterrupt.receive
    rw [if_pos hstops.2]
    apply wp_post (wp_readFromBus_drain hfinished.tx hfinished.small)
    intro _ s' h' _ _
    apply h'
  . apply wp_mono (wp_of_performs (Prog.performs_true _))
    . intro _ _ h
      apply h
    . intro _ _ _ hstop hfull
      exact absurd ⟨hstop, hfull⟩ hstops

theorem wp_receive (h : Serving e₀ list status s) (hon : On p list byte₀ s)
    (hstatus : Unmasked status s) :
    wp (system (fifo txDepth rxDepth)) (CompletionGuard e₀ list byte₀) (serviceInterrupt.receive status)
      (fun _ => Received e₀ list status) s := by
  have hsmall : wp (system (fifo txDepth rxDepth)) SmallGuard (serviceInterrupt.receive status)
      (fun _ _ => True) s := by
    apply wp_small_of_performs
    unfold serviceInterrupt.receive
    split
    . apply Prog.performs_mono performs_readFromBus
      rintro op hop v rfl
      contradiction
    . simp
  have hwp := h.kept.wp_plain plainOp_receive (serviceInterrupt.wp_receive hon hstatus)
    (h.flows.unseen.wp_receive hon hstatus) hsmall
  apply wp_mono (wp_and hwp (wp_and wp_receive_frame h.wp_drain))
  . intro op s h
    apply h.1
  . rintro _ s' ⟨⟨⟨hon', _⟩, hflows, hkept⟩, ⟨hcommand, hmessage⟩, hdrain⟩
    constructor
    . apply hflows
    . constructor
      . apply hkept.advance.weaken
        . rw [hcommand]
          apply id
        . -- what is left in the receive FIFO has no address to go to
          intro hstops hrx hfull
          apply hrx
          rcases hdrain hstops hfull with hnil | hindex
          . apply hnil
          . rw [(hkept.advance.finished hstops).rx_eq_nil_iff]
            rcases hon'.2.2 with ⟨_, _, hread, _⟩ | haborted
            . apply hread.finished
              rw [← hon'.1.2.2.2.1]
              apply hindex
            . have := haborted.1
              rw [hcommand, h.calm hstops] at this
              contradiction
      . apply hkept.raised
      . apply hkept.heard.weaken
        unfold Troubled
        rw [hcommand, hmessage]
        apply id
    . rw [hmessage]
      apply h.refused
    . rw [hcommand]
      apply h.calm

end Serving

namespace Received

theorem wp_refused (h : Received e₀ list status s) (hon : On p list byte₀ s)
    (hstatus : Unmasked status s) :
    wp (system (fifo txDepth rxDepth)) (fun _ _ => True) (serviceInterrupt.send status)
      (fun _ s' => s'.device.messageError ≠ 0 → ¬ Whole list) s := by
  unfold serviceInterrupt.send
  split
  . next hempty =>
    have hmessage := (hon.undisturbed hstatus hempty).2
    rcases hon with ⟨hsession, _, ⟨_, hwrite, _, hmask⟩ | haborted⟩
    . have hnumber := hsession.2.2.2.1
      have hbegun := (hmask.of_txEmpty hnumber hwrite.1 hstatus hempty).2
      apply wp_post (wp_transferMessageToBus_refused hbegun hwrite hsession hmessage)
      intro _ s' h' herror hwhole
      exact hwhole.not_refusedAt (h' herror).1
    . rw [eq_zero_of_aborted haborted hstatus] at hempty
      simp at hempty
  . apply wp_done
    intro hw _
    apply h.refused

theorem wp_troubled (hon : On p list byte₀ s) (hstatus : Unmasked status s) :
    wp (system (fifo txDepth rxDepth)) (fun _ _ => True) (serviceInterrupt.send status)
      (fun _ s' => Troubled s.device → Troubled s'.device) s := by
  by_cases hempty : status &&& intrTxEmpty ≠ 0
  . apply wp_mono (wp_of_performs (Prog.performs_true _))
    . intro _ _ h
      apply h
    . intro _ s' _ htroubled
      rcases hon.undisturbed hstatus hempty with ⟨hcommand, hmessage⟩
      rcases htroubled with herror | herror
      . exact absurd hcommand herror
      . exact absurd hmessage herror
  . unfold serviceInterrupt.send
    rw [if_neg hempty]
    apply wp_done
    intro hw _
    apply id

theorem wp_send (h : Received e₀ list status s) (hon : On p list byte₀ s)
    (hstatus : Unmasked status s) (habrt : ¬ status &&& intrTxAbrt ≠ 0) :
    wp (system (fifo txDepth rxDepth)) (CompletionGuard e₀ list byte₀) (serviceInterrupt.send status)
      (fun _ => Serviced e₀ list status) s := by
  have hsmall : wp (system (fifo txDepth rxDepth)) SmallGuard (serviceInterrupt.send status)
      (fun _ _ => True) s := by
    unfold serviceInterrupt.send
    split
    . apply wp_transferMessageToBus_small
    . apply wp_done
      intro _ _
      trivial
  have hwp := h.kept.wp_plain plainOp_send (serviceInterrupt.wp_send hon hstatus)
    (h.flows.wp_send hon hstatus) hsmall
  have hframe := wp_and (wp_send_frame status s)
    (wp_and (h.wp_refused hon hstatus) (wp_troubled hon hstatus))
  apply wp_mono (wp_and hwp hframe)
  . intro op s h
    apply h.1
  . rintro _ s' ⟨⟨hon', hflows, hkept⟩, hcommand, hrefused, htroubled⟩
    constructor
    . apply hflows
    . constructor
      . apply hkept.advance.weaken
        . rw [hcommand]
          apply id
        . intro _ _
          apply id
      . apply hkept.raised
      . apply hkept.heard.weaken htroubled
    . apply hrefused
    . intro hbit
      contradiction
    . intro hdue
      have hstops : Stops status := by
        refine ⟨not_not.mp habrt, ?_⟩
        intro hstop
        apply hdue
        rw [and_or_eq_zero_iff]
        exact ⟨not_not.mp habrt, hstop⟩
      have hfinished := hkept.advance.finished hstops
      have hpops := hfinished.rx_eq_nil_iff.mp ((hkept.advance.drained hstops).resolve_left id)
      have houtstanding := hon'.2.1.2.2 (hcommand.trans (h.calm hstops))
      unfold Outstanding at houtstanding
      rw [houtstanding, hfinished.commands, hpops, Int.sub_self]

end Received

/--
What holds between the runs of the handler.
-/
structure Vigilant (e₀ : List Word) (list : List BusMessage) (s : State (fifo txDepth rxDepth)) :
    Prop where
  flows : Flows 0 s
  advance : Advance e₀ list txDepth.toNat rxDepth.toNat (s.device.commandError ≠ 0) False False
    (words s.log) (pops s.log).length s.hw
  raised : Raised list (StopCleared s.log) (words s.log) s.hw
  refused : s.device.messageError ≠ 0 → ¬ Whole list
  begun : Begun s.log
  answered : Answered s.log
  woken : .wakeup ∈ s.log → Troubled s.device ∨ Completed s.log

namespace Serviced

theorem stable : (system (fifo txDepth rxDepth)).Stable (Serviced e₀ list status) := by
  rintro s _ h ⟨hw, hstep, rfl⟩
  exact
    { h with
      flows := h.flows.steps (.single hstep)
      kept := Followed.stable s _ h.kept ⟨hw, hstep, rfl⟩ }

theorem steps {hw : Fifo} (h : Serviced e₀ list status s)
    (hsteps : (fifo txDepth rxDepth).Steps s.hw hw) :
    Serviced e₀ list status ({ s with hw := hw } : State (fifo txDepth rxDepth)) := by
  apply stable.env h
  rw [system_env]
  exact ⟨hw, hsteps, rfl⟩

theorem moved (h : Serviced e₀ list status s) (hstops : Stops status) : Moved e₀ list s := by
  have hfinished := h.kept.advance.finished hstops
  exact
    { whole := hfinished.whole
      written := hfinished.count
      executed := hfinished.executed
      tx := hfinished.tx
      received := hfinished.rx_eq_nil_iff.mp ((h.kept.advance.drained hstops).resolve_left id) }

theorem advance (h : Serviced e₀ list status s) :
    Advance e₀ list txDepth.toNat rxDepth.toNat (s.device.commandError ≠ 0) False False
      (words s.log) (pops s.log).length s.hw :=
  { h.kept.advance with
    aborted := fun haborted =>
      (h.kept.advance.aborted haborted).imp_right fun hC => hC.elim id h.aborted
    finished := False.elim
    drained := False.elim }

theorem vigilant (h : Serviced e₀ list status s)
    (hdue : ¬ status &&& (intrTxAbrt ||| intrStopDet) ≠ 0) : Vigilant e₀ list s where
  flows := h.flows
  advance := h.advance
  raised := h.kept.raised
  refused := h.refused
  begun := h.kept.heard.begun
  answered := h.kept.heard.answered.resolve_right hdue
  woken := h.kept.heard.woken

theorem vigilant_wakeup (h : Serviced e₀ list status s)
    (hcall : status &&& (intrTxAbrt ||| intrStopDet) ≠ 0 ∨ s.device.messageError ≠ 0)
    (sleeper : Sleeper) (hw : Fifo)
    (hsteps : (fifo txDepth rxDepth).Steps s.hw hw) :
    Vigilant e₀ list ({ s with sleeper := sleeper, log := s.log ++ [.wakeup], hw := hw } :
      State (fifo txDepth rxDepth)) := by
  have h' : Serviced e₀ list status ({ s with hw := hw } : State (fifo txDepth rxDepth)) :=
    h.steps hsteps
  have hraised : Raised list (StopCleared (s.log ++ [.wakeup])) (words s.log) hw := by
    apply h'.kept.raised.weaken
    apply StopCleared.append
  exact
    { flows := { h'.flows with }
      advance := by simpa using h'.advance
      raised := by simpa using hraised
      refused := h.refused
      begun := List.mem_append_left _ h.kept.heard.begun
      answered := Answered.wakeup
      woken := fun _ => by
        rcases hcall with hcall | hcall
        . by_cases habrt : status &&& intrTxAbrt = 0
          . right
            rw [Completed.concat_iff]
            refine .inr ⟨rfl, status, h.kept.heard.last, habrt, ?_⟩
            intro hstop
            apply hcall
            rw [and_or_eq_zero_iff]
            exact ⟨habrt, hstop⟩
          . exact .inl (.inl (h.aborted habrt))
        . exact .inl (.inr hcall) }

theorem wakeGuard (h : Serviced e₀ list status s) (hsettled : Settled list byte₀ s)
    (hcall : status &&& (intrTxAbrt ||| intrStopDet) ≠ 0 ∨ s.device.messageError ≠ 0) :
    WakeGuard e₀ list byte₀ s := by
  refine ⟨hsettled, status, h.kept.heard.last, h.moved, ?_⟩
  intro habrt hwhole
  apply h.moved
  refine ⟨habrt, ?_⟩
  intro hstop
  rcases hcall with hcall | hcall
  . apply hcall
    rw [and_or_eq_zero_iff]
    exact ⟨habrt, hstop⟩
  . exact h.refused hcall hwhole

end Serviced

namespace Vigilant

theorem steps {hw : Fifo} (h : Vigilant e₀ list s) (hsteps : (fifo txDepth rxDepth).Steps s.hw hw) :
    Vigilant e₀ list ({ s with hw := hw } : State (fifo txDepth rxDepth)) := by
  have hhardware : Advance e₀ list txDepth.toNat rxDepth.toNat (s.device.commandError ≠ 0) False False
      (words s.log) (pops s.log).length hw ∧ Raised list (StopCleared s.log) (words s.log) hw := by
    induction hsteps with
    | refl => exact ⟨h.advance, h.raised⟩
    | tail _ hstep ih => exact ⟨ih.1.step hstep, .of_step ih.1.tracked hstep⟩
  exact { h with flows := h.flows.steps hsteps, advance := hhardware.1, raised := hhardware.2 }

theorem stable : (system (fifo txDepth rxDepth)).Stable (Vigilant e₀ list) := by
  rintro s _ h ⟨hw, hstep, rfl⟩
  apply h.steps (.single hstep)

theorem append {hw : Fifo} {e : Event} (h : Vigilant e₀ list s)
    (hflows : Flows 0 ({ s with hw := hw, log := s.log ++ [e] } : State (fifo txDepth rxDepth)))
    (hadvance : Advance e₀ list txDepth.toNat rxDepth.toNat (s.device.commandError ≠ 0) False False
      (words s.log) (pops s.log).length hw)
    (hraised : Raised list (StopCleared s.log) (words s.log) hw) (hsilent : Silent [e])
    (hwakeup : e ≠ .wakeup) (hstop : ∀ v, e ≠ .read .clrStopDet v) :
    Vigilant e₀ list ({ s with hw := hw, log := s.log ++ [e] } : State (fifo txDepth rxDepth)) where
  flows := hflows
  advance := by
    rw [words_append, hsilent.words, List.append_nil, pops_append, hsilent.pops, List.append_nil]
    apply hadvance
  raised := by
    rw [words_append, hsilent.words, List.append_nil]
    apply hraised.weaken
    apply StopCleared.append
  refused := h.refused
  begun := List.mem_append_left _ h.begun
  answered := h.answered.concat hstop
  woken hmem := by
    rw [List.mem_append, List.mem_singleton] at hmem
    rw [Completed.concat_iff]
    exact (h.woken (hmem.resolve_right hwakeup.symm)).imp_right .inl

theorem read {reg : Register} (v : Word) (h : Vigilant e₀ list s) (hreg : reg ≠ .dataCmd)
    (hintr : reg ≠ .clrIntr) (habrt : reg ≠ .clrTxAbrt) (hstop : reg ≠ .clrStopDet) :
    Vigilant e₀ list ({ s with hw := s.hw.read reg, log := s.log ++ [.read reg v] } :
      State (fifo txDepth rxDepth)) := by
  apply h.append (h.flows.read reg v hreg)
  . apply h.advance.read hreg hintr
    intro heq
    contradiction
  . apply h.raised.read hintr
    intro heq
    contradiction
  . apply Silent.read hreg
  . simp
  . intro v' heq
    rw [Event.read.injEq] at heq
    exact hstop heq.1

theorem write_intrMask (v : Word) (h : Vigilant e₀ list s) :
    Vigilant e₀ list
      ({ s with hw := s.hw.write txDepth.toNat v .intrMask, log := s.log ++ [.write v .intrMask] } :
        State (fifo txDepth rxDepth)) := by
  apply h.append (h.flows.write v .intrMask (by simp) (by simp))
  . apply h.advance.write_intrMask
  . apply h.raised.write_intrMask
  . apply Silent.write
    simp
  . simp
  . simp

theorem mark {e : Event} {sleeper : Sleeper} (h : Vigilant e₀ list s) (hsilent : Silent [e])
    (hwakeup : e ≠ .wakeup) (hstop : ∀ v, e ≠ .read .clrStopDet v) :
    Vigilant e₀ list
      ({ s with sleeper := sleeper, log := s.log ++ [e] } : State (fifo txDepth rxDepth)) := by
  have h' : Vigilant e₀ list ({ s with log := s.log ++ [e] } : State (fifo txDepth rxDepth)) :=
    h.append { h.flows with } h.advance h.raised hsilent hwakeup hstop
  exact { h' with flows := { h'.flows with } }

theorem quiet : Quiet (@Vigilant txDepth rxDepth e₀ list) where
  stable := stable
  next op s r hop h _ := by
    cases op with
    | readRegister reg =>
      rcases hop with rfl | rfl
      . exact h.read r (by simp) (by simp) (by simp) (by simp)
      . exact h.read r (by simp) (by simp) (by simp) (by simp)
    | device | disableInterrupt | enableInterrupt => apply h
    | _ => contradiction

theorem guard {op : Op} (h : Vigilant e₀ list s) (hop : QuietOp op) :
    CompletionGuard e₀ list byte₀ op s := by
  refine ⟨?_, ?_, hop.handlerOp, ?_⟩
  . cases op with
    | readRegister reg => exact ⟨h.flows.flowing, fun heq => absurd heq hop.1⟩
    | writeRegister v reg => contradiction
    | _ => trivial
  . cases op with
    | writeRegister v reg => contradiction
    | _ => trivial
  . rintro rfl
    contradiction

end Vigilant

def MaskOp (op : Op) : Prop :=
  match op with
  | .readRegister reg | .writeRegister _ reg => reg = .intrMask
  | _ => False

theorem Vigilant.wp_mask {q : Driver Unit} (h : Vigilant e₀ list s) (hq : q.Performs MaskOp) :
    wp (system (fifo txDepth rxDepth)) (CompletionGuard e₀ list byte₀) q
      (fun _ => Vigilant e₀ list) s := by
  apply wp_performs hq stable
  . intro op s hop h
    cases op with
    | readRegister reg =>
      have hop : reg = .intrMask := hop
      apply h.guard
      simp [QuietOp, hop]
    | writeRegister v reg =>
      have hop : reg = .intrMask := hop
      subst hop
      exact ⟨⟨h.flows.flowing, by intro h; contradiction⟩, trivial, .inr rfl, by simp⟩
    | _ => contradiction
  . intro op s r hop h _
    cases op with
    | readRegister reg =>
      have hop : reg = .intrMask := hop
      subst hop
      apply h.read r (by simp) (by simp) (by simp) (by simp)
    | writeRegister v reg =>
      have hop : reg = .intrMask := hop
      subst hop
      apply h.write_intrMask
    | _ => contradiction
  . apply h

namespace Serviced

theorem wp_wakeup (h : Serviced e₀ list status s) (hon : On p list byte₀ s) :
    wp (system (fifo txDepth rxDepth)) (CompletionGuard e₀ list byte₀) (serviceInterrupt.wakeup status)
      (fun _ => Vigilant e₀ list) s := by
  unfold serviceInterrupt.wakeup
  apply wp_device_of
  . intro _ _
    exact ⟨trivial, trivial, trivial, by simp⟩
  . split
    . next hcall =>
      apply wp_tail
      apply wp_local (fun _ => ())
      . intros; rfl
      . intros; rfl
      . intros; rfl
      . intros; rfl
      . intro hw hsteps
        refine ⟨trivial, trivial, trivial, fun _ => ?_⟩
        apply (h.steps hsteps).wakeGuard hon.2.1 hcall.1
      . apply wp_done
        intro hw hsteps
        apply h.vigilant_wakeup hcall.1 _ hw hsteps
    . next hcall =>
      have hdue : ¬ status &&& (intrTxAbrt ||| intrStopDet) ≠ 0 :=
        fun hdue => hcall ⟨.inl hdue, h.due hdue⟩
      apply (h.vigilant hdue).wp_mask
      split
      . simp only [performs_readRegister_bind, performs_writeRegister_bind]
        refine ⟨rfl, fun _ => ⟨rfl, ?_⟩⟩
        exact Prog.performs_perform (show MaskOp (.writeRegister _ .intrMask) from rfl)
      . simp

end Serviced

namespace Vigilant

theorem finished (h : Vigilant e₀ list s) (hon : On p list byte₀ s)
    (hread : (fifo txDepth rxDepth).canRead .intrStat s.hw status) (hstops : Stops status) :
    Finished e₀ list (words s.log) (pops s.log).length s.hw
      ∧ (status &&& intrRxFull ≠ 0 ∨ s.hw.rx = []) := by
  have hstatus : Unmasked status s := canRead_intrStat hread
  have hcommand := (hon.undisturbed hstatus hstops.2).1
  have hmask := hon.mask hstatus hstops.2
  rcases hread with ⟨raw, hraises, rfl⟩
  have haborted : s.hw.aborted = false := by
    by_contra haborted
    rw [Bool.not_eq_false] at haborted
    rcases h.advance.aborted haborted with htxAbrt | hC
    . have hbit := hraises.2.2.2.1.mpr htxAbrt
      rw [← and_and_of_and_eq hmask.1] at hbit
      exact hbit hstops.1
    . exact hC hcommand
  have hstop : s.hw.stopDet = true := by
    apply hraises.2.2.2.2.mp
    intro hzero
    apply hstops.2
    rw [BitVec.and_assoc, BitVec.and_comm _ intrStopDet, ← BitVec.and_assoc, hzero]
    simp
  refine ⟨h.advance.tracked.stop haborted hstop, ?_⟩
  by_cases hrx : s.hw.rx = []
  . exact .inr hrx
  . left
    have hbit := hraises.2.1.mpr hrx
    rw [← and_and_of_and_eq hmask.2] at hbit
    apply hbit

theorem serving (h : Vigilant e₀ list s) (hon : On p list byte₀ s)
    (hread : (fifo txDepth rxDepth).canRead .intrStat s.hw status) :
    Serving e₀ list status
      ({ s with hw := s.hw.read .intrStat, log := s.log ++ [.read .intrStat status] } :
        State (fifo txDepth rxDepth)) where
  flows := (h.flows.seen hread).read .intrStat status (by simp)
  kept :=
    { advance := by
        have hadvance : Advance e₀ list txDepth.toNat rxDepth.toNat
            (s.device.commandError ≠ 0 ∨ status &&& intrTxAbrt ≠ 0) (status &&& intrRxFull ≠ 0)
            (Stops status) (words s.log) (pops s.log).length s.hw :=
          { h.advance with
            aborted := fun haborted => (h.advance.aborted haborted).imp_right .inl
            finished := fun hstops => (h.finished hon hread hstops).1
            drained := fun hstops => (h.finished hon hread hstops).2 }
        simpa [Fifo.read] using hadvance
      raised := by
        have hraised : Raised list (StopCleared (s.log ++ [.read .intrStat status])) (words s.log)
            s.hw := by
          apply h.raised.weaken
          apply StopCleared.append
        simpa [Fifo.read] using hraised
      heard :=
        { begun := List.mem_append_left _ h.begun
          last := lastStatus_read status
          answered := by
            left
            apply h.answered.concat
            simp
          woken := fun hmem => by
            rw [List.mem_append, List.mem_singleton] at hmem
            rw [Completed.concat_iff]
            exact (h.woken (hmem.resolve_right (by simp))).imp_right .inl } }
  refused := h.refused
  calm hstops := (hon.undisturbed (canRead_intrStat hread) hstops.2).1

end Vigilant

theorem Moved.next {op : Op} {r : op.Ans} (h : Moved e₀ list s) (hop : HandlerOp op)
    (hguard : Guard p list byte₀ op s) : Moved e₀ list (State.next op s r) := by
  cases op with
  | readRegister reg =>
    have hreg : reg ≠ .dataCmd := by
      intro heq
      have := hguard.2 heq
      have := h.received
      omega
    have htx : ((fifo txDepth rxDepth).read reg r s.hw).tx = s.hw.tx := by
      cases reg <;> rfl
    have hexecuted : ((fifo txDepth rxDepth).read reg r s.hw).executed = s.hw.executed := by
      cases reg <;> rfl
    refine ⟨h.whole, ?_, ?_, htx.trans h.tx, ?_⟩
    . simpa [State.next] using h.written
    . simp only [State.next, words_append, words_read, words_nil, List.append_nil]
      apply hexecuted.trans h.executed
    . simpa [State.next, hreg] using h.received
  | writeRegister v reg =>
    rcases hop with rfl | rfl
    . rcases hguard.2 rfl with ⟨place, hplace, _⟩
      rcases List.getElem?_eq_some_iff.mp hplace with ⟨hlt, _⟩
      have := h.written
      omega
    . refine ⟨h.whole, ?_, ?_, h.tx, ?_⟩
      . simpa [State.next] using h.written
      . have := h.executed
        simpa [State.next, fifo, Fifo.write] using this
      . simpa [State.next] using h.received
  | store a b | commandWakeup =>
    refine ⟨h.whole, ?_, ?_, h.tx, ?_⟩
    . simpa [State.next] using h.written
    . simpa [State.next] using h.executed
    . simpa [State.next] using h.received
  | update f | device | message _ _ | load _ | disableInterrupt | enableInterrupt => exact { h with }
  | reach point =>
    cases point with
    | readFromBus | transferMessageToBus => exact { h with }
    | _ => contradiction
  | _ => contradiction

theorem Moved.stable : (system (fifo txDepth rxDepth)).Stable (Moved e₀ list) := by
  rintro s _ h ⟨hw, hstep, rfl⟩
  cases hstep with
  | execute hc =>
    rw [h.tx] at hc
    contradiction
  | abort _ => exact { h with tx := rfl }
  | stop _ => exact { h with }

def Truthful (e₀ : List Word) (list : List BusMessage) (s : State (fifo txDepth rxDepth)) : Prop :=
  Completed s.log → Moved e₀ list s

theorem Truthful.stable : (system (fifo txDepth rxDepth)).Stable (Truthful e₀ list) := by
  rintro s _ h ⟨hw, hstep, rfl⟩ hcompleted
  apply Moved.stable s _ (h hcompleted) ⟨hw, hstep, rfl⟩

theorem log_next_handlerOp {H : Hardware} {s : State H} {op : Op} {r : op.Ans} (hop : HandlerOp op) :
    (State.next op s r).log = s.log
      ∨ ∃ e, (State.next op s r).log = s.log ++ [e] ∧ (e = .wakeup → op = .commandWakeup)
        ∧ ∀ reg v, e = .read reg v → op = .readRegister reg := by
  cases op with
  | readRegister reg =>
    refine .inr ⟨_, rfl, by simp, ?_⟩
    intro reg' v heq
    rw [Event.read.injEq] at heq
    rw [heq.1]
  | writeRegister _ _ | store _ _ | commandWakeup => exact .inr ⟨_, rfl, by simp, by simp⟩
  | reach point => cases point <;> exact .inl rfl
  | enterSleep | leaveSleep | beginTransfer _ _ => contradiction
  | _ => exact .inl rfl

theorem Truthful.next {op : Op} {r : op.Ans} (h : Truthful e₀ list s)
    (hguard : Guard p list byte₀ op s) (hcompletion : CompletionGuard e₀ list byte₀ op s) :
    Truthful e₀ list (State.next op s r) := by
  rcases hcompletion with ⟨_, _, hop, hwake⟩
  intro hcompleted
  have hmoved : Moved e₀ list s := by
    rcases log_next_handlerOp (s := s) (r := r) hop with hlog | ⟨e, hlog, he, _⟩
    . rw [hlog] at hcompleted
      apply h hcompleted
    . rw [hlog, Completed.concat_iff] at hcompleted
      rcases hcompleted with hcompleted | ⟨heq, status, hlast, hstops⟩
      . apply h hcompleted
      . rcases hwake (he heq) with ⟨_, status', hlast', hmoved, _⟩
        rw [hlast, Option.some.injEq] at hlast'
        apply hmoved
        rw [← hlast']
        apply hstops
  apply hmoved.next hop hguard

theorem Vigilant.preserved {X : State (fifo txDepth rxDepth) → Prop}
    (hstable : (system (fifo txDepth rxDepth)).Stable X)
    (hnext : ∀ op s r, HandlerOp op → X s → State.admits op s r → X (State.next op s r)) :
    Preserved p list byte₀ (CompletionGuard e₀ list byte₀) (Vigilant e₀ list)
      (fun s => Truthful e₀ list s ∧ X s) where
  quiet := quiet
  guard op s hop _ h := h.guard hop
  service s status hon h hread := by
    apply On.wp_service (Serving e₀ list status) (Serving e₀ list status) (Received e₀ list status)
      (Serviced e₀ list status) (Vigilant e₀ list)
    . apply hon.append
      . apply Silent.read
        simp
      . apply value_intrMask_read
    . apply canRead_intrStat hread
    . apply h.serving hon hread
    . intro s hon _ h
      apply h.wp_clear hon
    . intro hbit s hon _ h
      apply h.wp_abort hon hbit
    . intro _ s hon hstatus h
      apply h.wp_receive hon hstatus
    . intro hbit s hon hstatus h
      apply h.wp_send hon hstatus hbit
    . intro s hon h
      apply h.wp_wakeup hon
  log_stable := Truthful.stable.and hstable
  log_next op s r hguard hcompletion h hr :=
    ⟨h.1.next hguard hcompletion, hnext op s r hcompletion.2.2.1 h.2 hr⟩

end VoodooI2C
