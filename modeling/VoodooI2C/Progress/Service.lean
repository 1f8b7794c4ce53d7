import VoodooI2C.Progress.Parts

/-!
This module contains that a run of the handler makes progress while the controller has nothing to
execute and the caller was not woken up.
-/

namespace VoodooI2C

open Interaction RegisterFile

variable {txDepth rxDepth : Word} {s : State (fifo txDepth rxDepth)} {p : Pointer}
  {list : List BusMessage} {byte₀ : Address → Byte} {e₀ : List Word} {status : Word} {rx : List Byte}
  {k n : Nat}

/--
Nothing has failed, the transmit FIFO is empty and the bytes of all commands are in the receive FIFO or
were popped.
-/
structure Still (rx : List Byte) (k n : Nat) (s : State (fifo txDepth rxDepth)) : Prop where
  depths : Depths txDepth rxDepth s.device
  commandError : s.device.commandError = 0
  messageError : s.device.messageError = 0
  outstanding : s.device.receiveOutstanding = rx.length
  tx : s.hw.tx = []
  rx : s.hw.rx = rx
  written : (words s.log).length = k
  popped : (pops s.log).length = n

namespace Still

theorem inert : Inert (@Still txDepth rxDepth rx k n) where
  step s hw h hstep := by
    rcases steps_of_tx_eq_nil (.single hstep) h.tx with ⟨htx, hrx⟩
    exact { h with tx := htx, rx := hrx.trans h.rx }
  read s reg v h hreg _ := by
    have hread : (s.hw.read reg).tx = s.hw.tx ∧ (s.hw.read reg).rx = s.hw.rx := by
      cases reg with
      | dataCmd => contradiction
      | _ => exact ⟨rfl, rfl⟩
    exact
      { h with
        tx := hread.1.trans h.tx
        rx := hread.2.trans h.rx
        written := by simpa using h.written
        popped := by simpa [hreg] using h.popped }

theorem wp_clear (h : Still rx k n s) :
    wp (system (fifo txDepth rxDepth)) (fun _ _ => True) (readClearInterruptBits.clear status)
      (fun _ => Still rx k n) s := by
  apply wp_performs (performs_clear status) inert.stable
  . intro _ _ _ _
    trivial
  . rintro op s r (hop | ⟨a, rfl⟩) h hr
    . apply inert.next_quiet hop h hr
    . exact { h with depths := { h.depths with } }
  . apply h

theorem wp_receive (h : Still rx k n s) (hon : On p list byte₀ s) (hstatus : Unmasked status s)
    (hrx : rx ≠ []) (hsmall : rx.length < 0x80000000)
    (hleft : n < (readAddresses list).length) (hfull : status &&& intrRxFull ≠ 0) :
    wp (system (fifo txDepth rxDepth)) (fun _ _ => True) (serviceInterrupt.receive status)
      (fun _ s' => Progressed k n s'.log) s := by
  have hworking : ReadSide list s.device (pops s.log).length := by
    rcases hon.2.2 with ⟨_, _, hread, _⟩ | ⟨herror, _⟩
    . apply hread
    . rw [h.commandError] at herror
      contradiction
  have hpop : wp (system (fifo txDepth rxDepth)) (fun _ _ => True) (serviceInterrupt.receive status)
      (fun _ s' =>
        Progressed k n s'.log ∨ s'.device.messageNumber ≤ s'.device.messageReadIndex) s := by
    unfold serviceInterrupt.receive
    rw [if_pos hfull, ← h.popped]
    apply wp_readFromBus_pop hon.1 hworking h.tx
    . rw [h.rx]
      apply hrx
    . rw [h.rx]
      apply hsmall
  apply wp_mono (wp_and (wp_and (serviceInterrupt.wp_receive hon hstatus) wp_receive_frame) hpop)
  . intro _ _ _
    trivial
  . rintro _ s' ⟨⟨⟨hon', _⟩, hcommand, _⟩, hprogressed | hindex⟩
    . apply hprogressed
    . right
      left
      rcases hon'.2.2 with ⟨_, _, hread, _⟩ | ⟨herror, _⟩
      . rw [hread.finished]
        . apply hleft
        . rw [← hon'.1.2.2.2.1]
          apply hindex
      . rw [hcommand, h.commandError] at herror
        contradiction

theorem wp_send (h : Still [] k n s) (hon : On p list byte₀ s) (hstatus : Unmasked status s)
    (hsome : list ≠ []) (htxDepth : 0 < txDepth.toInt)
    (hrxDepth : 0 < rxDepth.toInt) (hempty : status &&& intrTxEmpty ≠ 0) :
    wp (system (fifo txDepth rxDepth)) (fun _ _ => True) (serviceInterrupt.send status)
      (fun _ => Responded list k n) s := by
  unfold serviceInterrupt.send
  rw [if_pos hempty]
  rcases hon with ⟨hsession, _, ⟨_, hwrite, _, hmask⟩ | haborted⟩
  . have hnumber := hsession.2.2.2.1
    have hindex := (hmask.of_txEmpty hnumber hwrite.1 hstatus hempty).1
    rw [← h.written]
    apply wp_transferMessageToBus_push hsession
    . apply hindex
      simpa using hsome
    . apply hwrite
    . apply h.depths
    . apply htxDepth
    . apply hrxDepth
    . apply h.tx
    . apply h.rx
    . apply h.outstanding
  . rw [eq_zero_of_aborted haborted hstatus] at hempty
    simp at hempty

theorem wp_service_full (h : Still rx k n s) (hon : On p list byte₀ s) (hstatus : Unmasked status s)
    (hrx : rx ≠ []) (hsmall : rx.length < 0x80000000)
    (hleft : n < (readAddresses list).length) (habrt : status &&& intrTxAbrt = 0)
    (hfull : status &&& intrRxFull ≠ 0) :
    wp (system (fifo txDepth rxDepth)) (fun _ _ => True) (service status)
      (fun _ s' => Progressed k n s'.log) s := by
  have hwp := hon.wp_service (G := fun _ _ => True) (Still rx k n) (Still rx k n)
    (fun s => Progressed k n s.log) (fun s => Progressed k n s.log) (fun s => Progressed k n s.log)
    hstatus h
  apply wp_mono (hwp _ _ _ _ _)
  . intro _ _ _
    trivial
  . intro _ _ h
    apply h.2
  . intro s _ _ h
    apply h.wp_clear
  . intro hbit
    contradiction
  . intro _ s hon hstatus h
    apply h.wp_receive hon hstatus hrx hsmall hleft hfull
  . intro _ s _ _ h
    apply h.wp_of_performs
    apply Prog.performs_mono plainOp_send
    intro op hop
    apply hop.handlerOp
  . intro s _ h
    apply h.wp_of_performs
    apply Prog.performs_mono (performs_wakeup status)
    intro op hop
    apply hop.handlerOp

theorem wp_service_empty (h : Still [] k n s) (hon : On p list byte₀ s) (hstatus : Unmasked status s)
    (hsome : list ≠ []) (htxDepth : 0 < txDepth.toInt)
    (hrxDepth : 0 < rxDepth.toInt) (habrt : status &&& intrTxAbrt = 0)
    (hfull : status &&& intrRxFull = 0) (hempty : status &&& intrTxEmpty ≠ 0) :
    wp (system (fifo txDepth rxDepth)) (fun _ _ => True) (service status)
      (fun _ => Responded list k n) s := by
  have hwp := hon.wp_service (G := fun _ _ => True) (Still [] k n) (Still [] k n) (Still [] k n)
    (Responded list k n) (Responded list k n) hstatus h
  apply wp_mono (hwp _ _ _ _ _)
  . intro _ _ _
    trivial
  . intro _ _ h
    apply h.2
  . intro s _ _ h
    apply h.wp_clear
  . intro hbit
    contradiction
  . intro _ s _ _ h
    unfold serviceInterrupt.receive
    rw [if_neg (not_not_intro hfull)]
    apply wp_done
    intro hw hsteps
    apply inert.steps h hsteps
  . intro _ s hon hstatus h
    apply h.wp_send hon hstatus hsome htxDepth hrxDepth hempty
  . intro s _ h
    apply h.wp_of_performs
    apply Prog.performs_mono (performs_wakeup status)
    intro op hop
    apply hop.leavesDevice

end Still

theorem Serving.wp_service (h : Serving e₀ list status s) (hon : On p list byte₀ s)
    (hstatus : Unmasked status s) (hdue : status &&& (intrTxAbrt ||| intrStopDet) ≠ 0) :
    wp (system (fifo txDepth rxDepth)) (fun _ _ => True) (service status)
      (fun _ s' => Progressed k n s'.log) s := by
  have hwp := hon.wp_service (G := fun _ _ => True) (Serving e₀ list status) (Serving e₀ list status)
    (Received e₀ list status) (Serviced e₀ list status) (fun s => Progressed k n s.log) hstatus h
  apply wp_mono (hwp _ _ _ _ _)
  . intro _ _ _
    trivial
  . intro _ _ h
    apply h.2
  . intro s hon _ h
    apply wp_true (h.wp_clear hon)
  . intro hbit s hon _ h
    apply wp_true (h.wp_abort hon hbit)
  . intro _ s hon hstatus h
    apply wp_true (h.wp_receive hon hstatus)
  . intro hbit s hon hstatus h
    apply wp_true (h.wp_send hon hstatus hbit)
  . intro s _ h
    unfold serviceInterrupt.wakeup
    apply wp_device
    rw [if_pos ⟨.inl hdue, h.due hdue⟩]
    apply wp_tail
    apply wp_commandWakeup
    apply wp_done
    intro _ _
    right
    right
    simp

/--
What holds before a run of the handler and until it reads `IC_INTR_STAT`: there are bytes to pop, the
transfer is at its end or there are messages left.
-/
structure Poised (p : Pointer) (list : List BusMessage) (byte₀ : Address → Byte) (e₀ : List Word)
    (rx : List Byte) (k n : Nat) (s : State (fifo txDepth rxDepth)) : Prop where
  on : On p list byte₀ s
  vigilant : Vigilant e₀ list s
  still : Still rx k n s
  awake : s.device.awake = true
  enabled : s.hw.regs .enable ≠ 0
  aborted : s.hw.aborted = true → s.hw.txAbrt = true
  due : rx ≠ [] ∨ s.hw.stopDet = true ∨ s.device.messageWriteIndex ≠ s.device.messageNumber

namespace Poised

theorem quiet : Quiet (@Poised txDepth rxDepth p list byte₀ e₀ rx k n) where
  stable := by
    rintro s _ h ⟨hw, hstep, rfl⟩
    have hregs := Fifo.Step.regs hstep
    refine
      { on := (On.inert p list byte₀).step s hw h.on hstep
        vigilant := h.vigilant.steps (.single hstep)
        still := Still.inert.step s hw h.still hstep
        awake := h.awake
        enabled := ?_
        aborted := ?_
        due := ?_ }
    . show hw.regs .enable ≠ 0
      rw [hregs]
      apply h.enabled
    . cases hstep with
      | execute hc =>
        rw [h.still.tx] at hc
        contradiction
      | abort _ =>
        intro _
        rfl
      | stop _ => apply h.aborted
    . cases hstep with
      | execute hc =>
        rw [h.still.tx] at hc
        contradiction
      | abort _ => apply h.due
      | stop _ => exact .inr (.inl rfl)
  next op s r hop h hr := by
    have hon := (On.inert p list byte₀).next_quiet hop.quietOp h.on hr
    have hvigilant := Vigilant.quiet.next op s r hop h.vigilant hr
    have hstill := Still.inert.next_quiet hop.quietOp h.still hr
    cases op with
    | readRegister reg =>
      rcases hop with rfl | rfl
      . exact ⟨hon, hvigilant, hstill, h.awake, h.enabled, h.aborted, h.due⟩
      . exact ⟨hon, hvigilant, hstill, h.awake, h.enabled, h.aborted, h.due⟩
    | device | disableInterrupt | enableInterrupt => apply h
    | _ => contradiction

theorem mask (h : Poised p list byte₀ e₀ rx k n s) :
    value s.hw .intrMask &&& intrTxAbrt = intrTxAbrt
      ∧ value s.hw .intrMask &&& intrRxFull = intrRxFull
      ∧ value s.hw .intrMask &&& intrStopDet = intrStopDet
      ∧ (s.device.messageWriteIndex ≠ s.device.messageNumber →
          value s.hw .intrMask &&& intrTxEmpty = intrTxEmpty) := by
  rcases h.on.2.2 with ⟨_, _, _, hmask⟩ | ⟨herror, _⟩
  . rcases hmask.bits h.still.messageError with ⟨habrt, hfull, hstop⟩
    refine ⟨habrt, hfull, hstop, ?_⟩
    intro hindex
    unfold MaskFits at hmask
    rw [if_neg (not_not_intro h.still.messageError), if_neg hindex] at hmask
    rw [hmask.1]
    decide
  . rw [h.still.commandError] at herror
    contradiction

theorem raised {raw : Word} (h : Poised p list byte₀ e₀ rx k n s) (hraises : s.hw.Raises raw) :
    ∃ bit, (bit = intrRxFull ∧ rx ≠ [] ∨ bit = intrStopDet ∨ bit = intrTxEmpty)
      ∧ raw &&& bit ≠ 0 ∧ value s.hw .intrMask &&& bit = bit := by
  rcases hraises with ⟨_, hrx, htx, _, hstop⟩
  rcases h.due with hdue | hdue | hdue
  . refine ⟨intrRxFull, .inl ⟨rfl, hdue⟩, ?_, h.mask.2.1⟩
    rw [hrx, h.still.rx]
    apply hdue
  . refine ⟨intrStopDet, .inr (.inl rfl), ?_, h.mask.2.2.1⟩
    rw [hstop]
    apply hdue
  . refine ⟨intrTxEmpty, .inr (.inr rfl), ?_, h.mask.2.2.2 hdue⟩
    rw [htx, h.still.tx]
    apply Nat.zero_le

theorem intrStat_ne_zero (h : Poised p list byte₀ e₀ rx k n s)
    (hread : (fifo txDepth rxDepth).canRead .intrStat s.hw status) : status ≠ 0 := by
  rcases hread with ⟨raw, hraises, rfl⟩
  rcases h.raised hraises with ⟨bit, _, hraw, hmask⟩
  intro hzero
  apply hraw
  rw [← and_and_of_and_eq hmask]
  show raw &&& s.hw.regs .intrMask &&& bit = 0
  rw [hzero]
  simp

theorem rawIntrStat (h : Poised p list byte₀ e₀ rx k n s)
    (hread : (fifo txDepth rxDepth).canRead .rawIntrStat s.hw status) :
    ¬ (status &&& ~~~intrActivity = 0 ∨ status = 0xFFFFFFFF) := by
  have hraises : s.hw.Raises status := hread
  rcases h.raised hraises with ⟨bit, hbit, hraw, _⟩
  rintro (hzero | rfl)
  . apply hraw
    have hdisjoint : intrActivity &&& bit = 0 := by
      rcases hbit with ⟨rfl, _⟩ | rfl | rfl <;> decide
    rw [← and_not_and_of_disjoint hdisjoint, hzero]
    simp
  . have := hraises.1
    contradiction

theorem left (h : Poised p list byte₀ e₀ rx k n s) (hrx : rx ≠ [])
    (haborted : s.hw.aborted = false) :
    rx.length < 0x80000000 ∧ n < (readAddresses list).length := by
  have htracked := h.vigilant.advance.tracked
  have hsmall := htracked.small haborted
  have hpos := List.length_pos_iff.mpr hrx
  rcases htracked.sequence haborted with ⟨done, _, hwords, hreceived⟩
  rw [h.still.tx, List.append_nil] at hwords
  rw [h.still.rx, h.still.popped, hwords] at hreceived
  have hle := htracked.marked.readCommands_le
  unfold Fifo.owed at hsmall
  rw [h.still.rx] at hsmall
  constructor
  . omega
  . omega

theorem wp_service (h : Poised p list byte₀ e₀ rx k n s) (hsome : list ≠ [])
    (htxDepth : 0 < txDepth.toInt) (hrxDepth : 0 < rxDepth.toInt)
    (hread : (fifo txDepth rxDepth).canRead .intrStat s.hw status) :
    wp (system (fifo txDepth rxDepth)) (fun _ _ => True) (service status)
      (fun _ => Responded list k n)
      { s with hw := s.hw.read .intrStat, log := s.log ++ [.read .intrStat status] } := by
  have hon := (On.inert p list byte₀).read s .intrStat status h.on (by simp) hread
  have hstill := Still.inert.read s .intrStat status h.still (by simp) hread
  have hstatus : Unmasked status s := canRead_intrStat hread
  by_cases hdue : status &&& (intrTxAbrt ||| intrStopDet) ≠ 0
  . apply wp_post ((h.vigilant.serving h.on hread).wp_service hon hstatus hdue)
    intro _ _ h
    exact .inl h
  . rw [not_not, and_or_eq_zero_iff] at hdue
    rcases hdue with ⟨habrt, hstop⟩
    rcases hread with ⟨raw, hraises, rfl⟩
    have hmask : ∀ {bit}, value s.hw .intrMask &&& bit = bit →
        raw &&& s.hw.regs .intrMask &&& bit = raw &&& bit :=
      fun hbit => and_and_of_and_eq hbit
    by_cases hrx : rx = []
    . subst hrx
      have hfull : raw &&& intrRxFull = 0 := by
        rw [← not_not (a := raw &&& intrRxFull = 0)]
        intro hfull
        exact hraises.2.1.mp hfull h.still.rx
      rcases h.raised hraises with ⟨bit, ⟨_, hrx⟩ | rfl | rfl, hraw, hbit⟩
      . contradiction
      . rw [hmask hbit] at hstop
        contradiction
      . apply hstill.wp_service_empty hon hstatus hsome htxDepth hrxDepth habrt
        . rw [hmask h.mask.2.1]
          apply hfull
        . rw [hmask hbit]
          apply hraw
    . have hnot : s.hw.aborted = false := by
        by_contra haborted
        rw [Bool.not_eq_false] at haborted
        rw [hmask h.mask.1] at habrt
        exact hraises.2.2.2.1.mpr (h.aborted haborted) habrt
      rcases h.left hrx hnot with ⟨hsmall, hleft⟩
      have hfull : raw &&& s.hw.regs .intrMask &&& intrRxFull ≠ 0 := by
        rw [hmask h.mask.2.1, hraises.2.1, h.still.rx]
        apply hrx
      apply wp_post (hstill.wp_service_full hon hstatus hrx hsmall hleft habrt hfull)
      intro _ _ h
      exact .inl h

theorem wp_handleInterrupt (h : Poised p list byte₀ e₀ rx k n s) (hsome : list ≠ [])
    (htxDepth : 0 < txDepth.toInt) (hrxDepth : 0 < rxDepth.toInt) :
    wp (system (fifo txDepth rxDepth)) (fun _ _ => True) handleInterrupt
      (fun _ => Responded list k n) s := by
  unfold handleInterrupt
  apply wp_disableInterrupt
  . intro _ _
    trivial
  . apply Responded.wp_bind
    . unfold handleInterrupt.body
      apply wp_device
      rw [if_pos h.awake]
      apply wp_readRegister
      intro hw hsteps
      have h' := quiet.steps h hsteps
      refine ⟨trivial, ?_⟩
      intro enabled henabled
      have hne : enabled ≠ 0 := by
        rw [canRead_holds henabled (by rfl)]
        apply h'.enabled
      have h'' := quiet.read (.inl rfl) h' henabled
      apply wp_readRegister
      intro hw' hsteps'
      have h₁ := quiet.steps h'' hsteps'
      refine ⟨trivial, ?_⟩
      intro raw hraw
      have hpending := h₁.rawIntrStat hraw
      have h₂ := quiet.read (.inr rfl) h₁ hraw
      rw [if_pos (not_or.mpr ⟨hne, hpending⟩), serviceInterrupt_eq]
      apply wp_readRegister
      intro hw'' hsteps''
      have h₃ := quiet.steps h₂ hsteps''
      refine ⟨trivial, ?_⟩
      intro status hread
      apply h₃.wp_service hsome htxDepth hrxDepth hread
    . intro _
      simp [LeavesDevice, HandlerOp]

end Poised

end VoodooI2C
