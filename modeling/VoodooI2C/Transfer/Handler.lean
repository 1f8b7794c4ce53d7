import VoodooI2C.Transfer.Receive
import VoodooI2C.Transfer.Send
import VoodooI2C.Driver.Lemmas.Quiet

/-!
This module contains the verification of `handleInterrupt` for the time in which the interrupts of a
transfer are enabled.
-/

namespace VoodooI2C

open Interaction Segments RegisterFile

variable {H : Hardware} [RegisterFile H] {p : Pointer} {list : List BusMessage}
  {byte₀ byte : Address → Byte} {s s' : State H} {d d' : BusDevice} {n : Nat} {log : List Event}
  {mask : Word}

theorem ReadUpdate.writeSide (hupdate : ReadUpdate d d') (h : WriteSide list d n) :
    WriteSide list d' n := by
  rcases hupdate with ⟨o, st, l, b, i, rfl, hst⟩
  unfold WriteSide BusDevice.WriteInProgress at *
  simpa only [hst] using h

theorem ReadUpdate.maskFits (hupdate : ReadUpdate d d') (h : MaskFits d mask) :
    MaskFits d' mask := by
  rcases hupdate with ⟨o, st, l, b, i, rfl, hst⟩
  unfold MaskFits BusDevice.WriteInProgress at *
  simpa only [hst] using h

theorem WriteUpdate.readSide (hupdate : WriteUpdate d d') (h : ReadSide list d n) :
    ReadSide list d' n := by
  rcases hupdate with ⟨o, st, l, b, i, e, rfl, hst⟩
  unfold ReadSide BusDevice.ReadInProgress at *
  simpa only [hst] using h

theorem value_intrMask_read {reg : Register} {v : Word} {hw : H.State} :
    value (H.read reg v hw) .intrMask = value hw .intrMask := by
  apply value_read
  rfl

theorem value_intrMask_step {hw hw' : H.State} (h : H.step hw hw') :
    value hw' .intrMask = value hw .intrMask := by
  apply value_step h
  rfl

theorem wp_readFromBus_frame {G : Op → State H → Prop} (hG : ∀ op s, ReadFromBusOp op → G op s)
    (hside : WriteSide list s.device (words s.log).length)
    (hfits : MaskFits s.device mask) (herror : s.device.commandError = 0)
    (hmask : value s.hw .intrMask = mask) :
    wp (system H) G readFromBus
      (fun _ s' =>
        WriteSide list s'.device (words s'.log).length
          ∧ MaskFits s'.device mask
          ∧ s'.device.commandError = 0
          ∧ value s'.hw .intrMask = mask) s := by
  apply wp_performs performs_readFromBus
  . rintro s _ h ⟨hw, hstep, rfl⟩
    simpa only [value_intrMask_step hstep] using h
  . intro op s hop _
    apply hG op s hop
  . intro op s r hop h hr
    cases op with
    | readRegister reg => simpa [State.next, value_intrMask_read] using h
    | update f =>
      have hupdate := hop s.device
      refine ⟨hupdate.writeSide h.1, hupdate.maskFits h.2.1, ?_⟩
      rcases hupdate with ⟨o, st, l, b, i, heq, _⟩
      simp only [State.next, heq]
      apply h.2.2
    | store a b => simpa [State.next] using h
    | device | message _ _ => apply h
    | reach point =>
      cases point with
      | readFromBus => apply h
      | _ => contradiction
    | _ => contradiction
  . exact ⟨hside, hfits, herror, hmask⟩

omit [RegisterFile H] in
theorem wp_transferMessageToBus_frame {G : Op → State H → Prop}
    (hG : ∀ op s, TransferMessageToBusOp op → G op s)
    (hside : ReadSide list s.device (pops s.log).length) (herror : s.device.commandError = 0) :
    wp (system H) G transferMessageToBus
      (fun _ s' =>
        ReadSide list s'.device (pops s'.log).length ∧ s'.device.commandError = 0) s := by
  apply wp_performs performs_transferMessageToBus
  . rintro s _ h ⟨hw, hstep, rfl⟩
    apply h
  . intro op s hop _
    apply hG op s hop
  . intro op s r hop h hr
    cases op with
    | readRegister reg =>
      have : reg ≠ .dataCmd := by
        rcases hop with rfl | rfl <;> simp
      simpa [State.next, this] using h
    | writeRegister v reg => simpa [State.next] using h
    | update f =>
      have hupdate := hop s.device
      refine ⟨hupdate.readSide h.1, ?_⟩
      rcases hupdate with ⟨o, st, l, b, i, e, heq, _⟩
      simp only [State.next, heq]
      apply h.2
    | device | message _ _ | load _ => apply h
    | reach point =>
      cases point with
      | transferMessageToBus => apply h
      | _ => contradiction
    | _ => contradiction
  . exact ⟨hside, herror⟩

def Working (list : List BusMessage) (d : BusDevice) (log : List Event) (mask : Word) : Prop :=
  d.commandError = 0
    ∧ WriteSide list d (words log).length
    ∧ ReadSide list d (pops log).length
    ∧ MaskFits d mask

def Aborted (d : BusDevice) (mask : Word) : Prop :=
  d.commandError = errTxAbrt ∧ mask = 0

def On (p : Pointer) (list : List BusMessage) (byte₀ : Address → Byte) (s : State H) : Prop :=
  Session p list s
    ∧ Settled list byte₀ s
    ∧ (Working list s.device s.log (value s.hw .intrMask)
        ∨ Aborted s.device (value s.hw .intrMask))

theorem On.append {hw : H.State} {t : List Event} (h : On p list byte₀ s) (ht : Silent t)
    (hmask : value hw .intrMask = value s.hw .intrMask) :
    On p list byte₀ { s with hw := hw, log := s.log ++ t } := by
  rcases h with ⟨hsession, hsettled, h⟩
  refine ⟨hsession, hsettled.append ht, ?_⟩
  unfold Working at *
  simpa [ht.words, ht.pops, hmask] using h

theorem On.inert (p : Pointer) (list : List BusMessage) (byte₀ : Address → Byte) :
    Inert (On (H := H) p list byte₀) where
  step s hw h hstep := by
    unfold On at *
    rw [value_intrMask_step hstep]
    apply h
  read s reg v h hreg _ := by
    apply h.append (.read hreg) value_intrMask_read

theorem On.abortSource (a : Word) (h : On p list byte₀ s) :
    On p list byte₀ { s with device := { s.device with abortSource := a } } := by
  apply h

theorem inert_mask (mask : Word) : Inert fun s : State H => value s.hw .intrMask = mask where
  step s hw h hstep := by
    rw [← h]
    apply value_intrMask_step hstep
  read s reg v h _ _ := by
    rw [← h]
    apply value_intrMask_read

theorem On.guard_quiet {op : Op} (hop : QuietOp op) (h : On p list byte₀ s) :
    Guard p list byte₀ op s := by
  cases op with
  | readRegister reg => exact ⟨h.2.1, fun heq => absurd heq hop.1⟩
  | reach _ | message _ _ | writeRegister _ _ => contradiction
  | _ => trivial

theorem eq_zero_of_aborted {status : Word} (h : Aborted d mask) (hstatus : status &&& mask = status) :
    status = 0 := by
  rw [← hstatus, h.2]
  simp

theorem MaskFits.of_txEmpty {status : Word} (h : MaskFits d mask) (hnumber : d.messageNumber = n)
    (hle : d.messageWriteIndex ≤ n) (hstatus : status &&& mask = status)
    (hempty : status &&& intrTxEmpty ≠ 0) :
    (n ≠ 0 → d.messageWriteIndex < n) ∧ (d.messageWriteIndex = 0 ∨ d.WriteInProgress) := by
  have hmask : mask &&& intrTxEmpty ≠ 0 := by
    intro hzero
    apply hempty
    apply and_eq_zero_of_masked hstatus hzero
  unfold MaskFits at h
  split at h
  . rw [h] at hmask
    simp at hmask
  . split at h
    . rcases h with heq | ⟨_, hzero⟩
      . rw [heq, and_not_and_cancel] at hmask
        contradiction
      . constructor
        . omega
        . omega
    . refine ⟨?_, h.2⟩
      omega

namespace serviceInterrupt

theorem wp_receive {status : Word} (h : On p list byte₀ s)
    (hstatus : status &&& value s.hw .intrMask = status) :
    wp (system H) (Guard p list byte₀) (receive status)
      (fun _ s' =>
        On p list byte₀ s' ∧ value s'.hw .intrMask = value s.hw .intrMask) s := by
  unfold receive
  split
  . next hfull =>
    rcases h with ⟨hsession, hsettled, ⟨herror, hwrite, hread, hmask⟩ | haborted⟩
    . apply wp_mono
      . apply wp_and
        . apply wp_readFromBus hread hsettled hsession
        . apply wp_readFromBus_frame (G := fun _ _ => True) (by simp) hwrite hmask herror rfl
      . intro op s' h
        apply h.1
      . rintro _ s' ⟨⟨hread', hsettled', hsession'⟩, hwrite', hmask', herror', heq⟩
        refine ⟨⟨hsession', hsettled', ?_⟩, heq⟩
        left
        rw [heq]
        exact ⟨herror', hwrite', hread', hmask'⟩
    . rw [eq_zero_of_aborted haborted hstatus] at hfull
      simp at hfull
  . apply wp_done
    intro hw hsteps
    refine ⟨(On.inert p list byte₀).steps h hsteps, ?_⟩
    apply (inert_mask _).steps rfl hsteps

theorem wp_send {status : Word} (h : On p list byte₀ s)
    (hstatus : status &&& value s.hw .intrMask = status) :
    wp (system H) (Guard p list byte₀) (send status) (fun _ s' => On p list byte₀ s') s := by
  unfold send
  split
  . next hempty =>
    rcases h with ⟨hsession, hsettled, ⟨herror, hwrite, hread, hmask⟩ | haborted⟩
    . have hnumber := hsession.2.2.2.1
      rcases hmask.of_txEmpty hnumber hwrite.1 hstatus hempty with ⟨hindex, hbegun⟩
      apply wp_mono
      . apply wp_and
        . apply wp_transferMessageToBus _ hbegun hwrite hsettled hsession
          intro hne
          apply hindex
          simpa using hne
        . apply wp_transferMessageToBus_frame (G := fun _ _ => True) (by simp) hread herror
      . intro op s' h
        apply h.1
      . rintro _ s' ⟨⟨hwrite', hsettled', hsession', hmask'⟩, hread', herror'⟩
        refine ⟨hsession', hsettled', ?_⟩
        left
        exact ⟨herror', hwrite', hread', hmask'⟩
    . rw [eq_zero_of_aborted haborted hstatus] at hempty
      simp at hempty
  . apply wp_done
    intro hw hsteps
    apply (On.inert p list byte₀).steps h hsteps

theorem wp_abort (h : On p list byte₀ s) :
    wp (system H) (Guard p list byte₀) abort (fun _ s' => On p list byte₀ s') s := by
  rcases h with ⟨hsession, ⟨hstored, hcomplete, _⟩, h⟩
  have herror : s.device.commandError ||| errTxAbrt = errTxAbrt := by
    rcases h with ⟨herror, _⟩ | ⟨herror, _⟩
    . rw [herror]
      decide
    . rw [herror]
      decide
  unfold abort
  apply wp_update
  apply wp_update
  apply wp_update
  apply wp_tail
  apply wp_writeRegister
  intro hw _
  simp only [herror]
  have hsettled : ∀ hw', Settled list byte₀
      ({ s with
        device := { s.device with
          commandError := errTxAbrt
          status := statusIdle
          receiveOutstanding := 0 }
        hw := hw' } : State H) := by
    intro hw'
    refine ⟨hstored, hcomplete, ?_⟩
    intro h
    simp only at h
    contradiction
  refine ⟨⟨hsettled hw, by intro h; contradiction⟩, ?_⟩
  apply wp_done
  intro hw' hsteps
  refine ⟨hsession, ?_, ?_⟩
  . apply (hsettled hw).write
    simp
  . right
    refine ⟨rfl, ?_⟩
    simp only [value_steps hsteps (by rfl : Register.intrMask.Holds),
      value_write_self (by rfl : Register.intrMask.Holds)]

theorem wp_wakeup {status : Word} (h : On p list byte₀ s) :
    wp (system H) (Guard p list byte₀) (wakeup status) (fun _ s' => On p list byte₀ s') s := by
  have hstable := (On.inert (H := H) p list byte₀).stable
  unfold wakeup
  apply wp_device
  split
  . apply wp_tail
    apply wp_commandWakeup
    apply wp_pure (W := system H) (Q := fun _ => On p list byte₀) hstable
    apply h.append .wakeup
    rfl
  . split
    . apply wp_readRegister
      intro hw hsteps
      have h' := (On.inert p list byte₀).steps h hsteps
      refine ⟨h'.guard_quiet (by simp [QuietOp]), ?_⟩
      intro v hv
      have hread := (On.inert p list byte₀).read { s with hw := hw } .intrMask v h' (by simp) hv
      have hvalue : v = value hw .intrMask := canRead_holds hv (by rfl)
      apply wp_writeRegister
      intro hw₁ _
      refine ⟨⟨hread.2.1, by intro h; contradiction⟩, ?_⟩
      apply wp_tail
      apply wp_writeRegister
      intro hw₂ _
      refine ⟨⟨hread.2.1.append (.write (by simp)), by intro h; contradiction⟩, ?_⟩
      apply wp_pure (W := system H) (Q := fun _ => On p list byte₀) hstable
      simp only [List.append_assoc]
      apply h.append
      . apply Silent.append (.read (by simp))
        apply Silent.append (.write (by simp)) (.write (by simp))
      . rw [value_write_self (by rfl), hvalue]
        apply (inert_mask _).steps rfl hsteps
    . apply wp_pure (W := system H) (Q := fun _ => On p list byte₀) hstable h

end serviceInterrupt

theorem wp_serviceInterrupt (h : On p list byte₀ s) :
    wp (system H) (Guard p list byte₀) serviceInterrupt (fun _ s' => On p list byte₀ s') s := by
  have hinert := (On.inert p list byte₀).and (inert_mask (H := H) (value s.hw .intrMask))
  unfold serviceInterrupt
  apply wp_readClearInterruptBits hinert
  . intro s a h
    exact ⟨h.1.abortSource a, h.2⟩
  . intro op s' hop h'
    apply h'.1.guard_quiet hop
  . exact ⟨h, rfl⟩
  . rintro s' status ⟨_, hmask⟩ hread s'' ⟨h'', hmask''⟩
    have hstatus := canRead_intrStat hread
    rw [hmask, ← hmask''] at hstatus
    split
    . next habort =>
      rw [wp_bind]
      apply wp_post
      . apply serviceInterrupt.wp_abort h''
      . intro _ s h
        apply serviceInterrupt.wp_wakeup h
    . rw [wp_bind]
      apply wp_post
      . apply serviceInterrupt.wp_receive h'' hstatus
      . rintro _ s₁ ⟨h₁, hmask₁⟩
        rw [← hmask₁] at hstatus
        rw [wp_bind]
        apply wp_post
        . apply serviceInterrupt.wp_send h₁ hstatus
        . intro _ s₂ h₂
          apply serviceInterrupt.wp_wakeup h₂

theorem wp_handleInterrupt_on (h : On p list byte₀ s) :
    wp (system H) (Guard p list byte₀) handleInterrupt (fun _ s' => On p list byte₀ s') s := by
  apply wp_handleInterrupt (On.inert p list byte₀).quiet
  . intro op s' hop h'
    apply h'.guard_quiet hop
  . apply (On.inert p list byte₀).stable
  . intro s' h'
    apply h'
  . intro s' _
    trivial
  . apply h
  . intro s' _ _ _ _ _ s'' h''
    apply wp_serviceInterrupt h''

end VoodooI2C
