import VoodooI2C.Flow.Basic
import VoodooI2C.Transfer.Extend

/-!
This module contains the verification of the balance of the FIFOs for the handler of a controller with
the FIFO depths that `bus_device` says.
-/

namespace VoodooI2C

open Interaction RegisterFile

namespace Fifo

variable {rxDepth : Nat} {h h' : Fifo}

theorem Step.length_rx_le (hstep : Step rxDepth h h') : h.rx.length ≤ h'.rx.length := by
  cases hstep with
  | execute hc =>
    unfold Fifo.execute
    dsimp only
    split
    . rw [List.length_append]
      apply Nat.le_add_right
    . apply Nat.le_refl
  | abort _ => apply Nat.le_refl
  | stop _ => apply Nat.le_refl

theorem Step.length_tx_le (hstep : Step rxDepth h h') : h'.tx.length ≤ h.tx.length := by
  cases hstep with
  | execute hc =>
    unfold Fifo.execute
    dsimp only
    rw [List.length_tail]
    apply Nat.sub_le
  | abort _ => apply Nat.zero_le
  | stop _ => apply Nat.le_refl

theorem length_tx_write (txDepth : Nat) (v : Word) (h : Fifo) :
    (h.write txDepth v .dataCmd).tx.length ≤ h.tx.length + 1 := by
  unfold Fifo.write
  dsimp only
  split
  . apply Nat.le_of_eq
    rw [List.length_append, List.length_singleton]
  . apply Nat.le_succ

end Fifo

variable {txDepth rxDepth : Word} {s : State (fifo txDepth rxDepth)} {p : Pointer}
  {list : List BusMessage} {byte₀ : Address → Byte} {m : BusMessage}

theorem steps_length_rx_le {h h' : Fifo} (hsteps : (fifo txDepth rxDepth).Steps h h') :
    h.rx.length ≤ h'.rx.length := by
  induction hsteps with
  | refl => apply Nat.le_refl
  | tail _ hstep ih =>
    apply Nat.le_trans ih
    apply Fifo.Step.length_rx_le hstep

theorem steps_length_tx_le {h h' : Fifo} (hsteps : (fifo txDepth rxDepth).Steps h h') :
    h'.tx.length ≤ h.tx.length := by
  induction hsteps with
  | refl => apply Nat.le_refl
  | tail _ hstep ih =>
    apply Nat.le_trans _ ih
    apply Fifo.Step.length_tx_le hstep

theorem Flow.steps {o : Int} {h h' : Fifo} (hflow : Flow txDepth.toNat rxDepth.toNat o h)
    (hsteps : (fifo txDepth rxDepth).Steps h h') : Flow txDepth.toNat rxDepth.toNat o h' := by
  induction hsteps with
  | refl => apply hflow
  | tail _ hstep ih => apply ih.step hstep

def Balanced (s : State (fifo txDepth rxDepth)) : Prop :=
  s.device.commandError = 0 ∧ Flow txDepth.toNat rxDepth.toNat s.device.receiveOutstanding s.hw

def Flowing (s : State (fifo txDepth rxDepth)) : Prop :=
  Balanced s ∨ s.device.commandError ≠ 0 ∧ s.hw.aborted = true

def FlowGuard (op : Op) (s : State (fifo txDepth rxDepth)) : Prop :=
  match op with
  | .readRegister reg => Flowing s ∧ (reg = .dataCmd → s.hw.rx ≠ [])
  | .writeRegister v reg =>
    Flowing s
      ∧ (reg = .dataCmd →
          s.hw.tx.length < txDepth.toNat ∧ (isRead v → s.hw.owed < rxDepth.toNat))
  | _ => True

instance : Lenient (@FlowGuard txDepth rxDepth) where
  device _ := trivial
  update _ _ := trivial
  commandWakeup _ := trivial

/--
The depths that `getBusConfig` read are those of the controller.
-/
structure Depths (txDepth rxDepth : Word) (d : BusDevice) : Prop where
  transaction : d.transactionFifoDepth = txDepth
  receive : d.receiveFifoDepth = rxDepth

theorem Balanced.steps {hw : Fifo} (h : Balanced s) (hsteps : (fifo txDepth rxDepth).Steps s.hw hw) :
    Balanced ({ s with hw := hw } : State (fifo txDepth rxDepth)) :=
  ⟨h.1, h.2.steps hsteps⟩

theorem Balanced.read (reg : Register) (v : Word) (h : Balanced s) (hreg : reg ≠ .dataCmd) :
    Balanced ({ s with hw := s.hw.read reg, log := s.log ++ [.read reg v] } :
      State (fifo txDepth rxDepth)) :=
  ⟨h.1, h.2.read hreg⟩

theorem Balanced.write (v : Word) (reg : Register) (h : Balanced s) (hreg : reg ≠ .dataCmd)
    (henable : reg ≠ .enable) :
    Balanced ({ s with hw := s.hw.write txDepth.toNat v reg, log := s.log ++ [.write v reg] } :
      State (fifo txDepth rxDepth)) :=
  ⟨h.1, h.2.write hreg henable⟩

namespace readFromBus

theorem wp_collect_flow {length : Nat} {buffer : Address} {receiveValid : Int}
    (h : Balanced s) (hvalid : receiveValid ≤ s.hw.rx.length) :
    wp (system (fifo txDepth rxDepth)) FlowGuard (collect length buffer receiveValid)
      (fun _ s' => Balanced s') s := by
  induction length generalizing s buffer receiveValid with
  | zero =>
    unfold collect
    apply wp_done
    intro hw hsteps
    apply h.steps hsteps
  | succ length ih =>
    unfold collect
    split
    . next hpos =>
      apply wp_readRegister
      intro hw hsteps
      have h' := h.steps hsteps
      have hle := steps_length_rx_le hsteps
      have hrx : hw.rx ≠ [] := by
        rw [← List.length_pos_iff]
        omega
      refine ⟨⟨.inl h', fun _ => hrx⟩, ?_⟩
      intro v _
      apply wp_store fun _ _ => trivial
      apply wp_update
      apply ih
      . exact ⟨h'.1, h'.2.pop hrx⟩
      . show receiveValid - 1 ≤ (hw.rx.tail.length : Int)
        rw [List.length_tail]
        omega
    . apply wp_done
      intro hw hsteps
      apply h.steps hsteps

theorem wp_go_flow {iterations : Nat} (h : Balanced s) :
    wp (system (fifo txDepth rxDepth)) FlowGuard (go p iterations) (fun _ s' => Balanced s') s := by
  induction iterations generalizing s with
  | zero =>
    unfold go
    apply wp_done
    intro hw hsteps
    apply h.steps hsteps
  | succ iterations ih =>
    unfold go
    apply wp_device
    split
    . apply wp_message
      . intro _ _
        trivial
      . split
        . -- a message to be written is passed over
          apply wp_update
          apply ih
          apply h
        . apply wp_readRegister
          intro hw hsteps
          have h' := h.steps hsteps
          refine ⟨⟨.inl h', by intro h; contradiction⟩, ?_⟩
          intro receiveValid hread
          have hvalid : receiveValid = BitVec.ofNat 32 hw.rx.length := hread
          rw [wp_bind]
          apply wp_post
          . apply wp_collect_flow
            . exact h'.read _ _ (by simp)
            . rw [hvalid]
              apply toInt_ofNat_le
          . rintro ⟨length, buffer⟩ s' h''
            dsimp only
            split
            . apply wp_update
              apply wp_update
              apply wp_tail
              apply wp_update
              apply wp_done
              intro hw hsteps
              apply h''.steps hsteps
            . apply wp_update
              apply wp_update
              apply ih
              apply h''
    . apply wp_done
      intro hw hsteps
      apply h.steps hsteps

end readFromBus

theorem wp_readFromBus_flow (h : Balanced s) :
    wp (system (fifo txDepth rxDepth)) FlowGuard readFromBus (fun _ s' => Balanced s') s := by
  unfold readFromBus
  apply wp_reach
  . intro _ _
    trivial
  . apply wp_device
    apply readFromBus.wp_go_flow
    apply h

namespace transferMessageToBus

theorem wp_issue_flow {bufferLength : Nat} {buffer : Address} {needRestart : Bool}
    {transactionLimit receiveLimit : Int} (hdepths : Depths txDepth rxDepth s.device)
    (h : Balanced s)
    (htransaction : transactionLimit ≤ txDepth.toNat - s.hw.tx.length)
    (hreceive : receiveLimit ≤ rxDepth.toNat) :
    wp (system (fifo txDepth rxDepth)) FlowGuard
      (issue p bufferLength buffer needRestart transactionLimit receiveLimit)
      (fun _ s' => Balanced s' ∧ Depths txDepth rxDepth s'.device) s := by
  induction bufferLength generalizing s buffer needRestart transactionLimit receiveLimit with
  | zero =>
    unfold issue
    apply wp_done
    intro hw hsteps
    exact ⟨h.steps hsteps, hdepths⟩
  | succ bufferLength ih =>
    have hnext : ∀ hw v, (fifo txDepth rxDepth).Steps s.hw hw →
        transactionLimit - 1 ≤ txDepth.toNat - (hw.write txDepth.toNat v .dataCmd).tx.length := by
      intro hw v hsteps
      have := steps_length_tx_le hsteps
      have := Fifo.length_tx_write txDepth.toNat v hw
      omega
    unfold issue
    split
    . next hlimits =>
      apply wp_device
      apply wp_message
      . intro _ _
        trivial
      . split
        . split
          . apply wp_done
            intro hw hsteps
            exact ⟨h.steps hsteps, hdepths⟩
          . next hfree =>
            apply wp_writeRegister
            intro hw hsteps
            have h' := h.steps hsteps
            have hle := steps_length_tx_le hsteps
            have hlevel : hw.tx.length < txDepth.toNat := by omega
            have howed := h'.2.owed_le
            dsimp only at howed
            constructor
            . refine ⟨.inl h', fun _ => ⟨hlevel, fun _ => ?_⟩⟩
              dsimp only
              omega
            . apply wp_update
              apply ih
              . exact { hdepths with }
              . refine ⟨h'.1, h'.2.push hlevel ?_ ?_⟩
                . rw [if_pos isRead_command_or_read]
                . show s.device.receiveOutstanding + 1 ≤ (rxDepth.toNat : Int)
                  omega
              . apply hnext hw _ hsteps
              . omega
        . apply wp_load fun _ _ => trivial
          apply wp_writeRegister
          intro hw hsteps
          have h' := h.steps hsteps
          have hle := steps_length_tx_le hsteps
          have hlevel : hw.tx.length < txDepth.toNat := by omega
          constructor
          . refine ⟨.inl h', fun _ => ⟨hlevel, ?_⟩⟩
            rw [isRead_command_or_byte]
            intro h
            contradiction
          . apply ih
            . apply hdepths
            . refine ⟨h'.1, h'.2.push hlevel ?_ h'.2.le_depth⟩
              rw [isRead_command_or_byte]
              simp
            . apply hnext hw _ hsteps
            . apply hreceive
    . apply wp_done
      intro hw hsteps
      exact ⟨h.steps hsteps, hdepths⟩

theorem wp_go_flow {iterations : Nat} {address : BitVec 16} {buffer : Address}
    {bufferLength : Nat} {needRestart : Bool} (hdepths : Depths txDepth rxDepth s.device)
    (h : Balanced s) :
    wp (system (fifo txDepth rxDepth)) FlowGuard
      (go p address iterations buffer bufferLength needRestart) (fun _ s' => Balanced s') s := by
  induction iterations generalizing s buffer bufferLength needRestart with
  | zero =>
    unfold go
    apply wp_done
    intro hw hsteps
    apply h.steps hsteps
  | succ iterations ih =>
    unfold go
    apply wp_device
    split
    . apply wp_message
      . intro _ _
        trivial
      . -- the message is refused
        have hfail : wp (system (fifo txDepth rxDepth)) FlowGuard
            (update fun d => { d with messageError := -1 }) (fun _ s' => Balanced s') s := by
          apply wp_tail
          apply wp_update
          apply wp_done
          intro hw hsteps
          apply h.steps hsteps
        split
        . apply hfail
        . split
          . apply hfail
          . apply wp_readRegister
            intro hw₁ hsteps₁
            have h₁ := h.steps hsteps₁
            refine ⟨⟨.inl h₁, by intro h; contradiction⟩, ?_⟩
            intro txflr htxflr
            apply wp_readRegister
            intro hw₂ hsteps₂
            have h₂ := (h₁.read .txflr txflr (by simp)).steps hsteps₂
            refine ⟨⟨.inl h₂, by intro h; contradiction⟩, ?_⟩
            intro rxflr hrxflr
            rw [wp_bind]
            apply wp_post
            . apply wp_issue_flow
              . apply hdepths
              . exact h₂.read _ _ (by simp)
              . have hle := steps_length_tx_le hsteps₂
                have hlevel := h₁.2.level
                have hlimit := toInt_sub_ofNat_le hlevel
                rw [hdepths.transaction, show txflr = BitVec.ofNat 32 hw₁.tx.length from htxflr]
                apply Int.le_trans hlimit
                exact Int.sub_le_sub_left (Int.ofNat_le.mpr hle) _
              . have hlevel := h₂.2.length_rx_le
                have hlimit := toInt_sub_ofNat_le hlevel
                rw [hdepths.receive, show rxflr = BitVec.ofNat 32 hw₂.rx.length from hrxflr]
                apply Int.le_trans hlimit
                omega
            . rintro ⟨buffer', left, needRestart'⟩ s' ⟨h', hdepths'⟩
              dsimp only
              apply wp_update
              apply wp_update
              split
              . apply wp_tail
                apply wp_update
                apply wp_done
                intro hw hsteps
                apply h'.steps hsteps
              . apply wp_update
                apply wp_update
                apply ih
                . exact { hdepths' with }
                . apply h'
    . apply wp_done
      intro hw hsteps
      apply h.steps hsteps

end transferMessageToBus

theorem wp_transferMessageToBus_flow (hdepths : Depths txDepth rxDepth s.device) (h : Balanced s) :
    wp (system (fifo txDepth rxDepth)) FlowGuard transferMessageToBus
      (fun _ s' => Balanced s') s := by
  unfold transferMessageToBus
  apply wp_reach
  . intro _ _
    trivial
  . apply wp_device
    apply wp_message
    . intro _ _
      trivial
    . rw [wp_bind]
      apply wp_post
      . apply transferMessageToBus.wp_go_flow hdepths h
      . intro _ s' h'
        apply wp_device
        apply wp_tail
        apply wp_writeRegister
        intro hw hsteps
        have h'' := h'.steps hsteps
        refine ⟨⟨.inl h'', by intro h; contradiction⟩, ?_⟩
        apply wp_done
        intro hw' hsteps'
        apply (h''.write _ .intrMask (by simp) (by simp)).steps hsteps'

end VoodooI2C
