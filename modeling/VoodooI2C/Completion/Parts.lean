import VoodooI2C.Completion.Basic
import VoodooI2C.Completion.Wakeup
import VoodooI2C.Refusal.Send

/-!
This module contains what the parts of the handler do on their own: `readFromBus` empties the receive
FIFO once the controller executes nothing any more, and `transferMessageToBus` does not let
`receive_outstanding` overflow.
-/

namespace VoodooI2C

open Interaction

variable {txDepth rxDepth : Word} {s : State (fifo txDepth rxDepth)} {p : Pointer}
  {list : List BusMessage}

theorem steps_of_tx_eq_nil {h h' : Fifo} (hsteps : (fifo txDepth rxDepth).Steps h h')
    (htx : h.tx = []) : h'.tx = [] ∧ h'.rx = h.rx := by
  induction hsteps with
  | refl => exact ⟨htx, rfl⟩
  | tail _ hstep ih =>
    cases hstep with
    | execute hc =>
      rw [ih.1] at hc
      contradiction
    | abort _ => exact ⟨rfl, ih.2⟩
    | stop _ => exact ih

namespace readFromBus

theorem wp_collect_drain {length : Nat} {buffer : Address} {receiveValid : Int}
    (htx : s.hw.tx = []) (hvalid : receiveValid = s.hw.rx.length) :
    wp (system (fifo txDepth rxDepth)) (fun _ _ => True) (collect length buffer receiveValid)
      (fun r s' =>
        s'.hw.tx = []
          ∧ s'.hw.rx.length ≤ s.hw.rx.length
          ∧ (r.1 ≠ 0 → s'.hw.rx = [])
          ∧ ∃ o, s'.device = { s.device with receiveOutstanding := o }) s := by
  induction length generalizing s buffer receiveValid with
  | zero =>
    unfold collect
    apply wp_done
    intro hw hsteps
    rcases steps_of_tx_eq_nil hsteps htx with ⟨htx', hrx'⟩
    refine ⟨htx', ?_, fun h => absurd rfl h, _, rfl⟩
    apply Nat.le_of_eq (congrArg List.length hrx')
  | succ length ih =>
    unfold collect
    split
    . next hpos =>
      apply wp_readRegister
      intro hw hsteps
      rcases steps_of_tx_eq_nil hsteps htx with ⟨htx', hrx'⟩
      refine ⟨trivial, ?_⟩
      intro v _
      apply wp_store fun _ _ => trivial
      apply wp_update
      apply wp_post
      . apply ih
        . apply htx'
        . show receiveValid - 1 = (hw.rx.tail.length : Int)
          rw [List.length_tail, hrx']
          omega
      . rintro r s' ⟨htx'', hle, hrx'', o, ho⟩
        refine ⟨htx'', ?_, hrx'', o, ho⟩
        have : hw.rx.tail.length ≤ s.hw.rx.length := by
          rw [List.length_tail, hrx']
          omega
        apply Nat.le_trans hle this
    . next hpos =>
      apply wp_done
      intro hw hsteps
      rcases steps_of_tx_eq_nil hsteps htx with ⟨htx', hrx'⟩
      refine ⟨htx', ?_, ?_, _, rfl⟩
      . apply Nat.le_of_eq (congrArg List.length hrx')
      . intro _
        rw [hrx', ← List.length_eq_zero_iff]
        omega

theorem wp_go_drain {iterations : Nat} (htx : s.hw.tx = []) (hsmall : s.hw.rx.length < 0x80000000)
    (hiterations : s.device.messageNumber - s.device.messageReadIndex ≤ iterations) :
    wp (system (fifo txDepth rxDepth)) (fun _ _ => True) (go p iterations)
      (fun _ s' => s'.hw.rx = [] ∨ s'.device.messageNumber ≤ s'.device.messageReadIndex) s := by
  induction iterations generalizing s with
  | zero =>
    unfold go
    apply wp_done
    intro hw _
    right
    dsimp only
    omega
  | succ iterations ih =>
    unfold go
    apply wp_device
    split
    . apply wp_message
      . intro _ _
        trivial
      . split
        . -- a message to be written is passed over
          apply wp_update
          apply ih
          . apply htx
          . apply hsmall
          . dsimp only
            omega
        . apply wp_readRegister
          intro hw hsteps
          rcases steps_of_tx_eq_nil hsteps htx with ⟨htx', hrx'⟩
          refine ⟨trivial, ?_⟩
          intro receiveValid hread
          have hvalid : receiveValid = BitVec.ofNat 32 hw.rx.length := hread
          have hvalid' : receiveValid.toInt = hw.rx.length := by
            rw [hvalid, BitVec.toInt_eq_toNat_cond, BitVec.toNat_ofNat, hrx']
            omega
          rw [wp_bind]
          apply wp_post
          . apply wp_collect_drain
            . apply htx'
            . apply hvalid'
          . rintro ⟨length, buffer⟩ s' ⟨htx'', hle, hrx'', o, ho⟩
            dsimp only at hle hrx'' ⊢
            split
            . next hpos =>
              -- bytes of the message are left, so there were not enough in the receive FIFO
              apply wp_update
              apply wp_update
              apply wp_tail
              apply wp_update
              apply wp_done
              intro hw' hsteps'
              left
              rw [(steps_of_tx_eq_nil hsteps' htx'').2]
              apply hrx''
              omega
            . apply wp_update
              apply wp_update
              apply ih
              . apply htx''
              . have : hw.rx.length = s.hw.rx.length := by rw [hrx']
                exact Nat.lt_of_le_of_lt hle (this ▸ hsmall)
              . rw [ho]
                dsimp only
                omega
    . apply wp_done
      intro hw _
      right
      dsimp only
      omega

end readFromBus

theorem wp_readFromBus_drain (htx : s.hw.tx = []) (hsmall : s.hw.rx.length < 0x80000000) :
    wp (system (fifo txDepth rxDepth)) (fun _ _ => True) readFromBus
      (fun _ s' => s'.hw.rx = [] ∨ s'.device.messageNumber ≤ s'.device.messageReadIndex) s := by
  unfold readFromBus
  apply wp_reach
  . intro _ _
    trivial
  . apply wp_device
    apply readFromBus.wp_go_drain htx hsmall
    apply Nat.le_refl

def SmallGuard {H : Hardware} (op : Op) (s : State H) : Prop :=
  match op with
  | .writeRegister v .dataCmd => isRead v → s.device.receiveOutstanding + 1 < 0x80000000
  | _ => True

section Small

variable {H : Hardware} {s : State H}

instance : Lenient (SmallGuard (H := H)) where
  device _ := trivial
  update _ _ := trivial
  commandWakeup _ := trivial

theorem SmallGuard.of_ne {v : Word} {reg : Register} (hreg : reg ≠ .dataCmd) :
    SmallGuard (.writeRegister v reg) s := by
  cases reg with
  | dataCmd => contradiction
  | _ => trivial

namespace transferMessageToBus

theorem toInt_lt (w : Word) : w.toInt < 0x80000000 := by
  have := w.isLt
  rw [BitVec.toInt_eq_toNat_cond]
  split <;> omega

theorem wp_issue_small {bufferLength : Nat} {buffer : Address} {needRestart : Bool}
    {transactionLimit receiveLimit : Int} (hlimit : receiveLimit < 0x80000000) :
    wp (system H) SmallGuard
      (issue p bufferLength buffer needRestart transactionLimit receiveLimit)
      (fun _ _ => True) s := by
  induction bufferLength generalizing s buffer needRestart transactionLimit receiveLimit with
  | zero =>
    unfold issue
    apply wp_done
    intro _ _
    trivial
  | succ bufferLength ih =>
    unfold issue
    split
    . apply wp_device_of
      . intro _ _
        trivial
      . apply wp_message
        . intro _ _
          trivial
        . split
          . split
            . apply wp_done
              intro _ _
              trivial
            . next hfree =>
              apply wp_writeRegister
              intro hw _
              constructor
              . intro _
                dsimp only
                omega
              . apply wp_update
                apply ih
                omega
          . apply wp_load fun _ _ => trivial
            apply wp_writeRegister
            intro hw _
            constructor
            . intro hread
              rw [isRead_command_or_byte] at hread
              contradiction
            . apply ih
              apply hlimit
    . apply wp_done
      intro _ _
      trivial

theorem wp_go_small {iterations : Nat} {address : BitVec 16} {buffer : Address}
    {bufferLength : Nat} {needRestart : Bool} :
    wp (system H) SmallGuard (go p address iterations buffer bufferLength needRestart)
      (fun _ _ => True) s := by
  induction iterations generalizing s buffer bufferLength needRestart with
  | zero =>
    unfold go
    apply wp_done
    intro _ _
    trivial
  | succ iterations ih =>
    unfold go
    apply wp_device
    split
    . apply wp_message
      . intro _ _
        trivial
      . -- the message is refused
        have hfail : wp (system H) SmallGuard (update fun d => { d with messageError := -1 })
            (fun _ _ => True) s := by
          apply wp_tail
          apply wp_update
          apply wp_done
          intro _ _
          trivial
        split
        . apply hfail
        . split
          . apply hfail
          . apply wp_readRegister
            intro _ _
            refine ⟨trivial, ?_⟩
            intro txflr _
            apply wp_readRegister
            intro _ _
            refine ⟨trivial, ?_⟩
            intro rxflr _
            rw [wp_bind]
            apply wp_post
            . apply wp_issue_small
              apply toInt_lt
            . rintro ⟨buffer', left, needRestart'⟩ s' _
              dsimp only
              apply wp_update
              apply wp_update
              split
              . apply wp_tail
                apply wp_update
                apply wp_done
                intro _ _
                trivial
              . apply wp_update
                apply wp_update
                apply ih
    . apply wp_done
      intro _ _
      trivial

end transferMessageToBus

theorem wp_transferMessageToBus_small :
    wp (system H) SmallGuard transferMessageToBus (fun _ _ => True) s := by
  unfold transferMessageToBus
  apply wp_reach
  . intro _ _
    trivial
  . apply wp_device
    apply wp_message
    . intro _ _
      trivial
    . rw [wp_bind]
      apply wp_post
      . apply transferMessageToBus.wp_go_small
      . intro _ s' _
        apply wp_device
        apply wp_tail
        apply wp_writeRegister
        intro _ _
        refine ⟨trivial, ?_⟩
        apply wp_done
        intro _ _
        trivial

end Small

end VoodooI2C
