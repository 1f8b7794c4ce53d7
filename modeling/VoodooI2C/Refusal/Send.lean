import VoodooI2C.Refusal.Basic

/-!
This module contains the verification of `transferMessageToBus` for a message that it refuses.
-/

namespace VoodooI2C

open Interaction

variable {H : Hardware} {list : List BusMessage} {s s₀ : State H} {p : Pointer} {n : Nat}

namespace transferMessageToBus

def IssueOp (op : Op) : Prop :=
  match op with
  | .writeRegister _ reg => reg = .dataCmd
  | .update f => ∀ d, ∃ o, f d = { d with receiveOutstanding := o }
  | .device | .message _ _ | .load _ => True
  | _ => False

theorem performs_issueOp (messages : Pointer) (bufferLength : Nat) (buffer : Address)
    (needRestart : Bool) (transactionLimit receiveLimit : Int) :
    (issue messages bufferLength buffer needRestart transactionLimit receiveLimit).Performs
      IssueOp := by
  induction bufferLength generalizing buffer needRestart transactionLimit receiveLimit with
  | zero =>
    unfold issue
    simp
  | succ bufferLength ih =>
    unfold issue
    split
    . simp only [performs_device_bind, performs_message_bind]
      refine ⟨trivial, fun d => ⟨trivial, fun m => ?_⟩⟩
      split
      . split
        . simp
        . simp [IssueOp, ih]
      . simp [IssueOp, ih]
    . simp

theorem wp_issue_frame {bufferLength : Nat} {buffer : Address} {needRestart : Bool}
    {transactionLimit receiveLimit : Int} :
    wp (system H) (fun _ _ => True)
      (issue p bufferLength buffer needRestart transactionLimit receiveLimit)
      (fun _ s' =>
        s'.memory = s.memory ∧ ∃ o, s'.device = { s.device with receiveOutstanding := o }) s := by
  apply wp_performs (performs_issueOp _ _ _ _ _ _)
  . rintro s' _ h ⟨hw, _, rfl⟩
    apply h
  . intro _ _ _ _
    trivial
  . intro op s' r hop h _
    cases op with
    | update f =>
      rcases h with ⟨hmemory, o, ho⟩
      rcases hop s'.device with ⟨o', ho'⟩
      refine ⟨hmemory, o', ?_⟩
      show f s'.device = _
      rw [ho', ho]
    | writeRegister _ _ | device | message _ _ | load _ => apply h
    | _ => contradiction
  . exact ⟨rfl, _, rfl⟩

theorem wp_go_refused {iterations : Nat} {address : BitVec 16} {buffer : Address}
    {bufferLength : Nat} {needRestart : Bool}
    (haddress : ∀ m₀, list[0]? = some m₀ → m₀.address = address)
    (hnumber : s.device.messageNumber = list.length)
    (hmessage : ∀ i m, list[i]? = some m → s.memory.message p i = m)
    (herror : s.device.messageError = 0) :
    wp (system H) (fun _ _ => True)
      (go p address iterations buffer bufferLength needRestart)
      (fun _ s' => s'.device.messageError ≠ 0 → RefusedAt list s'.device.messageWriteIndex) s := by
  induction iterations generalizing s buffer bufferLength needRestart with
  | zero =>
    unfold go
    apply wp_done
    intro hw _ h
    exact absurd herror h
  | succ iterations ih =>
    unfold go
    apply wp_device
    split
    . next hlt =>
      rw [hnumber] at hlt
      have hm := List.getElem?_eq_getElem hlt
      have hm₀ := List.getElem?_eq_getElem (Nat.zero_lt_of_lt hlt)
      generalize list[s.device.messageWriteIndex] = m at hm
      apply wp_message
      . intro _ _
        trivial
      . rw [hmessage _ _ hm]
        have hfail : ¬ m.Good list[0].address → wp (system H) (fun _ _ => True)
            (update fun d => { d with messageError := -1 })
            (fun _ s' => s'.device.messageError ≠ 0 → RefusedAt list s'.device.messageWriteIndex)
            s := by
          intro hbad
          apply wp_tail
          apply wp_update
          apply wp_done
          intro hw _ _
          exact ⟨m, _, hm, hm₀, hbad⟩
        split
        . next hne =>
          -- another address than the first message
          apply hfail
          intro hgood
          apply hne
          rw [hgood.2, haddress _ hm₀]
        . split
          . next hlength =>
            -- no bytes
            apply hfail
            intro hgood
            exact hgood.1 hlength
          . apply wp_readRegister
            intro hw _
            refine ⟨trivial, ?_⟩
            intro txflr _
            apply wp_readRegister
            intro hw _
            refine ⟨trivial, ?_⟩
            intro rxflr _
            rw [wp_bind]
            apply wp_post
            . apply wp_issue_frame
            . rintro ⟨buffer', left, needRestart'⟩ s' ⟨hmemory, o, ho⟩
              have hnumber' : s'.device.messageNumber = list.length := by
                rw [ho]
                apply hnumber
              have herror' : s'.device.messageError = 0 := by
                rw [ho]
                apply herror
              clear ho
              dsimp only at hmemory ⊢
              apply wp_update
              apply wp_update
              split
              . -- a FIFO was full before the end of the message
                apply wp_tail
                apply wp_update
                apply wp_done
                intro hw _ h
                exact absurd herror' h
              . apply wp_update
                apply wp_update
                apply ih
                . apply hnumber'
                . rw [hmemory]
                  apply hmessage
                . apply herror'
    . apply wp_done
      intro hw _ h
      exact absurd herror h

end transferMessageToBus

theorem wp_transferMessageToBus_refused
    (hbegun : s.device.messageWriteIndex = 0 ∨ s.device.WriteInProgress)
    (hside : WriteSide list s.device n) (hsession : Session p list s)
    (herror : s.device.messageError = 0) :
    wp (system H) (fun _ _ => True) transferMessageToBus
      (fun _ s' => s'.device.messageError ≠ 0 →
        RefusedAt list s'.device.messageWriteIndex ∧ ∃ log, s'.log = log ++ [.write 0 .intrMask])
      s := by
  rcases hsession with ⟨_, _, hmessages, hnumber, hmessage⟩
  unfold transferMessageToBus
  apply wp_reach
  . intro _ _
    trivial
  . apply wp_device
    have : (State.next (.reach .transferMessageToBus) s ()).device = s.device := rfl
    simp only [this, hmessages]
    apply wp_message
    . intro _ _
      trivial
    . rw [wp_bind]
      apply wp_post
      . apply transferMessageToBus.wp_go_refused
        . intro m₀ hm₀
          apply hside.address_eq hm₀ hbegun hmessage
        . apply hnumber
        . apply hmessage
        . apply herror
      . intro _ s' h'
        apply wp_device
        apply wp_tail
        apply wp_writeRegister
        intro hw _
        refine ⟨trivial, ?_⟩
        apply wp_done
        intro hw' _ herror'
        refine ⟨h' herror', s'.log, ?_⟩
        rw [if_pos herror']

end VoodooI2C
