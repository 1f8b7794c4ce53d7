import VoodooI2C.Completion.Service

/-!
This module contains what `readFromBus` and `transferMessageToBus` do while the controller has nothing
to execute: the first pops a byte if there is one, the second writes a command if there is one left.
-/

namespace VoodooI2C

open Interaction RegisterFile

variable {txDepth rxDepth : Word} {s : State (fifo txDepth rxDepth)} {p : Pointer}
  {list : List BusMessage} {k n : Nat} {log : List Event}

theorem Whole.length_ne_zero (hwhole : Whole list) : ∀ m ∈ list, m.length ≠ 0 := by
  intro m hm
  cases list with
  | nil => contradiction
  | cons m₀ list => exact (hwhole m hm m₀ rfl).1

def Progressed (k n : Nat) (log : List Event) : Prop :=
  k < (words log).length ∨ n < (pops log).length ∨ .wakeup ∈ log

namespace Progressed

theorem append {t : List Event} (h : Progressed k n log) : Progressed k n (log ++ t) := by
  unfold Progressed at *
  rw [words_append, pops_append, List.length_append, List.length_append, List.mem_append]
  rcases h with h | h | h
  . left
    omega
  . right
    left
    omega
  . exact .inr (.inr (.inl h))

theorem next {H : Hardware} {s : State H} {op : Op} {r : op.Ans} (h : Progressed k n s.log)
    (hop : HandlerOp op) : Progressed k n (State.next op s r).log := by
  rcases log_next_handlerOp (s := s) (r := r) hop with hlog | ⟨e, hlog, _⟩
  . rw [hlog]
    apply h
  . rw [hlog]
    apply h.append

theorem stable {H : Hardware} : (system H).Stable fun s => Progressed k n s.log := by
  rintro s _ h ⟨hw, _, rfl⟩
  apply h

theorem wp_of_performs {H : Hardware} {s : State H} {α : Type} {q : Driver α}
    (h : Progressed k n s.log) (hq : q.Performs HandlerOp) :
    wp (system H) (fun _ _ => True) q (fun _ s' => Progressed k n s'.log) s := by
  apply wp_performs hq stable
  . intro _ _ _ _
    trivial
  . intro _ _ _ hop h _
    apply h.next hop
  . apply h

theorem wp_bind {H : Hardware} {s : State H} {α β : Type} {q : Driver α} {f : α → Driver β}
    (h : wp (system H) (fun _ _ => True) q (fun _ s' => Progressed k n s'.log) s)
    (hf : ∀ a, (f a).Performs HandlerOp) :
    wp (system H) (fun _ _ => True) (q >>= f) (fun _ s' => Progressed k n s'.log) s := by
  rw [Interaction.wp_bind]
  apply wp_post h
  intro a s' h'
  apply h'.wp_of_performs (hf a)

end Progressed

def LeavesDevice (op : Op) : Prop :=
  HandlerOp op ∧ ∀ f, op ≠ .update f

def Responded {H : Hardware} (list : List BusMessage) (k n : Nat) (s : State H) : Prop :=
  Progressed k n s.log ∨ ¬ Whole list ∧ s.device.messageError ≠ 0

namespace Responded

variable {H : Hardware} {s : State H}

theorem wp_of_performs {α : Type} {q : Driver α} (h : Responded list k n s)
    (hq : q.Performs LeavesDevice) :
    wp (system H) (fun _ _ => True) q (fun _ => Responded list k n) s := by
  apply wp_performs hq
  . rintro s _ h ⟨hw, _, rfl⟩
    apply h
  . intro _ _ _ _
    trivial
  . intro op s r hop h _
    rcases h with h | ⟨hlist, herror⟩
    . exact .inl (h.next hop.1)
    . right
      refine ⟨hlist, ?_⟩
      have hdevice : (State.next op s r).device = s.device := by
        cases op with
        | update f => exact absurd rfl (hop.2 f)
        | reach point => cases point <;> rfl
        | _ => rfl
      rw [hdevice]
      apply herror
  . apply h

theorem wp_bind {α β : Type} {q : Driver α} {f : α → Driver β}
    (h : wp (system H) (fun _ _ => True) q (fun _ => Responded list k n) s)
    (hf : ∀ a, (f a).Performs LeavesDevice) :
    wp (system H) (fun _ _ => True) (q >>= f) (fun _ => Responded list k n) s := by
  rw [Interaction.wp_bind]
  apply wp_post h
  intro a s' h'
  apply h'.wp_of_performs (hf a)

end Responded

theorem WakeupOp.leavesDevice {op : Op} (h : WakeupOp op) : LeavesDevice op := by
  refine ⟨h.handlerOp, ?_⟩
  rintro f rfl
  contradiction

namespace readFromBus

theorem wp_collect_pop {length : Nat} {buffer : Address} {receiveValid : Int}
    (hlength : 0 < length) (hvalid : 0 < receiveValid) (hpops : n ≤ (pops s.log).length) :
    wp (system (fifo txDepth rxDepth)) (fun _ _ => True) (collect length buffer receiveValid)
      (fun _ s' => Progressed k n s'.log) s := by
  cases length with
  | zero => contradiction
  | succ length =>
    unfold collect
    rw [if_pos hvalid]
    apply wp_readRegister
    intro hw _
    refine ⟨trivial, ?_⟩
    intro v _
    apply Progressed.wp_of_performs
    . right
      left
      simp
      omega
    . simp only [performs_store_bind, performs_update_bind]
      refine ⟨trivial, fun _ => rfl, ?_⟩
      apply Prog.performs_mono (performs_collect _ _ _)
      intro op hop
      apply hop.handlerOp

theorem wp_go_pop {iterations : Nat} (hnumber : s.device.messageNumber = list.length)
    (hmessage : ∀ i m, list[i]? = some m → s.memory.message p i = m)
    (hprogress : s.device.ReadInProgress → 0 < s.device.receiveBufferLength)
    (htx : s.hw.tx = []) (hrx : s.hw.rx ≠ []) (hsmall : s.hw.rx.length < 0x80000000)
    (hiterations : s.device.messageNumber - s.device.messageReadIndex ≤ iterations)
    (hpops : n ≤ (pops s.log).length) :
    wp (system (fifo txDepth rxDepth)) (fun _ _ => True) (go p iterations)
      (fun _ s' =>
        Progressed k n s'.log ∨ s'.device.messageNumber ≤ s'.device.messageReadIndex) s := by
  induction iterations generalizing s with
  | zero =>
    unfold go
    apply wp_done
    intro hw _
    right
    dsimp only
    omega
  | succ iterations ih =>
    unfold go
    apply wp_device
    split
    . next hlt =>
      rw [hnumber] at hlt
      have hm := List.getElem?_eq_getElem hlt
      generalize list[s.device.messageReadIndex] = m at hm
      apply wp_message
      . intro _ _
        trivial
      . rw [hmessage _ _ hm]
        split
        . -- a message to be written is passed over
          apply wp_update
          apply ih
          . apply hnumber
          . apply hmessage
          . apply hprogress
          . apply htx
          . apply hrx
          . apply hsmall
          . dsimp only
            omega
          . apply hpops
        . apply wp_readRegister
          intro hw hsteps
          rcases steps_of_tx_eq_nil hsteps htx with ⟨htx', hrx'⟩
          refine ⟨trivial, ?_⟩
          intro receiveValid hread
          have hvalid : receiveValid = BitVec.ofNat 32 hw.rx.length := hread
          have hvalid' : receiveValid.toInt = s.hw.rx.length := by
            rw [hvalid, BitVec.toInt_eq_toNat_cond, BitVec.toNat_ofNat, hrx']
            omega
          have hpos := List.length_pos_iff.mpr hrx
          by_cases hzero : (if ¬ s.device.ReadInProgress then m.length.toNat
              else s.device.receiveBufferLength) = 0
          . -- a message without bytes is passed over
            rw [hzero]
            unfold collect
            apply wp_update
            apply wp_update
            apply ih
            . apply hnumber
            . apply hmessage
            . intro hread
              simp [BusDevice.ReadInProgress, BitVec.and_assoc] at hread
            . apply htx'
            . show hw.rx ≠ []
              rw [hrx']
              apply hrx
            . show hw.rx.length < 0x80000000
              rw [hrx']
              apply hsmall
            . dsimp only
              omega
            . simpa using hpops
          . apply wp_post (Q := fun _ (s' : State (fifo txDepth rxDepth)) => Progressed k n s'.log)
            . apply Progressed.wp_bind
              . apply wp_collect_pop
                . exact Nat.pos_of_ne_zero hzero
                . omega
                . simpa using hpops
              . rintro ⟨length', buffer'⟩
                apply Prog.performs_mono (P := ReadFromBusOp)
                . dsimp only
                  split
                  . simp [ReadFromBusOp, ReadUpdate]
                  . simp [ReadFromBusOp, ReadUpdate, performs_go]
                . intro op hop
                  apply hop.handlerOp
            . intro _ _ h
              exact .inl h
    . apply wp_done
      intro hw _
      right
      dsimp only
      omega

end readFromBus

theorem wp_readFromBus_pop (hsession : Session p list s)
    (hside : ReadSide list s.device (pops s.log).length) (htx : s.hw.tx = []) (hrx : s.hw.rx ≠ [])
    (hsmall : s.hw.rx.length < 0x80000000) :
    wp (system (fifo txDepth rxDepth)) (fun _ _ => True) readFromBus
      (fun _ s' =>
        Progressed k (pops s.log).length s'.log
          ∨ s'.device.messageNumber ≤ s'.device.messageReadIndex) s := by
  rcases hsession with ⟨_, _, hmessages, hnumber, hmessage⟩
  unfold readFromBus
  apply wp_reach
  . intro _ _
    trivial
  . apply wp_device
    have : (State.next (.reach .readFromBus) s ()).device = s.device := rfl
    rw [this, hmessages]
    apply readFromBus.wp_go_pop hnumber hmessage
    . intro hprogress
      have hside' := hside.2
      have hprogress : s.device.ReadInProgress := hprogress
      rw [if_pos hprogress] at hside'
      rcases hside' with ⟨_, _, _, hpos, _⟩
      apply hpos
    . apply htx
    . apply hrx
    . apply hsmall
    . apply Nat.le_refl
    . apply Nat.le_refl

namespace transferMessageToBus

theorem wp_issue_push {bufferLength : Nat} {buffer : Address} {needRestart : Bool}
    {transactionLimit receiveLimit : Int} (hlength : 0 < bufferLength)
    (htransaction : 0 < transactionLimit) (hreceive : 0 < receiveLimit)
    (houtstanding : s.device.receiveOutstanding = 0) (hwords : k ≤ (words s.log).length) :
    wp (system (fifo txDepth rxDepth)) (fun _ _ => True)
      (issue p bufferLength buffer needRestart transactionLimit receiveLimit)
      (fun _ s' => Progressed k n s'.log) s := by
  have hissue : ∀ left buffer needRestart transactionLimit receiveLimit,
      (issue p left buffer needRestart transactionLimit receiveLimit).Performs HandlerOp := by
    intro left buffer needRestart transactionLimit receiveLimit
    apply Prog.performs_mono (performs_issue _ _ _ _ _ _)
    intro op hop
    apply hop.handlerOp
  cases bufferLength with
  | zero => contradiction
  | succ left =>
    unfold issue
    rw [if_pos ⟨htransaction, hreceive⟩]
    apply wp_device
    apply wp_message
    . intro _ _
      trivial
    . split
      . split
        . -- nothing is outstanding, so there is room for the byte of the command
          next hfull =>
          rw [houtstanding] at hfull
          omega
        . apply wp_writeRegister
          intro hw _
          refine ⟨trivial, ?_⟩
          apply Progressed.wp_of_performs
          . left
            simp
            omega
          . simp only [performs_update_bind]
            exact ⟨fun _ => rfl, hissue _ _ _ _ _⟩
      . apply wp_load fun _ _ => trivial
        apply wp_writeRegister
        intro hw _
        refine ⟨trivial, ?_⟩
        apply Progressed.wp_of_performs
        . left
          simp
          omega
        . apply hissue

theorem toInt_sub_zero (depth : Word) : (depth - BitVec.ofNat 32 0).toInt = depth.toInt := by
  simp

theorem wp_go_push {iterations : Nat} {address : BitVec 16} {buffer : Address} {bufferLength : Nat}
    {needRestart : Bool} (hdepths : Depths txDepth rxDepth s.device) (htxDepth : 0 < txDepth.toInt)
    (hrxDepth : 0 < rxDepth.toInt)
    (hindex : s.device.messageWriteIndex < s.device.messageNumber)
    (haddress : (s.memory.message p s.device.messageWriteIndex).address = address)
    (hmem : s.memory.message p s.device.messageWriteIndex ∈ list)
    (hprogress : s.device.WriteInProgress → 0 < bufferLength) (htx : s.hw.tx = [])
    (hrx : s.hw.rx = []) (houtstanding : s.device.receiveOutstanding = 0)
    (hwords : k ≤ (words s.log).length) (hiterations : 0 < iterations) :
    wp (system (fifo txDepth rxDepth)) (fun _ _ => True)
      (go p address iterations buffer bufferLength needRestart)
      (fun _ => Responded list k n) s := by
  cases iterations with
  | zero => contradiction
  | succ iterations =>
    unfold go
    apply wp_device
    rw [if_pos hindex]
    apply wp_message
    . intro _ _
      trivial
    . rw [if_neg (not_not_intro haddress)]
      split
      . next hzero =>
        -- a message without bytes is refused
        apply wp_tail
        apply wp_update
        apply wp_done
        intro hw _
        right
        refine ⟨?_, by simp⟩
        intro hwhole
        exact hwhole.length_ne_zero _ hmem hzero
      . next hlength =>
        apply wp_readRegister
        intro hw hsteps
        rcases steps_of_tx_eq_nil hsteps htx with ⟨htx', hrx'⟩
        refine ⟨trivial, ?_⟩
        intro txflr hread
        have htxflr : txflr = BitVec.ofNat 32 hw.tx.length := hread
        apply wp_readRegister
        intro hw' hsteps'
        have hrx'' := (steps_of_tx_eq_nil hsteps' htx').2
        refine ⟨trivial, ?_⟩
        intro rxflr hread'
        have hrxflr : rxflr = BitVec.ofNat 32 hw'.rx.length := hread'
        apply wp_post (Q := fun _ (s' : State (fifo txDepth rxDepth)) => Progressed k n s'.log)
        . apply Progressed.wp_bind
          . apply wp_issue_push
            . split
              . rw [Nat.pos_iff_ne_zero]
                intro hzero
                apply hlength
                apply BitVec.eq_of_toNat_eq hzero
              . next hwrite =>
                apply hprogress (Decidable.not_not.mp hwrite)
            . rw [hdepths.transaction, htxflr, htx', List.length_nil, toInt_sub_zero]
              apply htxDepth
            . have : hw'.rx = [] := hrx''.trans (hrx'.trans hrx)
              rw [hdepths.receive, hrxflr, this, List.length_nil, toInt_sub_zero]
              apply hrxDepth
            . apply houtstanding
            . simpa using hwords
          . rintro ⟨buffer', left, needRestart'⟩
            apply Prog.performs_mono (P := TransferMessageToBusOp)
            . dsimp only
              split
              . simp [TransferMessageToBusOp, WriteUpdate]
              . simp [TransferMessageToBusOp, WriteUpdate, performs_go]
            . intro op hop
              apply hop.handlerOp
        . intro _ _ h
          exact .inl h

end transferMessageToBus

theorem wp_transferMessageToBus_push (hsession : Session p list s) (hindex : s.device.messageWriteIndex < list.length)
    (hside : WriteSide list s.device (words s.log).length)
    (hdepths : Depths txDepth rxDepth s.device) (htxDepth : 0 < txDepth.toInt)
    (hrxDepth : 0 < rxDepth.toInt) (htx : s.hw.tx = []) (hrx : s.hw.rx = [])
    (houtstanding : s.device.receiveOutstanding = 0) :
    wp (system (fifo txDepth rxDepth)) (fun _ _ => True) transferMessageToBus
      (fun _ => Responded list (words s.log).length n) s := by
  rcases hsession with ⟨_, _, hmessages, hnumber, hmessage⟩
  have hm := List.getElem?_eq_getElem hindex
  generalize list[s.device.messageWriteIndex] = m at hm
  unfold transferMessageToBus
  apply wp_reach
  . intro _ _
    trivial
  . apply wp_device
    have : (State.next (.reach .transferMessageToBus) s ()).device = s.device := rfl
    rw [this, hmessages]
    apply wp_message
    . intro _ _
      trivial
    . apply Responded.wp_bind
      . apply transferMessageToBus.wp_go_push hdepths htxDepth hrxDepth
        . show _ < s.device.messageNumber
          rw [hnumber]
          apply hindex
        . rfl
        . show s.memory.message p s.device.messageWriteIndex ∈ list
          rw [hmessage _ m hm]
          apply List.mem_of_getElem? hm
        . intro hprogress
          have hside' := hside.2.2
          have hprogress : s.device.WriteInProgress := hprogress
          rw [if_pos hprogress] at hside'
          rcases hside' with ⟨_, _, _, hpos, _⟩
          apply hpos
        . apply htx
        . apply hrx
        . apply houtstanding
        . apply Nat.le_refl
        . omega
      . intro _
        simp [LeavesDevice, HandlerOp]

end VoodooI2C
