import VoodooI2C.Isolation.Twin

/-!
This module contains that the handler keeps both drivers in the middle of the same transfer: it sets
`receive_buffer` and `transaction_buffer` before it uses them.
-/

namespace VoodooI2C

namespace Isolation

open Interaction

variable {H : Hardware} {p : Pointer} {number : Nat} {s t : State H}

/-! The bytes that are received. -/

theorem stays_collect (length : Nat) (buffer : Address) (receiveValid : Int) :
    Stays H p number (readFromBus.collect length buffer receiveValid) := by
  have hplain : Plain fun d => { d with receiveOutstanding := d.receiveOutstanding - 1 } := by
    constructor <;> intros <;> first | rfl | assumption
  induction length generalizing buffer receiveValid with
  | zero => apply stays_pure
  | succ length ih =>
    unfold readFromBus.collect
    split
    . apply stays_bind (stays_readRegister _)
      intro value
      apply stays_bind (stays_store _ _)
      intro _
      apply stays_bind (stays_update hplain)
      intro _
      apply ih
    . apply stays_pure

theorem Twin.received (h : Twin p number s t) (length : Nat) (buffer : Address) :
    Twin p number
      { s with
        device :=
          { s.device with
            status := s.device.status ||| statusReadInProgress
            receiveBufferLength := length
            receiveBuffer := buffer } }
      { t with
        device :=
          { t.device with
            status := t.device.status ||| statusReadInProgress
            receiveBufferLength := length
            receiveBuffer := buffer } } := by
  have hwip : ∀ d : BusDevice, (d.status ||| statusReadInProgress) &&& statusWriteInProgress ≠ 0 →
      d.WriteInProgress := by
    intro d hwrite
    rw [or_read_and_write] at hwrite
    apply hwrite
  exact
    { h with
      device := by
        rcases h.device with ⟨l, heq, hwrite, _⟩
        refine ⟨{ l with receiveBufferLength := length, receiveBuffer := buffer }, ?_, ?_, ?_⟩
        . simp only [heq]
          rfl
        . intro h
          apply hwrite (hwip _ h)
        . intro _
          exact ⟨rfl, rfl⟩
      cursor := fun hwrite => h.cursor (hwip _ hwrite) }

theorem plain_messageReadIndex : Plain fun d => { d with messageReadIndex := d.messageReadIndex + 1 } := by
  constructor <;> intros <;> first | rfl | assumption

theorem plain_status_clear (bit : Word) : Plain fun d => { d with status := d.status &&& ~~~bit } := by
  constructor
  case status =>
    intro d bit' h heq
    apply h
    have hcomm : d.status &&& ~~~bit &&& bit' = d.status &&& bit' &&& ~~~bit := by ac_rfl
    rw [hcomm, heq]
    exact BitVec.zero_and
  all_goals
    intros
    rfl

theorem stays_readFromBus_go (iterations : Nat) : Stays H p number (readFromBus.go p iterations) := by
  induction iterations with
  | zero => apply stays_pure
  | succ iterations ih =>
    intro s t h
    unfold readFromBus.go
    apply h.wp_device
    . -- the leftovers are looked at only while a message is being received
      rintro d _ ⟨l, rfl, _, hread⟩
      by_cases hprogress : d.ReadInProgress
      . rcases hread hprogress with ⟨hbuffer, hlength⟩
        have heq : withLeftover d l = { d with
            transactionBufferLength := l.transactionBufferLength
            transactionBuffer := l.transactionBuffer
            isInterruptRegistered := l.isInterruptRegistered } := by
          unfold withLeftover
          rw [hbuffer, hlength]
        rw [heq]
      . have hprogress' : ¬ (withLeftover d l).ReadInProgress := hprogress
        simp only [if_pos hprogress, if_pos hprogress']
        rfl
    . split
      . next hlt =>
        apply wp_message h.log
        rw [h.memory.message _ (.inl (by rw [← h.messageNumber]; apply hlt))]
        split
        . apply wp_update h.log
          apply ih _ _ (h.update plain_messageReadIndex)
        . apply stays_bind (stays_readRegister _) _ s t h
          intro receiveValid
          apply stays_bind (stays_collect _ _ _)
          rintro ⟨length, buffer⟩ s₁ t₁ h₁
          dsimp only
          split
          . refine wp_update h₁.log ?_
            refine wp_update h₁.log ?_
            apply Pair.wp_tail
            refine wp_update h₁.log ?_
            apply stays_pure
            apply h₁.received
          . refine wp_update h₁.log ?_
            refine wp_update h₁.log ?_
            apply ih
            apply (h₁.update (plain_status_clear _)).update plain_messageReadIndex
      . apply stays_pure _ _ _ h

theorem stays_readFromBus : Stays H p number readFromBus := by
  intro s t h
  unfold readFromBus
  apply wp_local local_readFromBus local_readFromBus h.log
  apply h.wp_device
  . rintro d _ ⟨l, rfl, _⟩
    rfl
  . rw [h.messages]
    apply stays_readFromBus_go _ _ _ h

/-! The bytes that are sent. -/

structure Sending (p : Pointer) (number i : Nat) (buffer : Address) (length : Nat) (s t : State H) :
    Prop extends Near p number False s t where
  index : s.device.messageWriteIndex = i
  cursor : Cursor p number s.memory i buffer length

variable {i : Nat} {buffer : Address} {length : Nat}

theorem Sending.stable (p : Pointer) (number i : Nat) (buffer : Address) (length : Nat) :
    (pair H).Stable fun x => Sending p number i buffer length x.1 x.2 := by
  apply stable_of_hw
  intro s t hw hw' h
  exact { h with }

theorem Sending.wp_pure {a : Address × Nat × Bool} (h : Sending p number i a.1 a.2.1 s t) :
    Pair.wp (pair H) SameLog (pure a) (pure a)
      (fun a b y => a = b ∧ Sending p number i a.1 a.2.1 y.1 y.2) (s, t) := by
  apply Pair.wp_pure (V := pair H) _ ⟨rfl, h⟩
  intro x y hx henv
  exact ⟨hx.1, Sending.stable p number i _ _ x y hx.2 henv⟩

theorem Sending.append (h : Sending p number i buffer length s t) (e : Event) (hw hw' : H.State) :
    Sending p number i buffer length { s with hw := hw, log := s.log ++ [e] }
      { t with hw := hw', log := t.log ++ [e] } :=
  { h.toNear.append e hw hw', h with }

theorem plain_receiveOutstanding (g : Int → Int) :
    Plain fun d => { d with receiveOutstanding := g d.receiveOutstanding } := by
  constructor <;> intros <;> first | rfl | assumption

theorem Sending.wp_issue (needRestart : Bool) (transactionLimit receiveLimit : Int)
    (h : Sending p number i buffer length s t) :
    Pair.wp (pair H) SameLog
      (transferMessageToBus.issue p length buffer needRestart transactionLimit receiveLimit)
      (transferMessageToBus.issue p length buffer needRestart transactionLimit receiveLimit)
      (fun a b y => a = b ∧ Sending p number i a.1 a.2.1 y.1 y.2) (s, t) := by
  induction length generalizing buffer needRestart transactionLimit receiveLimit s t with
  | zero =>
    unfold transferMessageToBus.issue
    apply Sending.wp_pure h
  | succ length ih =>
    unfold transferMessageToBus.issue
    split
    . apply h.wp_device
      . rintro d _ ⟨l, rfl, _⟩
        rfl
      . apply wp_message h.log
        rw [h.memory.message _ (.inl (by rw [h.index]; apply h.cursor.1)), h.index]
        split
        . next hread =>
          split
          . apply Sending.wp_pure h
          . apply wp_writeRegister h.log
            intro hw hw'
            refine wp_update ?_ ?_
            . simp only [h.log]
            . apply ih
              exact ⟨(h.append _ _ _).toNear.update (plain_receiveOutstanding (· + 1)), h.index,
                h.cursor.read hread⟩
        . next hwrite =>
          apply wp_load h.log
          rw [h.cursor.load h.memory hwrite]
          apply wp_writeRegister h.log
          intro hw hw'
          apply ih
          exact ⟨(h.append _ _ _).toNear, h.index, h.cursor.next⟩
    . apply Sending.wp_pure h

theorem Sending.suspended (h : Sending p number i buffer length s t) :
    Twin p number
      { s with
        device :=
          { s.device with
            transactionBuffer := buffer
            transactionBufferLength := length
            status := s.device.status ||| statusWriteInProgress } }
      { t with
        device :=
          { t.device with
            transactionBuffer := buffer
            transactionBufferLength := length
            status := t.device.status ||| statusWriteInProgress } } :=
  { h with
    device := by
      rcases h.device with ⟨l, heq, _, hread⟩
      refine ⟨{ l with transactionBuffer := buffer, transactionBufferLength := length }, ?_, ?_, ?_⟩
      . simp only [heq]
        rfl
      . intro _
        exact ⟨rfl, rfl⟩
      . intro hprogress
        apply hread
        unfold BusDevice.ReadInProgress at hprogress
        rw [or_write_and_read] at hprogress
        apply hprogress
    cursor := fun _ => by
      simp only [h.index]
      apply h.cursor }

theorem Sending.finished (h : Sending p number i buffer length s t) :
    Twin p number
      { s with
        device :=
          { s.device with
            transactionBuffer := buffer
            transactionBufferLength := length
            status := s.device.status &&& ~~~statusWriteInProgress
            messageWriteIndex := s.device.messageWriteIndex + 1 } }
      { t with
        device :=
          { t.device with
            transactionBuffer := buffer
            transactionBufferLength := length
            status := t.device.status &&& ~~~statusWriteInProgress
            messageWriteIndex := t.device.messageWriteIndex + 1 } } := by
  have hidle : ¬ s.device.status &&& ~~~statusWriteInProgress &&& statusWriteInProgress ≠ 0 :=
    fun hprogress => hprogress (and_not_write_and_write _)
  exact
    { h with
      device := by
        rcases h.device with ⟨l, heq, _, hread⟩
        refine ⟨{ l with transactionBuffer := buffer, transactionBufferLength := length }, ?_, ?_,
          ?_⟩
        . simp only [heq]
          rfl
        . intro _
          exact ⟨rfl, rfl⟩
        . intro hprogress
          apply hread
          unfold BusDevice.ReadInProgress at hprogress
          rw [and_not_write_and_read] at hprogress
          apply hprogress
      cursor := fun hprogress => absurd hprogress hidle }

theorem plain_messageError : Plain fun d => { d with messageError := -1 } := by
  constructor <;> intros <;> first | rfl | assumption

theorem Twin.wp_transferMessageToBus_go (address : BitVec 16) (iterations : Nat)
    {buffer buffer' : Address} {length length' : Nat} (needRestart : Bool) (h : Twin p number s t)
    (hbuffer : s.device.WriteInProgress →
      buffer = s.device.transactionBuffer ∧ buffer' = buffer
        ∧ length = s.device.transactionBufferLength ∧ length' = length) :
    Pair.wp (pair H) SameLog
      (transferMessageToBus.go p address iterations buffer length needRestart)
      (transferMessageToBus.go p address iterations buffer' length' needRestart)
      (fun a b y => a = b ∧ Twin p number y.1 y.2) (s, t) := by
  induction iterations generalizing buffer buffer' length length' needRestart s t with
  | zero => apply stays_pure _ _ _ h
  | succ iterations ih =>
    unfold transferMessageToBus.go
    apply wp_device_eq h.log
    . -- the arguments are looked at only while a message is being sent
      rcases h.device with ⟨l, heq, hwrite, _⟩
      rw [heq]
      by_cases hprogress : s.device.WriteInProgress
      . rcases hbuffer hprogress with ⟨_, rfl, _, rfl⟩
        rfl
      . have hprogress' : ¬ (withLeftover s.device l).WriteInProgress := hprogress
        simp only [if_pos hprogress, if_pos hprogress']
        rfl
    . split
      . next hlt =>
        rw [h.messageNumber] at hlt
        apply wp_message h.log
        rw [h.memory.message _ (.inl hlt)]
        split
        . -- both sides refuse the message
          apply stays_update plain_messageError _ _ h
        . split
          . apply stays_update plain_messageError _ _ h
          . apply wp_readRegister h.log
            intro hw₁ hw₁' txflr _ _ _ _
            have h₁ := h.append (.read .txflr txflr) (H.read .txflr txflr hw₁)
              (H.read .txflr txflr hw₁')
            apply wp_readRegister h₁.log
            intro hw₂ hw₂' rxflr _ _ _ _
            have h₂ := h₁.append (.read .rxflr rxflr) (H.read .rxflr rxflr hw₂)
              (H.read .rxflr rxflr hw₂')
            apply Pair.wp_bind
            have hsending : Sending p number s.device.messageWriteIndex
                (if ¬ s.device.WriteInProgress then
                  (s.memory.message p s.device.messageWriteIndex).buffer else buffer)
                (if ¬ s.device.WriteInProgress then
                  (s.memory.message p s.device.messageWriteIndex).length.toNat else length) _ _ :=
              { h₂.toNear with
                device := h₂.device.weaken
                index := rfl
                cursor := by
                  by_cases hprogress : s.device.WriteInProgress
                  . rcases hbuffer hprogress with ⟨rfl, _, rfl, _⟩
                    rw [if_neg (not_not_intro hprogress), if_neg (not_not_intro hprogress)]
                    apply h.cursor hprogress
                  . rw [if_pos hprogress, if_pos hprogress]
                    apply Cursor.start hlt }
            apply Pair.wp_post (hsending.wp_issue _ _ _)
            rintro ⟨buffer₁, length₁, needRestart₁⟩ _ ⟨s₁, t₁⟩ ⟨rfl, h₃⟩
            dsimp only
            refine wp_update h₃.log ?_
            refine wp_update h₃.log ?_
            split
            . apply Pair.wp_tail
              refine wp_update h₃.log ?_
              apply stays_pure
              apply h₃.suspended
            . refine wp_update h₃.log ?_
              refine wp_update h₃.log ?_
              apply ih _ h₃.finished
              intro hprogress
              exact absurd (and_not_write_and_write _) hprogress
      . apply stays_pure _ _ _ h

theorem stays_transferMessageToBus : Stays H p number transferMessageToBus := by
  intro s t h
  unfold transferMessageToBus
  apply wp_local local_transferMessageToBus local_transferMessageToBus h.log
  apply wp_device h.log
  rcases h.device with ⟨l, heq, hwrite, _⟩
  rw [heq]
  dsimp only [withLeftover]
  rw [h.messages]
  apply wp_message h.log
  apply Pair.wp_bind
  apply Pair.wp_post (Q := fun a b (y : State H × State H) => a = b ∧ Twin p number y.1 y.2)
  . by_cases hlt : s.device.messageWriteIndex < number
    . rw [h.memory.message _ (.inl hlt)]
      apply h.wp_transferMessageToBus_go
      intro hprogress
      rcases hwrite hprogress with ⟨hbuffer, hlength⟩
      exact ⟨rfl, hbuffer, rfl, hlength⟩
    . -- the address of the message behind the end of the list is not used
      rw [h.messageNumber, Nat.sub_eq_zero_of_le (Nat.le_of_not_lt hlt)]
      apply stays_pure _ _ _ h
  . rintro _ _ ⟨s₁, t₁⟩ ⟨rfl, h₁⟩
    apply h₁.wp_device
    . rintro d _ ⟨l, rfl, _⟩
      rfl
    . apply stays_writeRegister _ _ _ _ h₁

/-! The handler. -/

theorem stays_serviceInterrupt : Stays H p number serviceInterrupt := by
  unfold serviceInterrupt readClearInterruptBits
  simp only [bind_assoc, pure_bind]
  apply stays_bind (stays_readRegister _)
  intro status
  apply stays_bind (stays_clear _)
  intro _
  split
  . apply stays_bind stays_abort
    intro _
    apply stays_wakeup
  . apply stays_bind
    . unfold serviceInterrupt.receive
      split
      . apply stays_readFromBus
      . apply stays_pure
    . intro _
      apply stays_bind
      . unfold serviceInterrupt.send
        split
        . apply stays_transferMessageToBus
        . apply stays_pure
      . intro _
        apply stays_wakeup

theorem stays_handleInterrupt : Stays H p number handleInterrupt := by
  unfold handleInterrupt
  apply stays_bind
  . apply stays_of_performs
    . simp [TwinOp]
    . apply respects_of_performs
      simp
  . intro _
    apply stays_bind
    . unfold handleInterrupt.body
      apply stays_device
      . rintro d _ ⟨l, rfl, _⟩
        rfl
      . intro d
        split
        . apply stays_bind (stays_readRegister _)
          intro enabled
          apply stays_bind (stays_readRegister _)
          intro status
          split
          . apply stays_serviceInterrupt
          . apply stays_pure
        . apply stays_pure
    . intro _
      apply stays_of_performs
      . simp [TwinOp]
      . apply respects_of_performs
        simp

theorem Twin.stable_interrupted (p : Pointer) (number : Nat) :
    (interruptedPair H).Stable fun x => Twin p number x.1 x.2 := by
  apply Pair.stable_interrupted (Twin.stable p number)
  rintro ⟨s, t⟩ h
  apply Pair.wp_mono (stays_handleInterrupt s t h)
  . intro _ _ _
    trivial
  . rintro _ _ _ ⟨_, h⟩
    apply h

end Isolation

end VoodooI2C
