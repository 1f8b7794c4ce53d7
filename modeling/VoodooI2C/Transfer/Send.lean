import VoodooI2C.Transfer.Invariant
import VoodooI2C.Driver.Impl.Handler
import VoodooI2C.Driver.Lemmas.Bits
import VoodooI2C.Driver.Lemmas.Performs

/-!
This module contains the verification of `transferMessageToBus`.
-/

namespace VoodooI2C

open Interaction Segments

variable {H : Hardware} {p : Pointer} {list : List BusMessage} {byte₀ byte : Address → Byte}
  {m : BusMessage} {s : State H} {d : BusDevice} {log : List Event} {i n left : Nat}

namespace transferMessageToBus

abbrev command (last needRestart : Prop) [Decidable last] [Decidable needRestart] : Word :=
  let command := if last then 0x200 else 0
  if needRestart then command ||| 0x400 else command

theorem command_or_and_not_restart {last needRestart : Prop} [Decidable last]
    [Decidable needRestart] {w : Word} (h : w &&& 0x400 = 0) :
    (command last needRestart ||| w) &&& ~~~0x400 = w ||| if last then 0x200 else 0 := by
  have hcommand : command last needRestart &&& ~~~0x400 = if last then 0x200 else 0 := by
    unfold command
    split <;> split <;> decide
  rw [BitVec.and_or_distrib_right, hcommand, and_not_of_and_eq_zero h, BitVec.or_comm]

theorem isRead_command_or_read {last needRestart : Prop} [Decidable last] [Decidable needRestart] :
    isRead (command last needRestart ||| 0x100) = true := by
  unfold isRead
  rw [or_and_cancel]
  decide

theorem isRead_command_or_byte {last needRestart : Prop} [Decidable last] [Decidable needRestart]
    (b : Byte) : isRead (command last needRestart ||| b.setWidth 32) = false := by
  have hcommand : command last needRestart &&& 0x100 = 0 := by
    unfold command
    split <;> split <;> decide
  unfold isRead
  rw [BitVec.and_or_distrib_right, hcommand, setWidth_and_read]
  decide

end transferMessageToBus

theorem Settled.sendRead {hw : H.State} {v : Word} (h : Settled list byte₀ s)
    (hindex : s.device.messageWriteIndex ≠ s.device.messageNumber) (hv : isRead v = true) :
    Settled list byte₀
      { s with
        device := { s.device with receiveOutstanding := s.device.receiveOutstanding + 1 }
        log := s.log ++ [.write v .dataCmd]
        hw := hw } := by
  rcases h with ⟨hstored, _, houtstanding⟩
  refine ⟨?_, ?_, ?_⟩
  . unfold Stored at *
    simpa using hstored
  . intro heq
    contradiction
  . intro herror
    have := houtstanding herror
    unfold Outstanding at *
    simp [readCommands, hv]
    unfold readCommands at this
    omega

theorem Settled.sendByte {hw : H.State} {v : Word} (h : Settled list byte₀ s)
    (hindex : s.device.messageWriteIndex ≠ s.device.messageNumber) (hv : isRead v = false) :
    Settled list byte₀ { s with hw := hw, log := s.log ++ [.write v .dataCmd] } := by
  rcases h with ⟨hstored, _, houtstanding⟩
  refine ⟨?_, ?_, ?_⟩
  . unfold Stored at *
    simpa using hstored
  . intro heq
    contradiction
  . intro herror
    have := houtstanding herror
    unfold Outstanding at *
    simpa [readCommands, hv] using this

theorem getElem?_places (hm : list[i]? = some m) (hgood : GoodBefore list (i + 1))
    (hat : At (placeSegments list) n i (left + 1)) (hleft : left < m.length.toNat) :
    (places list)[n]?
      = some ⟨m, m.length.toNat - (left + 1), i + 1 == list.length && left == 0⟩ := by
  have hseg := getElem?_placeSegments hm hgood
  have := hat.getElem? hseg (by simpa using hleft)
  unfold places
  rw [this]
  simp only [BusMessage.length_places, BusMessage.getElem_places, Option.some.injEq,
    Place.mk.injEq, true_and]
  congr 1
  rw [Bool.eq_iff_iff]
  simp
  omega

namespace transferMessageToBus

theorem command_or_eq_word {place : Place} {last needRestart : Prop} [Decidable last]
    [Decidable needRestart] {w : Word} (hw : w &&& 0x400 = 0)
    (hmessage : (if place.message.IsRead then 0x100
      else (byte (place.message.buffer + place.offset)).setWidth 32) = w)
    (hlast : last ↔ place.last) :
    (command last needRestart ||| w) &&& ~~~0x400 = place.word byte := by
  rw [command_or_and_not_restart hw]
  unfold Place.word
  rw [hmessage]
  congr 1
  simp only [hlast]

theorem wp_issue {bufferLength : Nat} {buffer : Address} {needRestart : Bool}
    {transactionLimit receiveLimit : Int} (hm : list[s.device.messageWriteIndex]? = some m)
    (hgood : GoodBefore list (s.device.messageWriteIndex + 1))
    (hle : bufferLength ≤ m.length.toNat)
    (hbuffer : ¬ m.IsRead → buffer = m.buffer + (m.length.toNat - bufferLength))
    (hat : At (placeSegments list) (words s.log).length s.device.messageWriteIndex bufferLength)
    (hsettled : Settled list byte₀ s) (hsession : Session p list s) :
    wp (system H) (Guard p list byte₀)
      (issue p bufferLength buffer needRestart transactionLimit receiveLimit)
      (fun r s' =>
        r.2.1 ≤ m.length.toNat
          ∧ (¬ m.IsRead → r.1 = m.buffer + (m.length.toNat - r.2.1))
          ∧ At (placeSegments list) (words s'.log).length s.device.messageWriteIndex r.2.1
          ∧ Settled list byte₀ s'
          ∧ Session p list s'
          ∧ ∃ o, s'.device = { s.device with receiveOutstanding := o })
      s := by
  induction bufferLength generalizing s buffer needRestart transactionLimit receiveLimit with
  | zero =>
    unfold issue
    apply wp_done
    intro hw _
    exact ⟨hle, hbuffer, hat, hsettled, hsession, _, rfl⟩
  | succ left ih =>
    unfold issue
    split
    . have hsession' := hsession
      rcases hsession' with ⟨hlive, hpreparing, hmessages, hnumber, hmessage⟩
      rcases List.getElem?_eq_some_iff.mp hm with ⟨hlt, _⟩
      have hleft : left < m.length.toNat := by omega
      have hindex : s.device.messageWriteIndex ≠ s.device.messageNumber := by omega
      have hplace := getElem?_places hm hgood hat hleft
      have hsucc := hat.succ (getElem?_placeSegments hm hgood) (by simpa using hleft)
      apply wp_device
      apply wp_message
      . intro hw _
        exact ⟨hlive, hpreparing, hmessages, hnumber, rfl, fun _ => hlt⟩
      . rw [hmessage _ _ hm]
        split
        . next hread =>
          -- a read command, unless the receive FIFO has no room for its byte
          split
          . apply wp_done
            intro hw _
            exact ⟨hle, hbuffer, hat, hsettled, hsession, _, rfl⟩
          . apply wp_writeRegister
            intro hw _
            refine ⟨⟨hsettled, ?_⟩, ?_⟩
            . intro _
              refine ⟨_, hplace, ?_⟩
              apply command_or_eq_word
              . decide
              . apply if_pos hread
              . simp
                omega
            . apply wp_update
              apply wp_post
              . apply ih
                . apply hm
                . apply hgood
                . omega
                . intro h
                  contradiction
                . simpa using hsucc
                . apply hsettled.sendRead hindex
                  apply isRead_command_or_read
                . apply hsession
              . rintro r s' ⟨hle', hbuffer', hat', hsettled', hsession', o, ho⟩
                exact ⟨hle', hbuffer', hat', hsettled', hsession', o, ho⟩
        . next hread =>
          -- the next byte of the buffer
          apply wp_load
          . intro _ _
            refine ⟨hsession, m, List.mem_of_getElem? hm, hread, ?_⟩
            rw [hbuffer hread]
            apply m.mem_addresses
            omega
          apply wp_writeRegister
          intro hw _
          refine ⟨⟨hsettled, ?_⟩, ?_⟩
          . intro _
            refine ⟨_, hplace, ?_⟩
            apply command_or_eq_word
            . apply setWidth_and_restart
            . rw [if_neg hread, hbuffer hread]
            . simp
              omega
          . apply wp_post
            . apply ih
              . apply hm
              . apply hgood
              . omega
              . intro _
                rw [hbuffer hread]
                apply add_sub_succ_add_one hleft
              . simpa using hsucc
              . apply hsettled.sendByte hindex
                apply isRead_command_or_byte
              . apply hsession
            . rintro r s' ⟨hle', hbuffer', hat', hsettled', hsession', o, ho⟩
              exact ⟨hle', hbuffer', hat', hsettled', hsession', o, ho⟩
    . apply wp_done
      intro hw _
      exact ⟨hle, hbuffer, hat, hsettled, hsession, _, rfl⟩

end transferMessageToBus

theorem WriteSide.complete (h : WriteSide list d (words log).length)
    (hnumber : d.messageNumber = list.length) : Complete list d log := by
  intro hindex _
  rcases h with ⟨_, _, h⟩
  rw [hnumber] at hindex
  split at h
  . rcases h with ⟨m, hm, _⟩
    rw [hindex] at hm
    simp at hm
  . apply h.finished
    have : (placeSegments list).length ≤ list.length := length_placeSegments_le
    omega

theorem WriteSide.at (h : WriteSide list d n) (hm : list[d.messageWriteIndex]? = some m)
    (hgood : GoodBefore list (d.messageWriteIndex + 1)) {length bufferLength : Nat}
    {buffer buffer' : Address}
    (hprogress : d.WriteInProgress →
      buffer = d.transactionBuffer ∧ bufferLength = d.transactionBufferLength)
    (hlength : length = if ¬ d.WriteInProgress then m.length.toNat else bufferLength)
    (hbuffer : buffer' = if ¬ d.WriteInProgress then m.buffer else buffer) :
    length ≤ m.length.toNat
      ∧ (¬ m.IsRead → buffer' = m.buffer + (m.length.toNat - length))
      ∧ At (placeSegments list) n d.messageWriteIndex length := by
  rcases h with ⟨_, _, h⟩
  by_cases hwip : d.WriteInProgress
  . rw [if_pos hwip] at h
    rcases h with ⟨m', hm', _, _, hle, hbuffer', hat⟩
    rw [hm] at hm'
    injection hm' with hm'
    subst hm'
    rw [if_neg (not_not_intro hwip)] at hlength hbuffer
    rcases hprogress hwip with ⟨heq, heq'⟩
    rw [hlength, hbuffer, heq, heq']
    exact ⟨hle, hbuffer', hat⟩
  . rw [if_neg hwip] at h
    rw [if_pos hwip] at hlength hbuffer
    have := h.at (getElem?_placeSegments hm hgood)
    rw [hlength, hbuffer]
    refine ⟨Nat.le_refl _, ?_, ?_⟩
    . simp
    . simpa using this

theorem WriteSide.stop {buffer : Address} (hm : list[d.messageWriteIndex]? = some m)
    (hgood : GoodBefore list (d.messageWriteIndex + 1)) (hleft : 0 < left)
    (hle : left ≤ m.length.toNat)
    (hbuffer : ¬ m.IsRead → buffer = m.buffer + (m.length.toNat - left))
    (hat : At (placeSegments list) n d.messageWriteIndex left) :
    WriteSide list
      { d with
        transactionBuffer := buffer
        transactionBufferLength := left
        status := d.status ||| statusWriteInProgress } n := by
  rcases List.getElem?_eq_some_iff.mp hm with ⟨hlt, _⟩
  unfold WriteSide BusDevice.WriteInProgress
  simp only [or_write_and_write]
  refine ⟨Nat.le_of_lt hlt, ?_, ?_⟩
  . intro j m' m₀ hj
    apply hgood j m' m₀
    omega
  . rw [if_pos (by decide)]
    exact ⟨m, hm, hgood, hleft, hle, hbuffer, hat⟩

theorem WriteSide.advance (buffer : Address) (bufferLength : Nat)
    (hm : list[d.messageWriteIndex]? = some m)
    (hgood : GoodBefore list (d.messageWriteIndex + 1))
    (hat : At (placeSegments list) n d.messageWriteIndex 0) :
    WriteSide list
      { d with
        transactionBuffer := buffer
        transactionBufferLength := bufferLength
        status := d.status &&& ~~~statusWriteInProgress
        messageWriteIndex := d.messageWriteIndex + 1 } n := by
  rcases List.getElem?_eq_some_iff.mp hm with ⟨hlt, _⟩
  unfold WriteSide BusDevice.WriteInProgress
  simp only [and_not_write_and_write]
  refine ⟨hlt, hgood, ?_⟩
  rw [if_neg (by decide)]
  apply hat.before_succ (getElem?_placeSegments hm hgood)

theorem WriteSide.address_eq {m₀ : BusMessage} {message : Nat → BusMessage}
    (h : WriteSide list d n) (hm₀ : list[0]? = some m₀)
    (hbegun : d.messageWriteIndex = 0 ∨ d.WriteInProgress)
    (hmessage : ∀ i m, list[i]? = some m → message i = m) :
    m₀.address = (message d.messageWriteIndex).address := by
  cases hbegun with
  | inl hzero => rw [hzero, hmessage 0 m₀ hm₀]
  | inr hprogress =>
    rcases h with ⟨_, _, h⟩
    rw [if_pos hprogress] at h
    rcases h with ⟨m, hm, hgood, _⟩
    rw [hmessage _ m hm]
    apply (hgood _ m m₀ (Nat.lt_succ_self _) hm hm₀).2.symm

theorem maskFits (hstopped : d.messageError = 0 →
      d.messageWriteIndex = d.messageNumber ∨ d.WriteInProgress) :
    MaskFits d
      (if d.messageError ≠ 0 then 0
      else if d.messageWriteIndex = d.messageNumber then intrDefaultMask &&& ~~~intrTxEmpty
      else intrDefaultMask) := by
  unfold MaskFits
  by_cases herror : d.messageError = 0
  . simp only [herror, ne_eq, not_true_eq_false, if_false]
    by_cases hindex : d.messageWriteIndex = d.messageNumber
    . simp [hindex]
    . have := hstopped herror
      simp only [hindex, if_false, false_or] at this ⊢
      exact ⟨trivial, .inr this⟩
  . simp [herror]

namespace transferMessageToBus

theorem wp_go {iterations : Nat} {address : BitVec 16} {buffer : Address} {bufferLength : Nat}
    {needRestart : Bool} (haddress : ∀ m₀, list[0]? = some m₀ → m₀.address = address)
    (hiterations : s.device.messageNumber - s.device.messageWriteIndex ≤ iterations)
    (hprogress : s.device.WriteInProgress →
      buffer = s.device.transactionBuffer ∧ bufferLength = s.device.transactionBufferLength)
    (hside : WriteSide list s.device (words s.log).length)
    (hsettled : Settled list byte₀ s) (hsession : Session p list s) :
    wp (system H) (Guard p list byte₀) (go p address iterations buffer bufferLength needRestart)
      (fun _ s' =>
        WriteSide list s'.device (words s'.log).length
          ∧ Settled list byte₀ s'
          ∧ Session p list s'
          ∧ (s'.device.messageError = 0 →
              s'.device.messageWriteIndex = s'.device.messageNumber ∨ s'.device.WriteInProgress))
      s := by
  induction iterations generalizing s buffer bufferLength needRestart with
  | zero =>
    rcases hsession with ⟨hlive, hpreparing, hmessages, hnumber, hmessage⟩
    unfold go
    apply wp_done
    intro hw _
    refine ⟨hside, hsettled, ⟨hlive, hpreparing, hmessages, hnumber, hmessage⟩, ?_⟩
    intro _
    have := hside.1
    left
    simp only
    omega
  | succ iterations ih =>
    have hsession' := hsession
    rcases hsession' with ⟨hlive, hpreparing, hmessages, hnumber, hmessage⟩
    unfold go
    apply wp_device
    split
    . next hlt =>
      rw [hnumber] at hlt
      have hm := List.getElem?_eq_getElem hlt
      generalize list[s.device.messageWriteIndex] = m at hm
      apply wp_message
      . intro hw _
        exact ⟨hlive, hpreparing, hmessages, hnumber, rfl, fun _ => hlt⟩
      . rw [hmessage _ _ hm]
        -- the message has no bytes or another address than the first one
        have hfail : wp (system H) (Guard p list byte₀)
            (update fun d => { d with messageError := -1 })
            (fun _ s' =>
              WriteSide list s'.device (words s'.log).length
                ∧ Settled list byte₀ s'
                ∧ Session p list s'
                ∧ (s'.device.messageError = 0 →
                    s'.device.messageWriteIndex = s'.device.messageNumber
                      ∨ s'.device.WriteInProgress)) s := by
          apply wp_tail
          apply wp_update
          apply wp_done
          intro hw _
          rcases hsettled with ⟨hstored, _, houtstanding⟩
          refine ⟨hside, ⟨hstored, ?_, houtstanding⟩, hsession, ?_⟩
          . intro _ h
            contradiction
          . intro h
            contradiction
        split
        . apply hfail
        . next hsame =>
          split
          . apply hfail
          . next hlength =>
            rw [Decidable.not_not] at hsame
            have hgood : GoodBefore list (s.device.messageWriteIndex + 1) := by
              rcases List.getElem?_eq_some_iff.mp hm with ⟨hlt, _⟩
              have hm₀ := List.getElem?_eq_getElem (Nat.zero_lt_of_lt hlt)
              apply hside.2.1.succ hm hm₀
              refine ⟨hlength, ?_⟩
              rw [haddress _ hm₀, hsame]
            rcases hside.at hm hgood hprogress rfl rfl with ⟨hle, hbuffer, hat⟩
            apply wp_readRegister
            intro hw _
            refine ⟨⟨hsettled, by intro h; contradiction⟩, ?_⟩
            intro txflr _
            apply wp_readRegister
            intro hw _
            refine ⟨⟨hsettled.read (by simp), by intro h; contradiction⟩, ?_⟩
            intro rxflr _
            rw [wp_bind]
            apply wp_post
            . apply wp_issue
              . apply hm
              . apply hgood
              . apply hle
              . apply hbuffer
              . simpa using hat
              . apply Settled.read
                . apply hsettled.read
                  simp
                . simp
              . apply hsession
            . rintro ⟨buffer', left, needRestart'⟩ s'
                ⟨hle', hbuffer', hat', hsettled', hsession', o, ho⟩
              have hindex : s'.device.messageWriteIndex = s.device.messageWriteIndex := by rw [ho]
              have hnumber' : s'.device.messageNumber = s.device.messageNumber := by rw [ho]
              have hm' := hm
              dsimp only at hle' hbuffer' hat' ⊢
              rw [← hindex] at hm' hgood hat'
              apply wp_update
              apply wp_update
              split
              . next hleft =>
                -- a FIFO was full before the end of the message
                apply wp_tail
                apply wp_update
                apply wp_done
                intro hw _
                refine ⟨?_, hsettled', hsession', ?_⟩
                . apply WriteSide.stop hm' hgood hleft hle' hbuffer' hat'
                . intro _
                  right
                  simp
              . next hleft =>
                -- the whole message was sent
                have hzero : left = 0 := by omega
                subst hzero
                have hside' := WriteSide.advance buffer' 0 hm' hgood hat'
                apply wp_update
                apply wp_update
                apply ih
                . simp only
                  omega
                . simp
                . apply hside'
                . rcases hsettled' with ⟨hstored', _, houtstanding'⟩
                  refine ⟨hstored', ?_, houtstanding'⟩
                  apply hside'.complete
                  apply hsession'.2.2.2.1
                . apply hsession'
    . next hge =>
      apply wp_done
      intro hw _
      refine ⟨hside, hsettled, hsession, ?_⟩
      intro _
      have := hside.1
      left
      simp only
      omega

end transferMessageToBus

theorem wp_transferMessageToBus [RegisterFile H]
    (hindex : list ≠ [] → s.device.messageWriteIndex < list.length)
    (hbegun : s.device.messageWriteIndex = 0 ∨ s.device.WriteInProgress)
    (hside : WriteSide list s.device (words s.log).length)
    (hsettled : Settled list byte₀ s) (hsession : Session p list s) :
    wp (system H) (Guard p list byte₀) transferMessageToBus
      (fun _ s' =>
        WriteSide list s'.device (words s'.log).length
          ∧ Settled list byte₀ s'
          ∧ Session p list s'
          ∧ MaskFits s'.device (RegisterFile.value s'.hw .intrMask))
      s := by
  have hsession' := hsession
  rcases hsession' with ⟨hlive, hpreparing, hmessages, hnumber, hmessage⟩
  unfold transferMessageToBus
  apply wp_reach
  . intro hw _
    exact ⟨hlive, hpreparing, hmessages⟩
  . apply wp_device
    have : (State.next (.reach .transferMessageToBus) s ()).device = s.device := rfl
    simp only [this, hmessages]
    apply wp_message
    . intro hw _
      exact ⟨hlive, hpreparing, hmessages, hnumber, rfl, hindex⟩
    . rw [wp_bind]
      apply wp_post
      . apply transferMessageToBus.wp_go
        . intro m₀ hm₀
          apply hside.address_eq hm₀ hbegun hmessage
        . apply Nat.le_refl
        . intro _
          exact ⟨rfl, rfl⟩
        . apply hside
        . apply hsettled
        . apply hsession
      . rintro _ s' ⟨hside', hsettled', hsession', hstopped⟩
        apply wp_device
        apply wp_tail
        apply wp_writeRegister
        intro hw _
        refine ⟨⟨hsettled', by intro h; contradiction⟩, ?_⟩
        apply wp_done
        intro hw' hsteps
        refine ⟨?_, ?_, hsession', ?_⟩
        . simpa using hside'
        . apply hsettled'.write
          simp
        . simp only [RegisterFile.value_steps hsteps (by rfl : Register.intrMask.Holds),
            RegisterFile.value_write_self (by rfl : Register.intrMask.Holds)]
          apply maskFits hstopped

def WriteUpdate (d d' : BusDevice) : Prop :=
  ∃ o st l b i e,
    d' = { d with
      receiveOutstanding := o
      status := st
      transactionBufferLength := l
      transactionBuffer := b
      messageWriteIndex := i
      messageError := e }
    ∧ st &&& statusReadInProgress = d.status &&& statusReadInProgress

def TransferMessageToBusOp (op : Op) : Prop :=
  match op with
  | .readRegister reg => reg = .txflr ∨ reg = .rxflr
  | .writeRegister _ reg => reg = .dataCmd ∨ reg = .intrMask
  | .update f => ∀ d, WriteUpdate d (f d)
  | .device | .message _ _ | .load _ | .reach .transferMessageToBus => True
  | _ => False

theorem transferMessageToBus.performs_issue (messages : Pointer) (bufferLength : Nat)
    (buffer : Address) (needRestart : Bool) (transactionLimit receiveLimit : Int) :
    (issue messages bufferLength buffer needRestart transactionLimit receiveLimit).Performs
      TransferMessageToBusOp := by
  induction bufferLength generalizing buffer needRestart transactionLimit receiveLimit with
  | zero =>
    unfold issue
    simp
  | succ bufferLength ih =>
    unfold issue
    split
    . simp only [performs_device_bind, performs_message_bind]
      refine ⟨trivial, fun d => ⟨trivial, fun m => ?_⟩⟩
      split
      . split
        . simp
        . simp [TransferMessageToBusOp, WriteUpdate, ih]
      . simp [TransferMessageToBusOp, ih]
    . simp

theorem transferMessageToBus.performs_go (messages : Pointer) (address : BitVec 16)
    (iterations : Nat) (buffer : Address) (bufferLength : Nat) (needRestart : Bool) :
    (go messages address iterations buffer bufferLength needRestart).Performs
      TransferMessageToBusOp := by
  induction iterations generalizing buffer bufferLength needRestart with
  | zero =>
    unfold go
    simp
  | succ iterations ih =>
    unfold go
    simp only [performs_device_bind]
    refine ⟨trivial, fun d => ?_⟩
    split
    . simp only [performs_message_bind]
      refine ⟨trivial, fun m => ?_⟩
      split
      . simp [TransferMessageToBusOp, WriteUpdate]
      . split
        . simp [TransferMessageToBusOp, WriteUpdate]
        . simp only [performs_readRegister_bind]
          refine ⟨.inl rfl, fun txflr => ⟨.inr rfl, fun rxflr => ?_⟩⟩
          apply Prog.performs_bind
          . apply performs_issue
          . rintro ⟨buffer, bufferLength, needRestart⟩
            dsimp only
            split
            . simp [TransferMessageToBusOp, WriteUpdate]
            . simp [TransferMessageToBusOp, WriteUpdate, ih]
    . simp

theorem performs_transferMessageToBus :
    transferMessageToBus.Performs TransferMessageToBusOp := by
  unfold transferMessageToBus
  simp only [performs_reach_bind, performs_device_bind, performs_message_bind]
  refine ⟨trivial, trivial, fun d => ⟨trivial, fun m => ?_⟩⟩
  apply Prog.performs_bind
  . apply transferMessageToBus.performs_go
  . intro _
    simp [TransferMessageToBusOp]

end VoodooI2C
