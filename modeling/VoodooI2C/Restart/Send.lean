import VoodooI2C.Restart.Basic

/-!
This module contains the verification of the restart bits that `transferMessageToBus` writes.
-/

namespace VoodooI2C

open Interaction

variable {H : Hardware} {list : List BusMessage} {m : BusMessage} {s : State H} {d₀ d : BusDevice}
  {log : List Event} {e : Event} {i left : Nat} {p : Pointer}

/--
The next word is the first one of a message after the first one, and whenever the levels were read
for it there was room.
-/
def RestartsAt (d₀ : BusDevice) (list : List BusMessage) (log : List Event) : Prop :=
  ∃ i, 0 < i ∧ i < list.length ∧ (words log).length = firstWord list i ∧ RoomAt d₀ list i log

def RestartGuard (d₀ : BusDevice) (list : List BusMessage) (op : Op) (s : State H) : Prop :=
  match op with
  | .writeRegister v .dataCmd => v &&& 0x400 ≠ 0 ↔ RestartsAt d₀ list s.log
  | _ => True

instance : Lenient (RestartGuard (H := H) d₀ list) where
  device _ := trivial
  update _ _ := trivial
  commandWakeup _ := trivial

structure Writing (list : List BusMessage) (i : Nat) (m : BusMessage) (left : Nat)
    (log : List Event) : Prop where
  message : list[i]? = some m
  le : left ≤ m.length.toNat
  count : (words log).length + left = firstWord list (i + 1)
  fresh : left = 0 → Fresh log
  closed : Closed log

/--
`needRestart` is only set for the first word of a message after the first one. `room` is what the
limits of the loop say about this word.
-/
structure Flag (d₀ : BusDevice) (list : List BusMessage) (i : Nat) (m : BusMessage) (left : Nat)
    (log : List Event) (needRestart : Bool) (room : Prop) : Prop where
  begins : needRestart = true → 0 < left ∧ left = m.length.toNat ∧ 0 < i
  set : left = m.length.toNat → 0 < i →
    if needRestart then RoomAt d₀ list i log ↔ room else ¬ RoomAt d₀ list i log

theorem Writing.first (h : Writing list i m left log) (hleft : left = m.length.toNat) :
    (words log).length = firstWord list i := by
  have := h.count
  have := firstWord_succ h.message
  omega

theorem Writing.append (h : Writing list i m left log) (he : words [e] = [])
    (he' : ∀ v, e ≠ .read .txflr v) : Writing list i m left (log ++ [e]) where
  message := h.message
  le := h.le
  count := by
    rw [words_append, he, List.append_nil]
    apply h.count
  fresh hzero := (h.fresh hzero).concat h.closed
  closed := Closed.concat he'

theorem Writing.write (v : Word) (h : Writing list i m (left + 1) log) :
    Writing list i m left (log ++ [.write v .dataCmd]) where
  message := h.message
  le := by
    have := h.le
    omega
  count := by
    have := h.count
    rw [words_append, words_write_dataCmd, words_nil, List.length_append, List.length_singleton]
    omega
  fresh _ := Fresh.write v
  closed := Closed.concat (by simp)

theorem Outstanding.write {v : Word} {read : Bool} {o : Int} (h : Outstanding d log)
    (hv : isRead v = read) (ho : d.receiveOutstanding + (if read then 1 else 0) = o) :
    Outstanding { d with receiveOutstanding := o } (log ++ [.write v .dataCmd]) := by
  unfold Outstanding readCommands at *
  rw [words_append, words_write_dataCmd, words_nil, pops_append, pops_write, pops_nil,
    List.append_nil, List.countP_append, List.countP_singleton, hv, ← ho]
  cases read <;> simp <;> omega

theorem Flag.written {v : Word} {room : Prop} (hleft : left < m.length.toNat) :
    Flag d₀ list i m left (log ++ [.write v .dataCmd]) false room where
  begins h := by contradiction
  set h := by omega

theorem Flag.iff {needRestart : Bool} {room : Prop} (hlist : ∀ m ∈ list, m.length ≠ 0)
    (h : Writing list i m (left + 1) log)
    (hflag : Flag d₀ list i m (left + 1) log needRestart room) (hroom : room) :
    needRestart = true ↔ RestartsAt d₀ list log := by
  rcases List.getElem?_eq_some_iff.mp h.message with ⟨hlt, _⟩
  constructor
  . intro hneed
    rcases hflag.begins hneed with ⟨_, hstart, hi⟩
    have hset := hflag.set hstart hi
    rw [if_pos hneed] at hset
    exact ⟨i, hi, hlt, h.first hstart, hset.mpr hroom⟩
  . rintro ⟨j, hj, hjlt, hn, hroomAt⟩
    by_cases hstart : left + 1 = m.length.toNat
    . obtain rfl : i = j := by
        apply firstWord_inj hlist hlt hjlt
        rw [← h.first hstart, hn]
      have hset := hflag.set hstart hj
      by_contra hneed
      rw [if_neg hneed] at hset
      exact hset hroomAt
    . exfalso
      have hle := h.le
      have hcount := h.count
      have hsucc := firstWord_succ h.message
      exact not_startsMessage (i := i) (by omega) (by omega) j hn

theorem Flag.lost {needRestart : Bool} {room : Prop}
    (hflag : Flag d₀ list i m left log needRestart room) (hroom : ¬ room)
    (hstart : left = m.length.toNat) (hi : 0 < i) : ¬ RoomAt d₀ list i log := by
  have hset := hflag.set hstart hi
  split at hset
  . rw [hset]
    apply hroom
  . apply hset

namespace transferMessageToBus

theorem command_and_restart {last : Prop} [Decidable last] {needRestart : Bool} {w : Word}
    (hw : w &&& 0x400 = 0) :
    (command last (needRestart = true) ||| w) &&& 0x400 ≠ 0 ↔ needRestart = true := by
  rw [BitVec.and_or_distrib_right, hw]
  unfold command
  by_cases hlast : last <;> cases needRestart <;> simp [hlast]

abbrev Room (m : BusMessage) (d : BusDevice) (transactionLimit receiveLimit : Int) : Prop :=
  0 < transactionLimit ∧ 0 < receiveLimit ∧ (m.IsRead → d.receiveOutstanding < receiveLimit)

theorem wp_issue_restart {buffer : Address} {needRestart : Bool}
    {transactionLimit receiveLimit : Int} (hlist : ∀ m ∈ list, m.length ≠ 0)
    (hmessage : ∀ i m, list[i]? = some m → s.memory.message p i = m)
    (houtstanding : Outstanding s.device s.log)
    (h : Writing list s.device.messageWriteIndex m left s.log)
    (hflag : Flag d₀ list s.device.messageWriteIndex m left s.log needRestart
      (Room m s.device transactionLimit receiveLimit)) :
    wp (system H) (RestartGuard d₀ list)
      (issue p left buffer needRestart transactionLimit receiveLimit)
      (fun r s' =>
        Writing list s.device.messageWriteIndex m r.2.1 s'.log
          ∧ (r.2.1 = 0 → r.2.2 = false)
          ∧ (r.2.1 = m.length.toNat → 0 < r.2.1 → 0 < s.device.messageWriteIndex →
              ¬ RoomAt d₀ list s.device.messageWriteIndex s'.log)
          ∧ s'.memory = s.memory
          ∧ Outstanding s'.device s'.log
          ∧ ∃ o, s'.device = { s.device with receiveOutstanding := o })
      s := by
  induction left generalizing s buffer needRestart transactionLimit receiveLimit with
  | zero =>
    unfold issue
    apply wp_done
    intro hw _
    refine ⟨h, ?_, ?_, rfl, houtstanding, _, rfl⟩
    . intro _
      by_contra hneed
      have := hflag.begins (by simpa using hneed)
      omega
    . intro _ hzero
      contradiction
  | succ left ih =>
    have hstop : ∀ needRestart', ¬ Room m s.device transactionLimit receiveLimit → ∀ hw,
        H.Steps s.hw hw →
        Writing list s.device.messageWriteIndex m (left + 1) s.log
          ∧ (left + 1 = 0 → needRestart' = false)
          ∧ (left + 1 = m.length.toNat → 0 < left + 1 → 0 < s.device.messageWriteIndex →
              ¬ RoomAt d₀ list s.device.messageWriteIndex s.log)
          ∧ s.memory = s.memory
          ∧ Outstanding s.device s.log
          ∧ ∃ o, s.device = { s.device with receiveOutstanding := o } := by
      intro _ hroom _ _
      refine ⟨h, by simp, ?_, rfl, houtstanding, _, rfl⟩
      intro hstart _ hi
      apply hflag.lost hroom hstart hi
    have hlt : left < m.length.toNat := h.le
    unfold issue
    split
    . next hlimits =>
      apply wp_device
      apply wp_message
      . intro _ _
        trivial
      . rw [hmessage _ _ h.message]
        split
        . next hread =>
          split
          . next hfull =>
            -- no room for the byte of the read command
            apply wp_done
            apply hstop
            intro hroom
            have := hroom.2.2 hread
            omega
          . next hfree =>
            have hroom : Room m s.device transactionLimit receiveLimit := by
              refine ⟨hlimits.1, hlimits.2, ?_⟩
              intro _
              omega
            apply wp_writeRegister
            intro hw _
            constructor
            . apply (command_and_restart (by decide)).trans
              apply hflag.iff hlist h hroom
            . apply wp_update
              apply wp_post
              . apply ih
                . apply hmessage
                . apply houtstanding.write isRead_command_or_read rfl
                . apply h.write
                . apply Flag.written hlt
              . rintro r s' ⟨hwriting', hneed', hlost', hmemory', ho', o, ho⟩
                exact ⟨hwriting', hneed', hlost', hmemory', ho', o, ho⟩
        . next hread =>
          have hroom : Room m s.device transactionLimit receiveLimit :=
            ⟨hlimits.1, hlimits.2, fun h => absurd h hread⟩
          apply wp_load fun _ _ => trivial
          apply wp_writeRegister
          intro hw _
          constructor
          . apply (command_and_restart (setWidth_and_restart _)).trans
            apply hflag.iff hlist h hroom
          . apply wp_post
            . apply ih
              . apply hmessage
              . apply houtstanding.write (isRead_command_or_byte _)
                simp
              . apply h.write
              . apply Flag.written hlt
            . rintro r s' ⟨hwriting', hneed', hlost', hmemory', ho', o, ho⟩
              exact ⟨hwriting', hneed', hlost', hmemory', ho', o, ho⟩
    . next hlimits =>
      apply wp_done
      apply hstop
      intro hroom
      exact hlimits ⟨hroom.1, hroom.2.1⟩

end transferMessageToBus

/--
How far `transferMessageToBus` got. A message after the first one that was begun without a word has
lost its restart bit.
-/
structure Progress (d₀ : BusDevice) (list : List BusMessage) (d : BusDevice) (log : List Event) :
    Prop where
  closed : Closed log
  begun : d.WriteInProgress → ∃ m,
    0 < d.transactionBufferLength
      ∧ Writing list d.messageWriteIndex m d.transactionBufferLength log
      ∧ (d.transactionBufferLength = m.length.toNat → 0 < d.messageWriteIndex →
          ¬ RoomAt d₀ list d.messageWriteIndex log)
  next : ¬ d.WriteInProgress →
    (words log).length = firstWord list d.messageWriteIndex
      ∧ (0 < d.messageWriteIndex → Fresh log)

abbrev leftOf (m : BusMessage) (d : BusDevice) (bufferLength : Nat) : Nat :=
  if ¬ d.WriteInProgress then m.length.toNat else bufferLength

namespace Progress

variable {bufferLength : Nat} {txflr rxflr : Word}

theorem leftOf_pos (h : Progress d₀ list d log) (hlength : m.length ≠ 0)
    (hprogress : d.WriteInProgress → bufferLength = d.transactionBufferLength) :
    0 < leftOf m d bufferLength := by
  unfold leftOf
  split
  . apply Nat.pos_of_ne_zero
    intro hzero
    apply hlength
    apply BitVec.eq_of_toNat_eq hzero
  . next hwip =>
    rw [Decidable.not_not] at hwip
    rcases h.begun hwip with ⟨m', hpos, _⟩
    rw [hprogress hwip]
    apply hpos

theorem writing (h : Progress d₀ list d log) (hm : list[d.messageWriteIndex]? = some m)
    (hlength : m.length ≠ 0)
    (hprogress : d.WriteInProgress → bufferLength = d.transactionBufferLength) :
    Writing list d.messageWriteIndex m (leftOf m d bufferLength)
      (log ++ [.read .txflr txflr] ++ [.read .rxflr rxflr]) where
  message := hm
  le := by
    unfold leftOf
    split
    . apply Nat.le_refl
    . next hwip =>
      rw [Decidable.not_not] at hwip
      rcases h.begun hwip with ⟨m', _, hwriting, _⟩
      rw [hprogress hwip, Option.some.inj (hm.symm.trans hwriting.message)]
      apply hwriting.le
  count := by
    simp only [words_append, words_read, words_nil, List.append_nil]
    unfold leftOf
    split
    . next hwip => rw [(h.next hwip).1, firstWord_succ hm]
    . next hwip =>
      rw [Decidable.not_not] at hwip
      rcases h.begun hwip with ⟨m', _, hwriting, _⟩
      rw [hprogress hwip]
      apply hwriting.count
  fresh hzero := by
    have := h.leftOf_pos hlength hprogress
    omega
  closed := Closed.concat (by simp)

theorem hasRoom_iff (h : Outstanding d log) (hfixed : d.fixed = d₀.fixed) :
    HasRoom d₀ m log txflr rxflr ↔
      transferMessageToBus.Room m d (d.transactionFifoDepth - txflr).toInt
        (d.receiveFifoDepth - rxflr).toInt := by
  have htransaction : d.transactionFifoDepth = d₀.transactionFifoDepth := by
    show d.fixed.transactionFifoDepth = d₀.fixed.transactionFifoDepth
    rw [hfixed]
  have hreceive : d.receiveFifoDepth = d₀.receiveFifoDepth := by
    show d.fixed.receiveFifoDepth = d₀.fixed.receiveFifoDepth
    rw [hfixed]
  unfold HasRoom transferMessageToBus.Room
  rw [htransaction, hreceive, h]

theorem flag {needRestart : Bool} (h : Progress d₀ list d log)
    (houtstanding : Outstanding d log) (hfixed : d.fixed = d₀.fixed)
    (hrestart : d₀.busConfig &&& conRestartEn ≠ 0) (hm : list[d.messageWriteIndex]? = some m)
    (hlength : m.length ≠ 0)
    (hprogress : d.WriteInProgress → bufferLength = d.transactionBufferLength)
    (hneed : needRestart =
      if ¬ d.WriteInProgress ∧ d.busConfig &&& conRestartEn ≠ 0 ∧ d.messageWriteIndex > 0 then true
      else false) :
    Flag d₀ list d.messageWriteIndex m (leftOf m d bufferLength)
      (log ++ [.read .txflr txflr] ++ [.read .rxflr rxflr]) needRestart
      (transferMessageToBus.Room m d (d.transactionFifoDepth - txflr).toInt
        (d.receiveFifoDepth - rxflr).toInt) where
  begins htrue := by
    rw [htrue] at hneed
    split at hneed
    . next hbegins =>
      refine ⟨h.leftOf_pos hlength hprogress, ?_, hbegins.2.2⟩
      unfold leftOf
      rw [if_pos hbegins.1]
    . contradiction
  set hstart hi := by
    have hconfig : d.busConfig &&& conRestartEn ≠ 0 := by
      show d.fixed.busConfig &&& conRestartEn ≠ 0
      rw [hfixed]
      apply hrestart
    rw [roomAt_look]
    by_cases hwip : d.WriteInProgress
    . rw [if_neg (fun hbegins => hbegins.1 hwip)] at hneed
      rw [hneed, if_neg (by simp)]
      rcases h.begun hwip with ⟨m', _, hwriting, hlost⟩
      intro hroom
      apply hlost _ hi hroom.1
      unfold leftOf at hstart
      rw [if_neg (not_not_intro hwip), hprogress hwip,
        Option.some.inj (hm.symm.trans hwriting.message)] at hstart
      apply hstart
    . rcases h.next hwip with ⟨hn, hfresh⟩
      rw [if_pos ⟨hwip, hconfig, hi⟩] at hneed
      rw [hneed, if_pos rfl, ← hasRoom_iff houtstanding hfixed]
      constructor
      . intro hroom
        apply hroom.2 m hm hn
      . intro hroom
        refine ⟨(hfresh hi).roomAt hn, ?_⟩
        intro m' hm' _
        rw [← Option.some.inj (hm.symm.trans hm')]
        apply hroom

theorem stop {buffer : Address} (h : Writing list d.messageWriteIndex m left log)
    (hleft : 0 < left)
    (hlost : left = m.length.toNat → 0 < left → 0 < d.messageWriteIndex →
      ¬ RoomAt d₀ list d.messageWriteIndex log) :
    Progress d₀ list
      { d with
        transactionBuffer := buffer
        transactionBufferLength := left
        status := d.status ||| statusWriteInProgress } log where
  closed := h.closed
  begun _ := ⟨m, hleft, h, fun hstart hi => hlost hstart hleft hi⟩
  next hwip := by
    exfalso
    apply hwip
    simp [BusDevice.WriteInProgress]

theorem advance {buffer : Address} (h : Writing list d.messageWriteIndex m 0 log) :
    Progress d₀ list
      { d with
        transactionBuffer := buffer
        transactionBufferLength := 0
        status := d.status &&& ~~~statusWriteInProgress
        messageWriteIndex := d.messageWriteIndex + 1 } log where
  closed := h.closed
  begun hwip := by simp [BusDevice.WriteInProgress] at hwip
  next _ := ⟨h.count, fun _ => h.fresh rfl⟩

theorem append (h : Progress d₀ list d log) (he : words [e] = [])
    (he' : ∀ v, e ≠ .read .txflr v) : Progress d₀ list d (log ++ [e]) where
  closed := Closed.concat he'
  begun hwip := by
    rcases h.begun hwip with ⟨m, hpos, hwriting, hlost⟩
    refine ⟨m, hpos, hwriting.append he he', ?_⟩
    rw [roomAt_concat (.inl h.closed)]
    apply hlost
  next hwip := by
    rcases h.next hwip with ⟨hn, hfresh⟩
    rw [words_append, he, List.append_nil]
    exact ⟨hn, fun hi => (hfresh hi).concat h.closed⟩

theorem messageError (h : Progress d₀ list d log) (e : Int) :
    Progress d₀ list { d with messageError := e } log where
  closed := h.closed
  begun := h.begun
  next := h.next

end Progress

namespace transferMessageToBus

theorem wp_go_restart {iterations : Nat} {address : BitVec 16} {buffer : Address}
    {bufferLength : Nat} (hlist : ∀ m ∈ list, m.length ≠ 0)
    (hrestart : d₀.busConfig &&& conRestartEn ≠ 0) (hfixed : s.device.fixed = d₀.fixed)
    (hnumber : s.device.messageNumber = list.length)
    (hmessage : ∀ i m, list[i]? = some m → s.memory.message p i = m)
    (hprogress : s.device.WriteInProgress → bufferLength = s.device.transactionBufferLength)
    (houtstanding : Outstanding s.device s.log) (h : Progress d₀ list s.device s.log) :
    wp (system H) (RestartGuard d₀ list) (go p address iterations buffer bufferLength false)
      (fun _ s' => Progress d₀ list s'.device s'.log) s := by
  induction iterations generalizing s buffer bufferLength with
  | zero =>
    unfold go
    apply wp_done
    intro hw _
    apply h
  | succ iterations ih =>
    unfold go
    apply wp_device
    split
    . next hlt =>
      rw [hnumber] at hlt
      have hm := List.getElem?_eq_getElem hlt
      generalize list[s.device.messageWriteIndex] = m at hm
      have hlength : m.length ≠ 0 := hlist m (List.mem_of_getElem? hm)
      apply wp_message
      . intro _ _
        trivial
      . rw [hmessage _ _ hm, if_neg hlength]
        -- `list` has no message without bytes, so the address is wrong
        have hfail : wp (system H) (RestartGuard d₀ list)
            (update fun d => { d with messageError := -1 })
            (fun _ s' => Progress d₀ list s'.device s'.log) s := by
          apply wp_tail
          apply wp_update
          apply wp_done
          intro hw _
          apply h.messageError
        split
        . apply hfail
        . apply wp_readRegister
          intro hw _
          refine ⟨trivial, ?_⟩
          intro txflr _
          apply wp_readRegister
          intro hw _
          refine ⟨trivial, ?_⟩
          intro rxflr _
          rw [wp_bind]
          apply wp_post
          . apply wp_issue_restart hlist
            . apply hmessage
            . unfold Outstanding at *
              simpa using houtstanding
            . apply h.writing hm hlength hprogress
            . apply h.flag houtstanding hfixed hrestart hm hlength hprogress rfl
          . rintro ⟨buffer', left, needRestart'⟩ s'
              ⟨hwriting, hneed, hlost, hmemory, houtstanding', o, ho⟩
            have hindex : s'.device.messageWriteIndex = s.device.messageWriteIndex := by rw [ho]
            have hfixed' : s'.device.fixed = d₀.fixed := by
              rw [ho]
              apply hfixed
            have hnumber' : s'.device.messageNumber = list.length := by
              rw [ho]
              apply hnumber
            clear ho
            dsimp only at hwriting hneed hlost hmemory ⊢
            rw [← hindex] at hwriting hlost
            apply wp_update
            apply wp_update
            split
            . next hleft =>
              -- a FIFO was full, so `needRestart` is lost
              apply wp_tail
              apply wp_update
              apply wp_done
              intro hw _
              apply Progress.stop hwriting hleft hlost
            . next hleft =>
              -- the next message needs a restart
              have hzero : left = 0 := by omega
              subst hzero
              rw [hneed rfl]
              apply wp_update
              apply wp_update
              apply ih
              . apply hfixed'
              . apply hnumber'
              . rw [hmemory]
                apply hmessage
              . intro hwip
                simp [BusDevice.WriteInProgress] at hwip
              . apply houtstanding'
              . apply Progress.advance hwriting
    . apply wp_done
      intro hw _
      apply h

end transferMessageToBus

theorem wp_transferMessageToBus_restart (hlist : ∀ m ∈ list, m.length ≠ 0)
    (hrestart : d₀.busConfig &&& conRestartEn ≠ 0) (hfixed : s.device.fixed = d₀.fixed)
    (hsession : Session p list s) (houtstanding : Outstanding s.device s.log)
    (h : Progress d₀ list s.device s.log) :
    wp (system H) (RestartGuard d₀ list) transferMessageToBus
      (fun _ s' => Progress d₀ list s'.device s'.log) s := by
  rcases hsession with ⟨_, _, hmessages, hnumber, hmessage⟩
  unfold transferMessageToBus
  apply wp_reach
  . intro _ _
    trivial
  . apply wp_device
    have : (State.next (.reach .transferMessageToBus) s ()).device = s.device := rfl
    simp only [this, hmessages]
    apply wp_message
    . intro _ _
      trivial
    . rw [wp_bind]
      apply wp_post
      . apply transferMessageToBus.wp_go_restart hlist hrestart hfixed hnumber hmessage
        . intro _
          rfl
        . apply houtstanding
        . apply h
      . intro _ s' h'
        apply wp_device
        apply wp_tail
        apply wp_writeRegister
        intro hw _
        refine ⟨trivial, ?_⟩
        apply wp_done
        intro _ _
        apply h'.append
        . simp
        . simp

end VoodooI2C
