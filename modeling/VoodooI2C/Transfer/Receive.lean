import VoodooI2C.Transfer.Invariant
import VoodooI2C.Driver.Impl.Handler
import VoodooI2C.Driver.Lemmas.Bits
import VoodooI2C.Driver.Lemmas.Performs

/-!
This module contains the verification of `readFromBus`.
-/

namespace VoodooI2C

open Interaction Segments

variable {H : Hardware} {p : Pointer} {list : List BusMessage} {byte₀ byte : Address → Byte}
  {m : BusMessage} {s : State H} {log : List Event} {i left : Nat}

theorem Stored.pop {a : Address} (v : Word) (h : Stored list byte₀ byte log)
    (ha : (readAddresses list)[(pops log).length]? = some a) :
    Stored list byte₀ (Function.update byte a (v.setWidth 8))
      (log ++ [.read .dataCmd v] ++ [.store a (v.setWidth 8)]) := by
  rcases h with ⟨hbyte, hstores, hle⟩
  rcases List.getElem?_eq_some_iff.mp ha with ⟨hlt, _⟩
  unfold Stored
  simp only [List.append_assoc, List.singleton_append, stores_append, stores_read, stores_store,
    stores_nil, pops_append, pops_read_dataCmd, pops_store, pops_nil, List.length_append,
    List.length_singleton]
  refine ⟨?_, ?_, ?_⟩
  . rw [applyStores_concat, hbyte]
  . rw [zip_concat _ ha, hstores]
  . omega

theorem Settled.pop {a : Address} {hw : H.State} (v : Word) (h : Settled list byte₀ s)
    (ha : (readAddresses list)[(pops s.log).length]? = some a) :
    Settled list byte₀
      { s with
        device := { s.device with receiveOutstanding := s.device.receiveOutstanding - 1 }
        memory := { s.memory with byte := Function.update s.memory.byte a (v.setWidth 8) }
        log := s.log ++ [.read .dataCmd v] ++ [.store a (v.setWidth 8)]
        hw := hw } := by
  rcases h with ⟨hstored, hcomplete, houtstanding⟩
  refine ⟨hstored.pop v ha, ?_, ?_⟩
  . unfold Complete at *
    simpa using hcomplete
  . intro herror
    have := houtstanding herror
    unfold Outstanding at *
    simp
    omega

theorem getElem?_readAddresses (hm : list[i]? = some m) (hread : m.IsRead)
    (hat : At (readSegments list) (pops log).length i (left + 1)) (hleft : left < m.length.toNat) :
    (readAddresses list)[(pops log).length]?
      = some (m.buffer + (m.length.toNat - (left + 1))) := by
  have hseg := getElem?_readSegments hm
  rw [if_pos hread] at hseg
  have := hat.getElem? hseg (by simpa using hleft)
  unfold readAddresses
  simpa using this

namespace readFromBus

theorem wp_collect {length : Nat} {buffer : Address} {receiveValid : Int}
    (hm : list[i]? = some m) (hread : m.IsRead) (hle : length ≤ m.length.toNat)
    (hbuffer : buffer = m.buffer + (m.length.toNat - length))
    (hat : At (readSegments list) (pops s.log).length i length)
    (hsettled : Settled list byte₀ s) (hsession : Session p list s) :
    wp (system H) (Guard p list byte₀) (collect length buffer receiveValid)
      (fun r s' =>
        r.1 ≤ m.length.toNat
          ∧ r.2 = m.buffer + (m.length.toNat - r.1)
          ∧ At (readSegments list) (pops s'.log).length i r.1
          ∧ Settled list byte₀ s'
          ∧ Session p list s'
          ∧ ∃ o, s'.device = { s.device with receiveOutstanding := o })
      s := by
  induction length generalizing s buffer receiveValid with
  | zero =>
    unfold collect
    apply wp_done
    intro hw _
    exact ⟨hle, hbuffer, hat, hsettled, hsession, _, rfl⟩
  | succ left ih =>
    unfold collect
    split
    . have hleft : left < m.length.toNat := by omega
      have ha := getElem?_readAddresses hm hread hat hleft
      have hseg := getElem?_readSegments hm
      rw [if_pos hread] at hseg
      rw [← hbuffer] at ha
      apply wp_readRegister
      intro hw _
      refine ⟨⟨hsettled, ?_⟩, ?_⟩
      . intro _
        apply hat.lt hseg
        simpa using hleft
      . intro v _
        apply wp_store
        . intro _ _
          refine ⟨hsession, m, List.mem_of_getElem? hm, hread, ?_⟩
          rw [hbuffer]
          apply m.mem_addresses
          omega
        apply wp_update
        apply wp_post
        . apply ih
          . omega
          . rw [hbuffer]
            apply add_sub_succ_add_one hleft
          . have := hat.succ hseg (by simpa using hleft)
            simpa using this
          . apply hsettled.pop v ha
          . apply hsession
        . rintro r s' ⟨hle', hbuffer', hat', hsettled', hsession', o, ho⟩
          exact ⟨hle', hbuffer', hat', hsettled', hsession', o, ho⟩
    . apply wp_done
      intro hw _
      exact ⟨hle, hbuffer, hat, hsettled, hsession, _, rfl⟩

end readFromBus

variable {d : BusDevice} {n : Nat}

theorem ReadSide.skip (h : ReadSide list d n) (hm : list[d.messageReadIndex]? = some m)
    (hread : ¬ m.IsRead) : ReadSide list { d with messageReadIndex := d.messageReadIndex + 1 } n := by
  rcases List.getElem?_eq_some_iff.mp hm with ⟨hlt, _⟩
  rcases h with ⟨_, h⟩
  unfold ReadSide
  refine ⟨hlt, ?_⟩
  by_cases hprogress : d.ReadInProgress
  . rw [if_pos hprogress] at h
    rcases h with ⟨m', hm', hread', _⟩
    rw [hm] at hm'
    injection hm' with hm'
    subst hm'
    contradiction
  . rw [if_neg hprogress] at h
    rw [if_neg hprogress]
    have hseg := getElem?_readSegments hm
    rw [if_neg hread] at hseg
    apply h.skip hseg

theorem ReadSide.at (h : ReadSide list d n) (hm : list[d.messageReadIndex]? = some m)
    (hread : m.IsRead) {length : Nat} {buffer : Address}
    (hlength : length = if ¬ d.ReadInProgress then m.length.toNat else d.receiveBufferLength)
    (hbuffer : buffer = if ¬ d.ReadInProgress then m.buffer else d.receiveBuffer) :
    length ≤ m.length.toNat
      ∧ buffer = m.buffer + (m.length.toNat - length)
      ∧ At (readSegments list) n d.messageReadIndex length := by
  rcases h with ⟨_, h⟩
  by_cases hprogress : d.ReadInProgress
  . rw [if_pos hprogress] at h
    rcases h with ⟨m', hm', _, _, hle, hbuffer', hat⟩
    rw [hm] at hm'
    injection hm' with hm'
    subst hm'
    rw [if_neg (not_not_intro hprogress)] at hlength hbuffer
    rw [hlength, hbuffer]
    exact ⟨hle, hbuffer', hat⟩
  . rw [if_neg hprogress] at h
    rw [if_pos hprogress] at hlength hbuffer
    have hseg := getElem?_readSegments hm
    rw [if_pos hread] at hseg
    have := h.at hseg
    rw [hlength, hbuffer]
    refine ⟨Nat.le_refl _, ?_, ?_⟩
    . simp
    . simpa using this

theorem ReadSide.stop {buffer : Address} (hm : list[d.messageReadIndex]? = some m)
    (hread : m.IsRead) (hleft : 0 < left) (hle : left ≤ m.length.toNat)
    (hbuffer : buffer = m.buffer + (m.length.toNat - left))
    (hat : At (readSegments list) n d.messageReadIndex left) :
    ReadSide list
      { d with
        status := d.status ||| statusReadInProgress
        receiveBufferLength := left
        receiveBuffer := buffer } n := by
  rcases List.getElem?_eq_some_iff.mp hm with ⟨hlt, _⟩
  unfold ReadSide BusDevice.ReadInProgress
  simp only [or_read_and_read]
  refine ⟨Nat.le_of_lt hlt, ?_⟩
  rw [if_pos (by decide)]
  exact ⟨m, hm, hread, hleft, hle, hbuffer, hat⟩

theorem ReadSide.advance (hm : list[d.messageReadIndex]? = some m)
    (hat : At (readSegments list) n d.messageReadIndex 0) :
    ReadSide list
      { d with
        status := d.status &&& ~~~statusReadInProgress
        messageReadIndex := d.messageReadIndex + 1 } n := by
  rcases List.getElem?_eq_some_iff.mp hm with ⟨hlt, _⟩
  unfold ReadSide BusDevice.ReadInProgress
  simp only [and_not_read_and_read]
  refine ⟨hlt, ?_⟩
  rw [if_neg (by decide)]
  apply hat.before_succ (getElem?_readSegments hm)

namespace readFromBus

theorem wp_go {iterations : Nat} (hside : ReadSide list s.device (pops s.log).length)
    (hsettled : Settled list byte₀ s) (hsession : Session p list s) :
    wp (system H) (Guard p list byte₀) (go p iterations)
      (fun _ s' =>
        ReadSide list s'.device (pops s'.log).length
          ∧ Settled list byte₀ s'
          ∧ Session p list s')
      s := by
  induction iterations generalizing s with
  | zero =>
    unfold go
    apply wp_done
    intro hw _
    exact ⟨hside, hsettled, hsession⟩
  | succ iterations ih =>
    have hsession' := hsession
    rcases hsession' with ⟨hlive, hpreparing, hmessages, hnumber, hmessage⟩
    unfold go
    apply wp_device
    split
    . next hlt =>
      rw [hnumber] at hlt
      have hm := List.getElem?_eq_getElem hlt
      generalize list[s.device.messageReadIndex] = m at hm
      apply wp_message
      . intro hw _
        exact ⟨hlive, hpreparing, hmessages, hnumber, rfl, fun _ => hlt⟩
      . rw [hmessage _ _ hm]
        split
        . next hread =>
          -- a message to be written is passed over
          apply wp_update
          apply ih
          . apply hside.skip hm hread
          . apply hsettled
          . apply hsession
        . next hread =>
          rw [Decidable.not_not] at hread
          rcases hside.at hm hread rfl rfl with ⟨hle, hbuffer, hat⟩
          apply wp_readRegister
          intro hw _
          refine ⟨⟨hsettled, by intro h; contradiction⟩, ?_⟩
          intro receiveValid _
          rw [wp_bind]
          apply wp_post
          . apply wp_collect hm hread hle hbuffer
            . simpa using hat
            . apply hsettled.read
              simp
            . apply hsession
          . rintro ⟨length, buffer⟩ s' ⟨hle', hbuffer', hat', hsettled', hsession', o, ho⟩
            have hindex : s'.device.messageReadIndex = s.device.messageReadIndex := by rw [ho]
            have hm' := hm
            rw [← hindex] at hm' hat'
            dsimp only at hle' hbuffer' hat' ⊢
            split
            . next hleft =>
              -- the receive FIFO is empty before the end of the message
              apply wp_update
              apply wp_update
              apply wp_tail
              apply wp_update
              apply wp_done
              intro hw _
              refine ⟨?_, hsettled', hsession'⟩
              apply ReadSide.stop hm' hread hleft hle' hbuffer' hat'
            . next hleft =>
              -- the whole message was received
              have hzero : length = 0 := by omega
              subst hzero
              apply wp_update
              apply wp_update
              apply ih
              . apply ReadSide.advance hm' hat'
              . apply hsettled'
              . apply hsession'
    . apply wp_done
      intro hw _
      exact ⟨hside, hsettled, hsession⟩

end readFromBus

theorem wp_readFromBus (hside : ReadSide list s.device (pops s.log).length)
    (hsettled : Settled list byte₀ s) (hsession : Session p list s) :
    wp (system H) (Guard p list byte₀) readFromBus
      (fun _ s' =>
        ReadSide list s'.device (pops s'.log).length
          ∧ Settled list byte₀ s'
          ∧ Session p list s')
      s := by
  have hsession' := hsession
  rcases hsession' with ⟨hlive, hpreparing, hmessages, _, _⟩
  unfold readFromBus
  apply wp_reach
  . intro hw _
    exact ⟨hlive, hpreparing, hmessages⟩
  . apply wp_device
    have : (State.next (.reach .readFromBus) s ()).device.messages = p := hmessages
    rw [this]
    apply readFromBus.wp_go hside hsettled hsession

def ReadUpdate (d d' : BusDevice) : Prop :=
  ∃ o st l b i,
    d' = { d with
      receiveOutstanding := o
      status := st
      receiveBufferLength := l
      receiveBuffer := b
      messageReadIndex := i }
    ∧ st &&& statusWriteInProgress = d.status &&& statusWriteInProgress

def ReadFromBusOp (op : Op) : Prop :=
  match op with
  | .readRegister reg => reg = .rxflr ∨ reg = .dataCmd
  | .update f => ∀ d, ReadUpdate d (f d)
  | .device | .message _ _ | .store _ _ | .reach .readFromBus => True
  | _ => False

theorem readFromBus.performs_collect (length : Nat) (buffer : Address) (receiveValid : Int) :
    (collect length buffer receiveValid).Performs ReadFromBusOp := by
  induction length generalizing buffer receiveValid with
  | zero =>
    unfold collect
    simp
  | succ length ih =>
    unfold collect
    split
    . simp [ReadFromBusOp, ReadUpdate, ih]
    . simp

theorem readFromBus.performs_go (messages : Pointer) (iterations : Nat) :
    (go messages iterations).Performs ReadFromBusOp := by
  induction iterations with
  | zero =>
    unfold go
    simp
  | succ iterations ih =>
    unfold go
    simp only [performs_device_bind]
    refine ⟨trivial, fun d => ?_⟩
    split
    . simp only [performs_message_bind]
      refine ⟨trivial, fun m => ?_⟩
      split
      . simp [ReadFromBusOp, ReadUpdate, ih]
      . simp only [performs_readRegister_bind]
        refine ⟨.inl rfl, fun receiveValid => ?_⟩
        apply Prog.performs_bind
        . apply performs_collect
        . rintro ⟨length, buffer⟩
          dsimp only
          split
          . simp [ReadFromBusOp, ReadUpdate]
          . simp [ReadFromBusOp, ReadUpdate, ih]
    . simp

theorem performs_readFromBus : readFromBus.Performs ReadFromBusOp := by
  unfold readFromBus
  simp only [performs_reach_bind, performs_device_bind]
  refine ⟨trivial, trivial, fun d => ?_⟩
  apply readFromBus.performs_go

end VoodooI2C
