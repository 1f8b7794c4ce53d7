import VoodooI2C.Transfer.Caller
import VoodooI2C.Transfer.Frame
import VoodooI2C.Transfer.Handler

/-!
This module contains what holds in every run of `transferI2C`, whatever the controller does and
whenever the handler runs.
-/

namespace VoodooI2C

open Interaction Segments RegisterFile

variable {H : Hardware} {p : Pointer} {list : List BusMessage} {byte₀ : Address → Byte}
  {s : State H} {log : List Event}

theorem Sent.nil : Sent list byte₀ [] := by
  intro before v after h
  simp at h

theorem Sent.concat {e : Event} (h : Sent list byte₀ log)
    (he : ∀ v, e = .write v .dataCmd → Expected list byte₀ log v) :
    Sent list byte₀ (log ++ [e]) := by
  intro before v after heq
  rcases List.eq_nil_or_concat after with rfl | ⟨after, e', rfl⟩
  . rcases List.append_inj' heq rfl with ⟨rfl, hlast⟩
    apply he
    simpa using hlast
  . rw [List.concat_eq_append, ← List.cons_append, ← List.append_assoc] at heq
    rcases List.append_inj' heq rfl with ⟨rfl, _⟩
    apply h before v after rfl

theorem Sent.silent {e : Event} (h : Sent list byte₀ log) (he : ∀ v, e ≠ .write v .dataCmd) :
    Sent list byte₀ (log ++ [e]) := by
  apply h.concat
  intro v heq
  exact absurd heq (he v)

theorem Preparatory.silent (h : Preparatory log) : Silent log := by
  induction log with
  | nil => apply Silent.nil
  | cons e log ih =>
    apply Silent.append (t := [e])
    . have := h e (by simp)
      cases e with
      | read reg v => apply Silent.read this
      | write v reg => apply Silent.write this.1
      | _ => contradiction
    . apply ih
      intro e' hmem
      apply h e'
      simp [hmem]

theorem Preparatory.sent (h : Preparatory log) : Sent list byte₀ log := by
  intro before v after heq
  have := h (.write v .dataCmd) (by simp [heq])
  exact absurd rfl this.1

theorem Sent.next {op : Op} {r : op.Ans} (h : Sent list byte₀ s.log)
    (hguard : Guard p list byte₀ op s) : Sent list byte₀ (State.next op s r).log := by
  cases op with
  | readRegister reg =>
    apply h.silent
    simp
  | writeRegister v reg =>
    apply h.concat
    intro v' heq
    simp only [Event.write.injEq] at heq
    rcases heq with ⟨rfl, rfl⟩
    rcases hguard.2 rfl with ⟨place, hplace, hword⟩
    rw [hguard.1.1.1] at hword
    refine ⟨⟨place, hplace, hword⟩, ?_⟩
    intro e he
    rw [hguard.1.1.2.1] at he
    apply (List.of_mem_zip he).1
  | store a b | enterSleep | leaveSleep | commandWakeup =>
    apply h.silent
    simp
  | beginTransfer messages list => apply Sent.nil
  | reach point => cases point <;> apply h
  | _ => apply h

theorem Sent.stable (list : List BusMessage) (byte₀ : Address → Byte) :
    (system H).Stable fun s => Sent list byte₀ s.log := by
  rintro s _ h ⟨hw, _, rfl⟩
  apply h

def Begun (log : List Event) : Prop := .write intrDefaultMask .intrMask ∈ log

theorem Preparatory.not_begun (h : Preparatory log) : ¬ Begun log := by
  intro hmem
  have := (h _ hmem).2 rfl
  contradiction

variable [RegisterFile H]

def OnSent (p : Pointer) (list : List BusMessage) (byte₀ : Address → Byte) (s : State H) : Prop :=
  On p list byte₀ s ∧ Sent list byte₀ s.log

theorem OnSent.wp_handleInterrupt (h : OnSent p list byte₀ s) :
    wp (system H) (fun op s => Guard p list byte₀ op s ∧ Sent list byte₀ s.log) handleInterrupt
      (fun _ s' => OnSent p list byte₀ s') s := by
  apply wp_keeping (wp_handleInterrupt_on h.1) (Sent.stable list byte₀)
  . intro op s r hguard hsent _
    apply hsent.next hguard
  . apply h.2

theorem OnSent.stable : (interrupted H).Stable (OnSent (H := H) p list byte₀) := by
  have hstable := (On.inert (H := H) p list byte₀).stable.and (Sent.stable list byte₀)
  apply hstable.interrupted
  intro s s' h hexec
  apply hexec.wp (OnSent.wp_handleInterrupt h)

theorem OnSent.append {hw : H.State} {e : Event} (h : OnSent p list byte₀ s) (he : Silent [e])
    (he' : ∀ v, e ≠ .write v .dataCmd) (hmask : value hw .intrMask = value s.hw .intrMask) :
    OnSent p list byte₀ { s with hw := hw, log := s.log ++ [e] } :=
  ⟨h.1.append he hmask, h.2.silent he'⟩

variable {K : H.State → Prop}

structure Ended (K : H.State → Prop) (list : List BusMessage) (byte₀ : Address → Byte)
    (s : State H) : Prop where
  calm : K s.hw
  sleeper : s.sleeper = .running
  settled : Settled list byte₀ s
  sent : Sent list byte₀ s.log
  disabled : value s.hw .enable = 0
  commandError : s.device.commandError = 0 ∨ s.device.commandError = errTxAbrt

theorem Ended.idle (hK : Calm K) : Idle (Ended (H := H) K list byte₀) where
  step s hw h hstep :=
    { h with
      calm := hK.step _ _ h.calm hstep
      disabled := by
        rw [value_step hstep (by rfl)]
        apply h.disabled }
  read s reg v h hreg hv :=
    { h with
      calm := hK.read _ _ _ h.calm hreg hv
      settled := h.settled.read hreg
      sent := h.sent.silent (by simp)
      disabled := by
        rw [value_read (by rfl)]
        apply h.disabled }
  off s h _ := h.disabled
  write s v reg h hreg henable hmask :=
    { h with
      calm := hK.write _ _ _ h.calm hreg
      settled := h.settled.write hreg
      sent := h.sent.silent (by simp [hreg])
      disabled := by
        by_cases heq : reg = .enable
        . rw [heq, value_write_self (by rfl), henable heq]
        . rw [value_write_ne (by rfl) (Ne.symm heq)]
          apply h.disabled }

theorem On.start {s₀ : State H} (hlive : s₀.live = some (p, list.length))
    (hmessage : ∀ i m, list[i]? = some m → s₀.memory.message p i = m)
    (hdevice : s.device = s₀.device.setup p list.length) (hmemory : s.memory = s₀.memory)
    (hlive' : s.live = s₀.live) (hpreparing : s.preparing = some p) (hlog : Silent s.log)
    {hw : H.State} (hmask : value hw .intrMask = intrDefaultMask) :
    On p list s₀.memory.byte { s with hw := hw } := by
  have hnumber : s.device.messageNumber = list.length := by
    rw [hdevice]
    rfl
  have hzero : s.device.messageWriteIndex = 0 := by
    rw [hdevice]
    rfl
  have hplaces : s.device.messageWriteIndex = s.device.messageNumber → places list = [] := by
    intro heq
    rw [hzero, hnumber] at heq
    rw [List.length_eq_zero_iff.mp heq.symm]
    rfl
  refine ⟨⟨hlive'.trans hlive, hpreparing, ?_, hnumber, ?_⟩, ⟨⟨?_, ?_, ?_⟩, ?_, ?_⟩, .inl ⟨?_, ?_, ?_, ?_⟩⟩
  . rw [hdevice]
    rfl
  . rw [hmemory]
    apply hmessage
  . rw [hlog.stores, hmemory]
    rfl
  . rw [hlog.stores, hlog.pops]
    simp
  . rw [hlog.pops]
    simp
  . intro heq _
    rw [hlog.words, hplaces heq]
    rfl
  . intro _
    unfold Outstanding
    rw [hlog.words, hlog.pops, hdevice]
    rfl
  . rw [hdevice]
    rfl
  . unfold WriteSide
    rw [hlog.words, hdevice]
    refine ⟨Nat.zero_le _, GoodBefore.zero, ?_⟩
    rw [if_neg (by simp [BusDevice.setup, statusIdle])]
    apply Before.zero
  . unfold ReadSide
    rw [hlog.pops, hdevice]
    refine ⟨Nat.zero_le _, ?_⟩
    rw [if_neg (by simp [BusDevice.setup, statusIdle])]
    apply Before.zero
  . simp only [hmask]
    unfold MaskFits
    have herror : s.device.messageError = 0 := by
      rw [hdevice]
      rfl
    rw [if_neg (by simp [herror])]
    split
    . next heq =>
      right
      refine ⟨rfl, ?_⟩
      omega
    . exact ⟨rfl, .inl hzero⟩

theorem OnSent.ended (hK : Calm K) (h : OnSent p list byte₀ s) (hsleeper : s.sleeper = .running) :
    Ended K list byte₀
      { s with hw := H.write 0 .enable s.hw, log := s.log ++ [.write 0 .enable] } := by
  have h' : OnSent p list byte₀
      { s with hw := H.write 0 .enable s.hw, log := s.log ++ [.write 0 .enable] } := by
    apply h.append
    . apply Silent.write
      simp
    . simp
    . apply value_write_ne (by rfl) (by simp)
  constructor
  . apply hK.off
  . apply hsleeper
  . apply h'.1.2.1
  . apply h'.2
  . apply value_write_self
    rfl
  . rcases h.1.2.2 with h | h
    . left
      apply h.1
    . right
      apply h.1

def orderContract (s₀ : State H) (p : Pointer) (list : List BusMessage)
    (hlive : s₀.live = some (p, list.length))
    (hmessage : ∀ i m, list[i]? = some m → s₀.memory.message p i = m) (hK : Calm K) :
    Contract H s₀ p list.length where
  calm := K
  cleared := K
  on := OnSent p list s₀.memory.byte
  left _ s := OnSent p list s₀.memory.byte s ∧ s.sleeper = .running
  done _ := Ended K list s₀.memory.byte
  calm_step := hK.step
  calm_read := hK.read
  calm_write := hK.write
  cleared_clrIntr h v hh hv := hK.read _ _ _ hh (by simp) hv
  cleared_calm _ h := h
  cleared_step := hK.step
  cleared_read := hK.read
  cleared_write h hh := hK.write _ _ _ hh (by simp)
  on_start s hdevice hmemory hlive' hpreparing _ hlog _ _ _ := by
    have hlog' : Silent (s.log ++ [.write intrDefaultMask .intrMask]) := by
      apply hlog.silent.append
      apply Silent.write
      simp
    refine ⟨?_, hlog.sent.silent (by simp)⟩
    apply On.start (s := { s with log := s.log ++ [.write intrDefaultMask .intrMask] }) hlive
      hmessage hdevice hmemory hlive' hpreparing hlog'
    apply value_write_self
    rfl
  on_stable := OnSent.stable
  on_sleep s h _ := h.append .enterSleep (by simp) rfl
  on_leave s r h _ _ := ⟨h.append .sleep (by simp) rfl, rfl⟩
  left_stable _ := OnSent.stable.and stable_running
  left_off s _ h := h.1.ended hK h.2
  done_idle _ := Ended.idle hK
  done_return s r h := { h with }
  done_error s r h := h.commandError

/--
What is promised for every operation of the handler, also before the interrupts are enabled and
after the transfer has ended.
-/
def Watched (p : Pointer) (list : List BusMessage) (byte₀ : Address → Byte) (op : Op)
    (s : State H) : Prop :=
  Sent list byte₀ s.log
    ∧ match op with
      | .message q i =>
        s.live = some (p, list.length) ∧ s.preparing = some p ∧ s.device.messages = p
          ∧ s.device.messageNumber = list.length ∧ q = p ∧ (list ≠ [] → i < list.length)
      | .reach .readFromBus | .reach .transferMessageToBus =>
        s.live = some (p, list.length) ∧ s.preparing = some p ∧ s.device.messages = p
      | .readRegister reg =>
        (Begun s.log → Settled list byte₀ s)
          ∧ (reg = .dataCmd → (pops s.log).length < (readAddresses list).length)
      | .writeRegister _ _ => Begun s.log → Settled list byte₀ s
      | .load a => Session p list s ∧ ∃ m ∈ list, ¬ m.IsRead ∧ a ∈ m.addresses
      | .store a _ => Session p list s ∧ ∃ m ∈ list, m.IsRead ∧ a ∈ m.addresses
      | _ => True

omit [RegisterFile H] in
theorem Guard.watched {op : Op} (h : Guard p list byte₀ op s) (hsent : Sent list byte₀ s.log) :
    Watched p list byte₀ op s := by
  refine ⟨hsent, ?_⟩
  cases op with
  | message q i => apply h
  | reach point => cases point <;> apply h
  | readRegister reg => exact ⟨fun _ => h.1, h.2⟩
  | writeRegister v reg => exact fun _ => h.1
  | load _ | store _ _ => apply h
  | _ => trivial

omit [RegisterFile H] in
theorem Watched.quiet {op : Op} (hop : QuietOp op ∨ op = .writeRegister 0 .intrMask)
    (hsent : Sent list byte₀ s.log) (hsettled : Begun s.log → Settled list byte₀ s) :
    Watched p list byte₀ op s := by
  refine ⟨hsent, ?_⟩
  rcases hop with hop | rfl
  . cases op with
    | readRegister reg => exact ⟨hsettled, fun heq => absurd heq hop.1⟩
    | message _ _ | load _ | store _ _ | reach _ | writeRegister _ _ => contradiction
    | _ => trivial
  . exact hsettled

section Runs

variable {s₀ : State H} {hlive : s₀.live = some (p, list.length)}
  {hmessage : ∀ i m, list[i]? = some m → s₀.memory.message p i = m} {hK : Calm K}

theorem orderContract_wp_handleInterrupt
    (h : (orderContract s₀ p list hlive hmessage hK).Phase s) :
    wp (system H) (Watched p list s₀.memory.byte) handleInterrupt (fun _ _ => True) s := by
  have hon : ∀ s, OnSent p list s₀.memory.byte s →
      wp (system H) (Watched p list s₀.memory.byte) handleInterrupt (fun _ _ => True) s := by
    intro s h
    apply wp_mono h.wp_handleInterrupt
    . intro op s h
      apply h.1.watched h.2
    . intro _ _ _
      trivial
  apply (orderContract s₀ p list hlive hmessage hK).wp_handleInterrupt
  . intro op s hop hlog _
    apply Watched.quiet hop hlog.sent
    intro hbegun
    exact absurd hbegun hlog.not_begun
  . apply hon
  . intro _ s h
    apply hon s h.1
  . intro _ op s hop h
    apply Watched.quiet (.inl hop) h.sent
    intro _
    apply h.settled
  . apply h

theorem orderContract_phase (h : (orderContract s₀ p list hlive hmessage hK).Phase s) :
    Sent list s₀.memory.byte s.log ∧ (Begun s.log → Settled list s₀.memory.byte s) := by
  rcases h with ⟨d, preparing, h⟩ | h | h | ⟨r, h⟩ | ⟨r, h⟩
  . exact ⟨h.log.sent, fun hbegun => absurd hbegun h.log.not_begun⟩
  . exact ⟨h.log.sent, fun hbegun => absurd hbegun h.log.not_begun⟩
  . exact ⟨h.2, fun _ => h.1.2.1⟩
  . exact ⟨h.1.2, fun _ => h.1.1.2.1⟩
  . exact ⟨h.sent, fun _ => h.settled⟩

end Runs

end VoodooI2C
