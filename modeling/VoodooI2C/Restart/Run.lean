import VoodooI2C.Restart.Send
import VoodooI2C.Transfer.Calls

/-!
This module contains when the restart bits of a transfer are right, whatever happened before it.
-/

namespace VoodooI2C

open Interaction RegisterFile

variable {H : Hardware} {list : List BusMessage} {s : State H} {d₀ d d' : BusDevice}
  {log : List Event} {e : Event} {p : Pointer} {byte₀ : Address → Byte}

def EachWord (P : List Event → Word → Prop) (log : List Event) : Prop :=
  ∀ before v after, log = before ++ .write v .dataCmd :: after → P before v

namespace EachWord

variable {P : List Event → Word → Prop}

theorem concat (h : EachWord P log) (he : ∀ v, e = .write v .dataCmd → P log v) :
    EachWord P (log ++ [e]) := by
  intro before v after heq
  rcases List.eq_nil_or_concat after with rfl | ⟨after, e', rfl⟩
  . rcases List.append_inj' heq rfl with ⟨rfl, hlast⟩
    apply he
    simpa using hlast
  . rw [List.concat_eq_append, ← List.cons_append, ← List.append_assoc] at heq
    rcases List.append_inj' heq rfl with ⟨rfl, _⟩
    apply h before v after rfl

theorem silent (h : EachWord P log) (he : ∀ v, e ≠ .write v .dataCmd) : EachWord P (log ++ [e]) := by
  apply h.concat
  intro v heq
  exact absurd heq (he v)

theorem of_preparatory (h : Preparatory log) : EachWord P log := by
  intro before v after heq
  have := h (.write v .dataCmd) (by simp [heq])
  exact absurd rfl this.1

end EachWord

abbrev RestartLog (d₀ : BusDevice) (list : List BusMessage) (log : List Event) : Prop :=
  EachWord (fun before v => v &&& 0x400 ≠ 0 ↔ RestartsAt d₀ list before) log

theorem restarted_iff_roomy (hlist : ∀ m ∈ list, m.length ≠ 0) (h : RestartLog d₀ list log) :
    Restarted list log ↔ Roomy d₀ list log := by
  constructor
  . intro hrestarted before v after i heq hi hlt hn
    have hbit := (hrestarted before v after heq).mpr ⟨i, hi, hlt, hn⟩
    rcases (h before v after heq).mp hbit with ⟨j, _, hjlt, hn', hroom⟩
    rw [firstWord_inj hlist hlt hjlt (hn.symm.trans hn')]
    apply hroom
  . intro hroomy before v after heq
    apply (h before v after heq).trans
    constructor
    . rintro ⟨i, hi, hlt, hn, _⟩
      exact ⟨i, hi, hlt, hn⟩
    . rintro ⟨i, hi, hlt, hn⟩
      exact ⟨i, hi, hlt, hn, hroomy before v after i heq hi hlt hn⟩

structure Restarting (d₀ : BusDevice) (list : List BusMessage) (s : State H) : Prop where
  fixed : s.device.fixed = d₀.fixed
  closed : Closed s.log
  progress : s.device.commandError = 0 → Progress d₀ list s.device s.log

theorem Restarting.append {hw : H.State} {memory : Memory} {sleeper : Sleeper}
    (h : Restarting d₀ list s) (he : words [e] = []) (he' : ∀ v, e ≠ .read .txflr v) :
    Restarting d₀ list
      { s with hw := hw, memory := memory, sleeper := sleeper, log := s.log ++ [e] } where
  fixed := h.fixed
  closed := Closed.concat he'
  progress herror := (h.progress herror).append he he'

theorem Restarting.next_quiet {op : Op} {r : op.Ans} (h : Restarting d₀ list s)
    (hop : QuietOp op) : Restarting d₀ list (State.next op s r) := by
  cases op with
  | readRegister reg =>
    apply h.append
    . rfl
    . simp [hop.2.2.1]
  | device | disableInterrupt | enableInterrupt => apply h
  | _ => contradiction

theorem Restarting.stable : (system H).Stable (Restarting (H := H) d₀ list) := by
  rintro s _ h ⟨hw, _, rfl⟩
  exact { h with }

theorem ReadUpdate.progress (hupdate : ReadUpdate d d') (h : Progress d₀ list d log) :
    Progress d₀ list d' log := by
  rcases hupdate with ⟨o, st, l, b, i, rfl, hst⟩
  constructor
  . apply h.closed
  . intro hwip
    apply h.begun
    unfold BusDevice.WriteInProgress at *
    rw [← hst]
    apply hwip
  . intro hwip
    apply h.next
    unfold BusDevice.WriteInProgress at *
    rw [← hst]
    apply hwip

namespace Restarting

variable {G : Op → State H → Prop}

theorem wp_readFromBus (h : Restarting d₀ list s) :
    wp (system H) (RestartGuard d₀ list) readFromBus (fun _ => Restarting d₀ list) s := by
  apply wp_performs performs_readFromBus stable
  . intro op s hop _
    cases op with
    | writeRegister v reg => contradiction
    | _ => trivial
  . intro op s r hop h _
    cases op with
    | readRegister reg =>
      apply h.append
      . rfl
      . rcases hop with rfl | rfl <;> simp
    | update f =>
      have hupdate := hop s.device
      constructor
      . rw [← h.fixed]
        apply ReadFromBusOp.handlerOp hop
      . apply h.closed
      . intro herror
        apply hupdate.progress
        apply h.progress
        rcases hupdate with ⟨o, st, l, b, i, heq, _⟩
        simpa [State.next, heq] using herror
    | store a b =>
      apply h.append
      . rfl
      . simp
    | device | message _ _ => apply h
    | reach point =>
      cases point with
      | readFromBus => exact { h with }
      | _ => contradiction
    | _ => contradiction
  . apply h

theorem wp_clear {status : Word} (h : Restarting d₀ list s) :
    wp (system H) (RestartGuard d₀ list) (readClearInterruptBits.clear status)
      (fun _ => Restarting d₀ list) s := by
  apply wp_performs (performs_clear status) stable
  . rintro op s (hop | ⟨a, rfl⟩) _
    . cases op with
      | writeRegister v reg => contradiction
      | _ => trivial
    . trivial
  . rintro op s r (hop | ⟨a, rfl⟩) h hr
    . apply h.next_quiet hop
    . refine ⟨h.fixed, h.closed, ?_⟩
      intro herror
      have := h.progress herror
      exact ⟨this.closed, this.begun, this.next⟩
  . apply h

theorem wp_abort (h : Restarting d₀ list s) :
    wp (system H) (RestartGuard d₀ list) serviceInterrupt.abort
      (fun _ => Restarting d₀ list) s := by
  have herror := or_errTxAbrt_ne_zero s.device.commandError
  unfold serviceInterrupt.abort
  apply wp_update
  apply wp_update
  apply wp_update
  apply wp_tail
  apply wp_writeRegister
  intro hw _
  refine ⟨trivial, ?_⟩
  apply wp_done
  intro hw' _
  refine ⟨h.fixed, Closed.concat (by simp), ?_⟩
  intro hzero
  exact absurd hzero herror

theorem wp_send [RegisterFile H] {status : Word} (hlist : ∀ m ∈ list, m.length ≠ 0)
    (hrestart : d₀.busConfig &&& conRestartEn ≠ 0) (hon : On p list byte₀ s)
    (hstatus : Unmasked status s) (h : Restarting d₀ list s) :
    wp (system H) (RestartGuard d₀ list) (serviceInterrupt.send status)
      (fun _ => Restarting d₀ list) s := by
  unfold serviceInterrupt.send
  split
  . next hempty =>
    rcases hon with ⟨hsession, hsettled, ⟨herror, _⟩ | haborted⟩
    . apply wp_mono
      . apply wp_and
        . apply wp_transferMessageToBus_restart hlist hrestart h.fixed hsession
            (hsettled.2.2 herror) (h.progress herror)
        . apply wp_fixed h.fixed
          apply Prog.performs_mono performs_transferMessageToBus
          intro op hop
          apply hop.handlerOp
      . intro op s h
        apply h.1
      . rintro _ s ⟨hprogress, hfixed⟩
        exact ⟨hfixed, hprogress.closed, fun _ => hprogress⟩
    . rw [eq_zero_of_aborted haborted hstatus] at hempty
      simp at hempty
  . apply wp_done
    intro hw _
    exact { h with }

theorem wp_wakeup {status : Word} (h : Restarting d₀ list s) :
    wp (system H) (RestartGuard d₀ list) (serviceInterrupt.wakeup status)
      (fun _ => Restarting d₀ list) s := by
  apply wp_performs (performs_wakeup status) stable
  . intro op s hop _
    cases op with
    | writeRegister v reg =>
      have hop : reg = .intrMask := hop
      rw [hop]
      trivial
    | _ => trivial
  . intro op s r hop h _
    cases op with
    | readRegister reg =>
      have hop : reg = .intrMask := hop
      apply h.append
      . rfl
      . simp [hop]
    | writeRegister v reg =>
      have hop : reg = .intrMask := hop
      apply h.append
      . rw [hop]
        rfl
      . simp
    | commandWakeup =>
      apply h.append
      . rfl
      . simp
    | device => apply h
    | _ => contradiction
  . apply h

end Restarting

variable [RegisterFile H]

theorem Restarting.preserved (p : Pointer) (byte₀ : Address → Byte)
    (hlist : ∀ m ∈ list, m.length ≠ 0) (hrestart : d₀.busConfig &&& conRestartEn ≠ 0) :
    Preserved p list byte₀ (RestartGuard (H := H) d₀ list) (Restarting d₀ list)
      (fun s => RestartLog d₀ list s.log) where
  quiet :=
    { stable := Restarting.stable
      next := fun op s r hop h _ => h.next_quiet hop.quietOp }
  guard op s hop _ _ := by
    cases op with
    | writeRegister v reg => contradiction
    | _ => trivial
  service s status hon h hread := by
    have hstatus : Unmasked status
        { s with hw := H.read .intrStat status s.hw, log := s.log ++ [.read .intrStat status] } := by
      unfold Unmasked
      rw [value_read (by rfl)]
      apply canRead_intrStat hread
    apply On.wp_service (Restarting d₀ list) (Restarting d₀ list) (Restarting d₀ list)
      (Restarting d₀ list)
    . apply hon.append
      . apply Silent.read
        simp
      . apply value_intrMask_read
    . apply hstatus
    . apply h.append
      . rfl
      . simp
    . intro s _ _ h
      apply h.wp_clear
    . intro _ s _ _ h
      apply h.wp_abort
    . intro _ s _ _ h
      unfold serviceInterrupt.receive
      split
      . apply h.wp_readFromBus
      . apply wp_done
        intro hw _
        exact { h with }
    . intro _ s hon hstatus h
      apply h.wp_send hlist hrestart hon hstatus
    . intro s _ h
      apply h.wp_wakeup
  log_stable := by
    rintro s _ h ⟨hw, _, rfl⟩
    apply h
  log_next op s r _ hguard h _ := by
    cases op with
    | writeRegister v reg =>
      apply h.concat
      intro v' heq
      simp only [Event.write.injEq] at heq
      rcases heq with ⟨rfl, rfl⟩
      apply hguard
    | readRegister reg | store a b | enterSleep | leaveSleep | commandWakeup =>
      apply h.silent
      simp
    | beginTransfer messages list =>
      intro before v after heq
      simp [State.next] at heq
    | reach point => cases point <;> apply h
    | _ => apply h

variable {s₀ : State H}

theorem Progress.start (hlog : Preparatory log) :
    Progress d₀ list (d.setup p list.length) (log ++ [.write intrDefaultMask .intrMask]) where
  closed := Closed.concat (by simp)
  begun hwip := by
    simp [BusDevice.WriteInProgress, BusDevice.setup, statusIdle] at hwip
  next _ := by
    simp [hlog.silent.words, BusDevice.setup, firstWord]

def restartExtension (s₀ : State H) (p : Pointer) (hlist : ∀ m ∈ list, m.length ≠ 0)
    (hrestart : s₀.device.busConfig &&& conRestartEn ≠ 0) :
    Extension s₀ p list (fun _ => True) (fun _ => True) where
  guard := RestartGuard (s₀.device.setup p list.length) list
  on := Restarting (s₀.device.setup p list.length) list
  left _ := Restarting (s₀.device.setup p list.length) list
  done _ _ := True
  log s := RestartLog (s₀.device.setup p list.length) list s.log
  on_preserved := Restarting.preserved p s₀.memory.byte hlist hrestart
  left_preserved _ := Restarting.preserved p s₀.memory.byte hlist hrestart
  cleared_clrIntr _ _ _ _ := trivial
  cleared_calm _ _ := trivial
  cleared_step _ _ _ _ := trivial
  cleared_read _ _ _ _ _ _ := trivial
  cleared_write _ _ := trivial
  start s hdevice _ _ hlog _ _ _ s' hs' := by
    rw [hs']
    refine ⟨⟨?_, Closed.concat (by simp), ?_⟩, ?_⟩
    . rw [hdevice]
    . intro _
      simp only [hdevice]
      apply Progress.start hlog
    . refine (EachWord.of_preparatory hlog).silent ?_
      simp
  sleep s _ h hlog _ s' hs' := by
    rw [hs']
    exact ⟨h.append rfl (by simp), hlog.silent (by simp)⟩
  leave s r _ h hlog _ _ s' hs' := by
    rw [hs']
    exact ⟨h.append rfl (by simp), hlog.silent (by simp)⟩
  off s r _ _ hlog _ s' hs' := by
    rw [hs']
    exact ⟨trivial, hlog.silent (by simp)⟩
  done_untouched _ :=
    { step := fun s hw h _ => h
      read := fun s reg v h _ _ => ⟨trivial, h.2.silent (by simp)⟩
      write := fun s v reg h hreg _ _ => ⟨trivial, h.2.silent (by simp [hreg])⟩ }
  done_return s r _ h := ⟨trivial, h⟩

/--
The restart bits are right if and only if there was room for the first word of every message after
the first one whenever the levels were read for it.
-/
theorem transferI2C_restarts {memory : Memory} {cfg : Config (system H) IOReturn}
    (h₀ : Between s) (hlist : ∀ m ∈ list, m.length ≠ 0)
    (hrestart : s.device.busConfig &&& conRestartEn ≠ 0)
    (hmessage : ∀ i m, list[i]? = some m → memory.message p i = m)
    (hc : Reachable (system H) handleInterrupt (State.next (.beginTransfer p list) s memory)
      (transferI2C p list.length) cfg) :
    Restarted list cfg.state.log ↔ Roomy s.device list cfg.state.log := by
  have hlog : RestartLog (s.device.setup p list.length) list cfg.state.log := by
    apply Extension.reachable
      (F := fun s' => RestartLog (s.device.setup p list.length) list s'.log)
      (restartExtension (State.next (.beginTransfer p list) s memory) p hlist hrestart)
      rfl hmessage Calm.true _ _ _ hc
    . intro s h _
      exact EachWord.of_preparatory h
    . intro s h
      apply h
    . apply Extension.resting (h₀.atRest Calm.true) Calm.true _ hmessage
  apply restarted_iff_roomy hlist hlog

/-! A byte is sent, then one is received. -/

def shortList : List BusMessage := [⟨0x10, 0x41, 0, 1⟩, ⟨0x10, 0x80, 1, 1⟩]

def shortState : State smallFifo :=
  State.next (.beginTransfer 7 shortList) readyState (readyState.memory.put shortList)

def shortRun : Config (system smallFifo) IOReturn :=
  timeoutPlayer.play handleInterrupt pairTurns ⟨shortState, transferI2C 7 shortList.length, none⟩

theorem reachable_shortRun :
    Reachable (system smallFifo) handleInterrupt shortState (transferI2C 7 shortList.length)
      shortRun := by
  apply timeoutPlayer.reachable_play

theorem transferI2C_restarts_short :
    words shortRun.state.log = [0x41, 0x700]
      ∧ Restarted shortList shortRun.state.log
      ∧ Roomy readyState.device shortList shortRun.state.log := by
  have hwords : words shortRun.state.log = [0x41, 0x700] := by decide +kernel
  have hrestarted : Restarted shortList shortRun.state.log := by
    rw [restarted_iff, hwords]
    decide
  refine ⟨hwords, hrestarted, ?_⟩
  apply (transferI2C_restarts between_readyState (by decide) (by decide +kernel)
    Memory.put_message reachable_shortRun).mp hrestarted

/--
The two bytes of the first message fill the transmit FIFO, so the read has lost its restart bit when
there is room for it.
-/
theorem transferI2C_not_restarts :
    (∀ m ∈ pairList, m.Good 0x10)
      ∧ readyState.device.busConfig &&& conRestartEn ≠ 0
      ∧ Reachable (system smallFifo) handleInterrupt pairState (transferI2C 7 pairList.length) pairRun
      ∧ words pairRun.state.log = [0x41, 0x42, 0x100, 0x100, 0x300]
      ∧ ¬ Restarted pairList pairRun.state.log := by
  have hwords : words pairRun.state.log = [0x41, 0x42, 0x100, 0x100, 0x300] := by decide +kernel
  refine ⟨by decide, by decide +kernel, reachable_pairRun, hwords, ?_⟩
  rw [restarted_iff, hwords]
  decide

end VoodooI2C
