import VoodooI2C.Handshake.Calls
import VoodooI2C.Driver.Play

/-!
This module contains transfers of a controller that does not follow `IC_ENABLE`.
-/

namespace VoodooI2C

open Interaction

variable {H : Hardware} {α : Type} {s : State H}

/--
The readings of `IC_ENABLE_STATUS`, each with what was last written to `IC_ENABLE`.
-/
def rounds (enable : Word) (log : List Event) : List (Word × Word) :=
  match log with
  | [] => []
  | .write v .enable :: log => rounds v log
  | .read .enableStatus v :: log => (enable, v) :: rounds enable log
  | _ :: log => rounds enable log

def TimedOut (log : List Event) : Prop :=
  ∃ enable before stuck after, rounds 0 log = before ++ stuck ++ after ∧ stuck.length = 1001
    ∧ ∀ p ∈ stuck, p.1 = enable ∧ p.2 &&& 1 ≠ enable

def Unserved (log : List Event) : Prop :=
  (∀ v, .read .intrStat v ∈ log → v &&& intrTxEmpty = 0) ∧ ∀ r, .sleep r ∈ log → r = .timedOut

/-! Commands are written only if the controller wants data. -/

def Wanting (log : List Event) : Prop := ∃ v, .read .intrStat v ∈ log ∧ v &&& intrTxEmpty ≠ 0

def Fed (s : State H) : Prop := ∀ v, .write v .dataCmd ∈ s.log → Wanting s.log

theorem log_next {op : Op} {r : op.Ans} (hop : ∀ p list, op ≠ .beginTransfer p list) :
    ∃ log, (State.next op s r).log = s.log ++ log
      ∧ ∀ v, .write v .dataCmd ∈ log → op = .writeRegister v .dataCmd := by
  cases op with
  | readRegister reg => exact ⟨_, rfl, by simp⟩
  | writeRegister v reg =>
    refine ⟨_, rfl, ?_⟩
    intro w h
    simp only [List.mem_singleton, Event.write.injEq] at h
    rw [h.1, h.2]
  | store a b => exact ⟨_, rfl, by simp⟩
  | enterSleep | leaveSleep | commandWakeup => exact ⟨_, rfl, by simp⟩
  | reach point => cases point <;> exact ⟨[], by simp [State.next], by simp⟩
  | beginTransfer p list => exact absurd rfl (hop p list)
  | _ => exact ⟨[], by simp [State.next], by simp⟩

theorem mem_next {op : Op} {r : op.Ans} {e : Event} (hop : ∀ p list, op ≠ .beginTransfer p list)
    (h : e ∈ s.log) : e ∈ (State.next op s r).log := by
  rcases log_next (s := s) (r := r) hop with ⟨log, heq, _⟩
  rw [heq]
  apply List.mem_append_left _ h

theorem HandlerOp.ne_beginTransfer {op : Op} (h : HandlerOp op) (p : Pointer)
    (list : List BusMessage) : op ≠ .beginTransfer p list := by
  rintro rfl
  contradiction

theorem CallerOp.ne_beginTransfer {op : Op} (h : CallerOp op) (p : Pointer)
    (list : List BusMessage) : op ≠ .beginTransfer p list := by
  rintro rfl
  contradiction

theorem Wanting.next {op : Op} {r : op.Ans} (hop : HandlerOp op) (h : Wanting s.log) :
    Wanting (State.next op s r).log := by
  rcases h with ⟨v, hmem, hv⟩
  exact ⟨v, mem_next hop.ne_beginTransfer hmem, hv⟩

theorem Fed.next {op : Op} {r : op.Ans} (hop : ∀ p list, op ≠ .beginTransfer p list)
    (hcommand : ∀ v, op ≠ .writeRegister v .dataCmd) (h : Fed s) : Fed (State.next op s r) := by
  intro v hmem
  rcases log_next (s := s) (r := r) hop with ⟨log, heq, hlog⟩
  rw [heq, List.mem_append] at hmem
  rcases hmem with hmem | hmem
  . rcases h v hmem with ⟨w, hw, hempty⟩
    exact ⟨w, mem_next hop hw, hempty⟩
  . exact absurd (hlog v hmem) (hcommand v)

theorem Fed.inert : Inert (H := H) Fed where
  step s hw h _ := h
  read s reg v h _ _ := by
    have hnext : Fed (State.next (.readRegister reg) s v) := by
      apply h.next
      . simp
      . simp
    apply hnext

theorem Fed.wp_service {status : Word} (h : Fed s) (hread : .read .intrStat status ∈ s.log) :
    wp (system H) (fun _ _ => True) (service status) (fun _ => Fed) s := by
  by_cases hempty : status &&& intrTxEmpty ≠ 0
  . apply wp_post (Q := fun _ (s : State H) => Wanting s.log)
    . apply wp_performs (performs_service_handlerOp status)
      . rintro s _ h ⟨hw, _, rfl⟩
        apply h
      . intro _ _ _ _
        trivial
      . intro op s r hop h _
        apply h.next hop
      . exact ⟨status, hread, hempty⟩
    . intro _ s h v _
      apply h
  . have hperforms : (service status).Performs
        fun op => HandlerOp op ∧ ∀ v, op ≠ .writeRegister v .dataCmd := by
      apply performs_service status fun _ h hcommand => ⟨h, hcommand⟩
      unfold serviceInterrupt.send
      rw [if_neg hempty]
      apply performs_pure
    apply wp_performs hperforms Fed.inert.stable
    . intro _ _ _ _
      trivial
    . intro op s r hop h _
      apply h.next hop.1.ne_beginTransfer hop.2
    . apply h

theorem Fed.wp_handleInterrupt (h : Fed s) :
    wp (system H) (fun _ _ => True) handleInterrupt (fun _ => Fed) s := by
  apply VoodooI2C.wp_handleInterrupt Fed.inert.quiet
  . intro _ _ _ _
    trivial
  . apply Fed.inert.stable
  . intro s h
    apply h
  . intro _ _
    trivial
  . apply h
  . intro _ _ _ _ _ _ s h
    rw [serviceInterrupt_eq]
    apply wp_readRegister
    intro hw _
    refine ⟨trivial, ?_⟩
    intro status hstatus
    apply Fed.wp_service
    . apply Fed.inert.read { s with hw := hw } .intrStat status h (by simp) hstatus
    . simp

theorem stable_fed : (interrupted H).Stable Fed := by
  apply Fed.inert.stable.interrupted
  intro s s' h hexec
  apply hexec.wp h.wp_handleInterrupt

theorem Fed.wp_transferI2C {messages : Pointer} {number : Nat} (h : Fed s) :
    wp (interrupted H) (fun _ _ => True) (transferI2C messages number) (fun _ => Fed) s := by
  apply wp_performs (performs_transferI2C messages number) stable_fed
  . intro _ _ _ _
    trivial
  . intro op s r hop h _
    apply h.next hop.ne_beginTransfer
    rintro v rfl
    exact hop rfl
  . apply h

/-! What a transfer returns whose sleeps end by their deadline. -/

def Awoken (log : List Event) : Prop := ∃ r, .sleep r ∈ log ∧ r ≠ .timedOut

def Expired (ret : IOReturn) (s : State H) : Prop := ret = .busy ∨ ret = .timeout ∨ Awoken s.log

theorem stable_awoken : (interrupted H).Stable fun s => Awoken s.log := by
  apply stable_of_handlerOp
  . rintro s _ h ⟨hw, _, rfl⟩
    apply h
  . rintro op s r hop ⟨sleep, hmem, hne⟩ _
    exact ⟨sleep, mem_next hop.ne_beginTransfer hmem, hne⟩

theorem stable_expired (ret : IOReturn) : (interrupted H).Stable (Expired ret) := by
  intro s s' h henv
  rcases h with h | h | h
  . exact .inl h
  . exact .inr (.inl h)
  . exact .inr (.inr (stable_awoken s s' h henv))

theorem wp_caller {p : Driver α} (hp : p.Performs CallerOp) :
    wp (interrupted H) (fun _ _ => True) p (fun _ _ => True) s := by
  apply wp_performs hp (A := fun _ => True)
  . intro _ _ _ _
    trivial
  . intro _ _ _ _
    trivial
  . intro _ _ _ _ _ _
    trivial
  . trivial

theorem wp_expired {ret : IOReturn} (h : Expired ret s) :
    wp (interrupted H) (fun _ _ => True) (pure ret) Expired s :=
  wp_main_return (stable_expired ret) h fun _ h => h

theorem wp_step_expired {op : Op} {f : op.Ans → Driver IOReturn}
    (hf : ∀ s' r, wp (interrupted H) (fun _ _ => True) (f r) Expired (State.next op s' r)) :
    wp (interrupted H) (fun _ _ => True) (Prog.perform op >>= f) Expired s := by
  rw [wp_perform_bind]
  intro s' _
  exact ⟨trivial, fun r _ => hf s' r⟩

theorem wp_wakeUp_expired {sleep : SleepResult} (h : .sleep sleep ∈ s.log) :
    wp (interrupted H) (fun _ _ => True)
      (if sleep = .timedOut then do
        let _ ← initialiseBus
        return IOReturn.timeout
      else do
        let _ ← toggleBusState .off
        prepareTransferI2C.result)
      Expired s := by
  split
  . rw [wp_bind]
    apply wp_post (wp_caller performs_initialiseBus)
    intro _ s _
    apply wp_expired (.inr (.inl rfl))
  . next hne =>
    apply wp_post (Q := fun _ (s : State H) => Awoken s.log)
    . apply wp_performs (P := CallerOp) _ stable_awoken
      . intro _ _ _ _
        trivial
      . rintro op s r hop ⟨sleep, hmem, hne⟩ _
        exact ⟨sleep, mem_next hop.ne_beginTransfer hmem, hne⟩
      . exact ⟨sleep, h, hne⟩
      . apply Prog.performs_bind (performs_of_routine (performs_toggleBusState _))
        intro _
        apply performs_of_routine performs_result
    . intro ret s h
      apply Or.inr (.inr h)

theorem wp_prepareTransferI2C_expired {messages : Pointer} {number : Nat} :
    wp (interrupted H) (fun _ _ => True) (prepareTransferI2C messages number) Expired s := by
  unfold prepareTransferI2C
  apply wp_step_expired
  intro s _
  rw [wp_bind]
  apply wp_post (Q := Expired)
  . unfold prepareTransferI2C.go
    apply wp_step_expired
    intro s d
    split
    . apply wp_expired (.inl rfl)
    . rw [wp_bind]
      apply wp_post (wp_caller (performs_of_routine performs_waitBusNotBusyI2C))
      intro ret s _
      split
      . apply wp_expired (.inl rfl)
      . iterate 9
          apply wp_step_expired
          intro s _
        rw [wp_bind]
        apply wp_post (wp_caller performs_requestTransferI2C)
        intro _ s _
        apply wp_step_expired
        intro s _
        apply wp_step_expired
        intro s sleep
        apply wp_wakeUp_expired
        simp [State.next]
  . intro ret s h
    apply wp_step (stable_expired ret) h
    intro s h
    refine ⟨trivial, ?_⟩
    intro _ _
    apply wp_expired
    apply h

theorem wp_transferI2C_expired {messages : Pointer} {number : Nat} :
    wp (interrupted H) (fun _ _ => True) (transferI2C messages number) Expired s := by
  unfold transferI2C transferI2CGated
  generalize 5 = tries
  induction tries generalizing s with
  | zero => apply wp_prepareTransferI2C_expired
  | succ tries ih =>
    unfold transferI2CGated.go
    rw [wp_bind]
    apply wp_post wp_prepareTransferI2C_expired
    intro ret s h
    split
    . apply wp_expired h
    . apply ih

/-! Runs. -/

theorem wp_handleInterrupt_programs :
    wp (system H) (fun op _ => ¬ op.Programs) handleInterrupt (fun _ _ => True) s := by
  apply wp_performs performs_handleInterrupt (A := fun _ => True)
  . intro _ _ _ _
    trivial
  . intro op s hop _
    apply hop.not_programs
  . intro _ _ _ _ _ _
    trivial
  . trivial

/--
In every run the controller is configured after a reading that says that it is disabled, unless the
last handshake timed out. Transfers in which a handshake timed out fail without a command if the
controller does not want data.
-/
theorem runCalls_handshake (s₀ : State H) (calls : List Call) :
    (∀ cfg, Reachable (system H) handleInterrupt s₀ (runCalls calls) cfg →
      (∀ op k, cfg.handler = none → cfg.main = .call op k → op.Programs →
        (Clear cfg.state.log ↔ ¬ Stuck cfg.state.log))
        ∧
      ∀ op k, cfg.handler = some (.call op k) → ¬ op.Programs)
      ∧
    ∀ (s : State H) (messages : Pointer) (number : Nat) (cfg : Config (system H) IOReturn) ret,
      s.log = [] → Reachable (system H) handleInterrupt s (transferI2C messages number) cfg →
      cfg.handler = none → cfg.main = .ret ret →
      (TimedOut cfg.state.log → Unserved cfg.state.log) →
      TimedOut cfg.state.log → ret ≠ .success ∧ ∀ v, .write v .dataCmd ∉ cfg.state.log := by
  have hJ : ∀ s : State H, True →
      wp (system H) (fun op _ => ¬ op.Programs) handleInterrupt (fun _ _ => True) s :=
    fun _ _ => wp_handleInterrupt_programs
  constructor
  . intro cfg hc
    have hp : wp (interrupted H) HandshakeGuard (runCalls calls) (fun _ _ => True) s₀ :=
      wp_runCalls_known
    constructor
    . intro op k hnone hmain
      exact hc.main_guard (fun _ _ _ => trivial) (fun _ _ _ => trivial) hJ hp hnone hmain
    . intro op k hsome
      exact hc.handler_guard (fun _ _ _ => trivial) (fun _ _ _ => trivial) hJ hp hsome
  . intro s messages number cfg ret hlog hc hnone hmain hquiet htimeout
    have hfed : Fed s := by
      intro v hmem
      rw [hlog] at hmem
      contradiction
    have hreturns : wp (interrupted H) (fun _ _ => True) (transferI2C messages number)
        (fun _ => Fed) s := hfed.wp_transferI2C
    have hp := wp_and hreturns wp_transferI2C_expired
    rcases hc.main_returns (fun _ _ _ => trivial) (fun _ _ _ => trivial) hJ hp hnone hmain
      with ⟨hfed', hexpired⟩
    rcases hquiet htimeout with ⟨hempty, hsleep⟩
    constructor
    . rcases hexpired with rfl | rfl | ⟨r, hr, hne⟩
      . simp
      . simp
      . exact absurd (hsleep r hr) hne
    . intro v hmem
      rcases hfed' v hmem with ⟨w, hw, hne⟩
      apply hne
      apply hempty w hw

/-! A controller that is never disabled. -/

def stuckScript : Script smallFifo where
  answer reg h := if reg = .enableStatus then 1 else Fifo.answer reg h
  move := smallScript.move
  canRead_answer reg h := by
    split
    . next heq =>
      subst heq
      intro hholds
      contradiction
    . apply Fifo.canRead_answer
  step_move := smallScript.step_move

def misses (n : Nat) : List Event :=
  (List.replicate n [.write 0 .enable, .read .enableStatus 1]).flatten

def missed (n : Nat) (s : State smallFifo) : State smallFifo :=
  { s with hw := Fifo.write 2 0 .enable s.hw, log := s.log ++ misses n }

theorem missed_missed (n : Nat) (s : State smallFifo) :
    missed n (missed 1 s) = missed (n + 1) s := by
  have hhw : Fifo.write 2 0 .enable (Fifo.write 2 0 .enable s.hw) = Fifo.write 2 0 .enable s.hw := by
    simp [Fifo.write]
  have hlog : s.log ++ misses 1 ++ misses n = s.log ++ misses (n + 1) := by
    simp [misses, List.replicate_succ]
  unfold missed
  dsimp only
  rw [hhw, hlog]

theorem exec_readRegister {α : Type} {reg : Register} {v : Word} {f : Word → Driver α} {a : α}
    {s s' : State smallFifo} (hv : Fifo.CanRead reg s.hw v)
    (hf : Exec (system smallFifo) (f v)
      { s with hw := Fifo.read reg s.hw, log := s.log ++ [.read reg v] } a s') :
    Exec (system smallFifo) (readRegister reg >>= f) s a s' :=
  .call hv hf

theorem exec_writeRegister {α : Type} {reg : Register} {v : Word} {f : Unit → Driver α} {a : α}
    {s s' : State smallFifo}
    (hf : Exec (system smallFifo) (f ())
      { s with hw := Fifo.write 2 v reg s.hw, log := s.log ++ [.write v reg] } a s') :
    Exec (system smallFifo) (writeRegister v reg >>= f) s a s' :=
  .call trivial hf

theorem exec_update {α : Type} {g : BusDevice → BusDevice} {f : Unit → Driver α} {a : α}
    {s s' : State smallFifo}
    (hf : Exec (system smallFifo) (f ()) { s with device := g s.device } a s') :
    Exec (system smallFifo) (update g >>= f) s a s' :=
  .call trivial hf

theorem exec_device {α : Type} {f : BusDevice → Driver α} {a : α} {s s' : State smallFifo}
    (hf : Exec (system smallFifo) (f s.device) s a s') :
    Exec (system smallFifo) (device >>= f) s a s' :=
  .call rfl hf

theorem exec_message {α : Type} {messages : Pointer} {i : Nat} {f : BusMessage → Driver α} {a : α}
    {s s' : State smallFifo} {m : BusMessage} (hm : s.memory.message messages i = m)
    (hf : Exec (system smallFifo) (f m) s a s') :
    Exec (system smallFifo) (message messages i >>= f) s a s' :=
  .call hm.symm hf

theorem exec_round {f : Driver IOReturn} {ret : IOReturn} {s s' : State smallFifo}
    (hf : Exec (system smallFifo) f (missed 1 s) ret s') :
    Exec (system smallFifo)
      (do
        writeRegister VoodooI2CState.off.toWord .enable
        let status ← readRegister .enableStatus
        if status &&& 1 = VoodooI2CState.off.toWord then
          return IOReturn.success
        else
          f)
      s ret s' := by
  apply exec_writeRegister
  apply exec_readRegister (v := 1)
  . apply stuckScript.canRead_answer .enableStatus
  . rw [if_neg (by decide)]
    have hlog : s.log ++ [.write 0 .enable] ++ [.read .enableStatus 1] = s.log ++ misses 1 := by
      simp [misses]
    unfold missed at hf
    rw [← hlog] at hf
    apply hf

theorem exec_go (timeout : Nat) (s : State smallFifo) :
    Exec (system smallFifo) (toggleBusState.go .off timeout) s .timeout
      (missed (timeout + 1) s) := by
  induction timeout generalizing s with
  | zero =>
    unfold toggleBusState.go
    apply exec_round
    apply Exec.ret
  | succ timeout ih =>
    unfold toggleBusState.go
    apply exec_round
    rw [← missed_missed (timeout + 1) s]
    apply ih

theorem exec_off (s : State smallFifo) :
    Exec (system smallFifo) (toggleBusState .off) s .timeout (missed 1001 s) :=
  exec_go 1000 s

theorem exec_initialiseBus (s : State smallFifo) :
    Exec (system smallFifo) initialiseBus s .error (missed 1001 s) := by
  unfold initialiseBus
  apply (exec_off s).bind
  rw [if_pos (by simp)]
  apply Exec.ret

def requestLog : List Event :=
  misses 1001
    ++ [.read .con 0x65, .write 0x10 .tar, .write 0 .intrMask, .write 1 .enable,
      .read .enableStatus 1, .read .enableStatus 1, .read .clrIntr 0,
      .write intrDefaultMask .intrMask]

theorem exec_requestTransferI2C {s : State smallFifo}
    (hworkaround : s.device.accessIntrMaskWorkaround = false) (hcon : s.hw.regs .con = 0x65)
    (hm : s.memory.message s.device.messages s.device.messageWriteIndex = ⟨0x10, 0x41, 0, 2⟩) :
    ∃ hw, Exec (system smallFifo) requestTransferI2C s ()
      { s with hw := hw, log := s.log ++ requestLog } := by
  have hsame : requestTransferI2C.writeConfiguration 0x65 (0x65 &&& ~~~con10bitaddrMaster)
      = pure () := by rfl
  have hten : ¬ (⟨0x10, 0x41, 0, 2⟩ : BusMessage).IsTen := by decide
  have hlog : s.log ++ requestLog
      = s.log ++ misses 1001 ++ [.read .con 0x65] ++ [.write 0x10 .tar] ++ [.write 0 .intrMask]
        ++ [.write 1 .enable] ++ [.read .enableStatus 1] ++ [.read .enableStatus 1]
        ++ [.read .clrIntr 0] ++ [.write intrDefaultMask .intrMask] := by
    simp only [requestLog, List.append_assoc, List.cons_append, List.nil_append]
  rw [hlog]
  apply Exists.intro
  unfold requestTransferI2C
  apply exec_device
  rw [hworkaround]
  apply (exec_off s).bind
  apply exec_readRegister (v := 0x65)
  . intro _
    rw [← hcon]
    rfl
  . apply exec_device
    refine exec_message (m := ⟨0x10, 0x41, 0, 2⟩) hm ?_
    dsimp only
    rw [if_neg hten, if_neg hten, hsame, pure_bind]
    apply exec_device
    refine exec_message (m := ⟨0x10, 0x41, 0, 2⟩) hm ?_
    apply exec_writeRegister
    apply exec_writeRegister
    apply Exec.bind
    . unfold toggleBusState toggleBusState.go
      apply exec_writeRegister
      apply exec_readRegister (v := 1)
      . apply stuckScript.canRead_answer .enableStatus
      . rw [if_pos (by decide)]
        apply Exec.ret
    . apply exec_readRegister (v := 1)
      . apply stuckScript.canRead_answer .enableStatus
      . apply exec_readRegister (v := 0)
        . intro h
          contradiction
        . apply Exec.call (r := ()) trivial
          apply Exec.ret

def stuckLog : List Event :=
  [.read .status 0] ++ requestLog ++ [.enterSleep] ++ [.sleep .timedOut] ++ misses 1001

theorem exec_transferI2C :
    ∃ s, Exec (system smallFifo) (transferI2C 7 pairList.length) pairState .timeout s
      ∧ s.log = stuckLog := by
  have hawake : pairState.device.awake = true := by decide +kernel
  have hworkaround : pairState.device.accessIntrMaskWorkaround = false := by decide +kernel
  have hcon : pairState.hw.regs .con = 0x65 := by decide +kernel
  have hm : pairState.memory.message 7 0 = ⟨0x10, 0x41, 0, 2⟩ := by decide +kernel
  let s₁ : State smallFifo :=
    { pairState with
      preparing := some 7
      log := [.read .status 0]
      device := { pairState.device with
        messages := 7
        messageNumber := pairList.length
        commandError := 0
        messageWriteIndex := 0
        messageReadIndex := 0
        messageError := 0
        status := statusIdle
        abortSource := 0
        receiveOutstanding := 0 } }
  rcases exec_requestTransferI2C (s := s₁) hworkaround hcon hm with ⟨hw, hrequest⟩
  let s₂ : State smallFifo :=
    { s₁ with
      sleeper := .running
      hw := hw
      log := s₁.log ++ requestLog ++ [.enterSleep] ++ [.sleep .timedOut] }
  have hgo : Exec (system smallFifo) (prepareTransferI2C.go 7 pairList.length)
      { pairState with preparing := some 7 } .timeout (missed 1001 s₂) := by
    unfold prepareTransferI2C.go
    apply exec_device
    rw [if_neg (by simp [hawake])]
    apply Exec.bind
    . unfold waitBusNotBusyI2C waitBusNotBusyI2C.go
      apply exec_readRegister (v := 0)
      . intro h
        contradiction
      . rw [if_neg (by decide)]
        apply Exec.ret
    . rw [if_neg (by simp)]
      iterate 9 apply exec_update
      apply hrequest.bind
      apply Exec.bind (a := SleepResult.timedOut)
      . apply Exec.call (r := ()) trivial
        apply Exec.call (r := SleepResult.timedOut)
        . simp [State.admits, State.next]
        . apply Exec.ret
      . rw [if_pos rfl]
        apply (exec_initialiseBus _).bind
        apply Exec.ret
  refine ⟨{ missed 1001 s₂ with preparing := none }, ?_, rfl⟩
  unfold transferI2C transferI2CGated transferI2CGated.go
  apply Exec.bind (a := IOReturn.timeout)
  . unfold prepareTransferI2C
    apply Exec.call (r := ()) trivial
    apply hgo.bind
    apply Exec.call (r := ()) trivial
    apply Exec.ret
  . rw [if_pos (by simp)]
    apply Exec.ret

theorem rounds_misses (n : Nat) (log : List Event) :
    rounds 0 (misses n ++ log) = List.replicate n (0, 1) ++ rounds 0 log := by
  induction n with
  | zero => rfl
  | succ n ih =>
    have hcons : misses (n + 1) ++ log
        = .write 0 .enable :: .read .enableStatus 1 :: (misses n ++ log) := by
      simp [misses, List.replicate_succ]
    rw [hcons, List.replicate_succ]
    simp only [rounds, ih, List.cons_append]

theorem statuses_misses (n : Nat) : statuses (misses n) = List.replicate n 1 := by
  induction n with
  | zero => rfl
  | succ n ih =>
    have hcons : misses (n + 1) = [.write 0 .enable, .read .enableStatus 1] ++ misses n := by
      simp [misses, List.replicate_succ]
    rw [hcons, statuses_append, ih]
    rfl

theorem mem_misses {n : Nat} {e : Event} (h : e ∈ misses n) :
    e = .write 0 .enable ∨ e = .read .enableStatus 1 := by
  rcases List.mem_flatten.mp h with ⟨round, hround, he⟩
  rw [List.eq_of_mem_replicate hround] at he
  simpa using he

theorem timedOut_misses (log : List Event) :
    TimedOut ([.read .status 0] ++ (misses 1001 ++ log)) := by
  refine ⟨0, [], List.replicate 1001 (0, 1), rounds 0 log, ?_, List.length_replicate, ?_⟩
  . rw [List.nil_append, ← rounds_misses]
    rfl
  . intro p hp
    rw [List.eq_of_mem_replicate hp]
    decide

def logBefore : List Event := [.read .status 0] ++ misses 1001 ++ [.read .con 0x65]

def logAfter : List Event :=
  [.write 0 .intrMask, .write 1 .enable, .read .enableStatus 1, .read .enableStatus 1,
    .read .clrIntr 0, .write intrDefaultMask .intrMask, .enterSleep, .sleep .timedOut]
    ++ misses 1001

theorem stuckLog_eq : stuckLog = logBefore ++ .write 0x10 .tar :: logAfter := by
  unfold stuckLog requestLog logBefore logAfter
  simp only [List.append_assoc, List.cons_append, List.nil_append]

theorem mem_stuckLog {e : Event} (h : e ∈ stuckLog) :
    e = .write 0 .enable ∨ e = .read .enableStatus 1
      ∨ e ∈ [.read .status 0, .read .con 0x65, .write 0x10 .tar, .write 0 .intrMask,
        .write 1 .enable, .read .clrIntr 0, .write intrDefaultMask .intrMask, .enterSleep,
        .sleep .timedOut] := by
  rw [stuckLog_eq, logBefore, logAfter] at h
  simp only [List.mem_append, List.mem_cons, List.not_mem_nil, or_false] at h ⊢
  have hmisses : e ∈ misses 1001 → e = .write 0 .enable ∨ e = .read .enableStatus 1 := mem_misses
  tauto

theorem unserved_stuckLog : Unserved stuckLog := by
  constructor
  . intro v h
    rcases mem_stuckLog h with h | h | h <;> simp at h
  . intro r h
    rcases mem_stuckLog h with h | h | h <;> simp at h
    apply h

theorem not_clear_logBefore : ¬ Clear logBefore := by
  rintro ⟨v, hlast, hv⟩
  have hstatuses : statuses logBefore = List.replicate 1000 1 ++ [1] := by
    unfold logBefore
    rw [statuses_append, statuses_append, statuses_misses, statuses_ne _ (by simp),
      statuses_ne _ (by simp), List.append_nil, List.nil_append]
    apply List.replicate_succ'
  rw [hstatuses, List.getLast?_concat] at hlast
  injection hlast with hlast
  rw [← hlast] at hv
  contradiction

theorem runCalls_handshake_stuck :
    TimedOut stuckLog ∧ Unserved stuckLog
      ∧ ∃ cfg, Reachable (system smallFifo) handleInterrupt pairState
          (transferI2C 7 pairList.length) cfg
        ∧ cfg.state.log = stuckLog ∧ cfg.main = .ret .timeout
        ∧ ∀ v, .write v .dataCmd ∉ cfg.state.log := by
  have htimeout : TimedOut stuckLog := by
    unfold stuckLog requestLog
    simp only [List.append_assoc]
    apply timedOut_misses
  rcases exec_transferI2C with ⟨s, hexec, hlog⟩
  have hc : Reachable (system smallFifo) handleInterrupt pairState (transferI2C 7 pairList.length)
      ⟨s, .ret .timeout, none⟩ := hexec.reachable .start
  refine ⟨htimeout, unserved_stuckLog, _, hc, hlog, rfl, ?_⟩
  refine ((runCalls_handshake pairState []).2 pairState 7 pairList.length _ .timeout rfl hc rfl rfl
    ?_ ?_).2
  . intro _
    simp only [hlog]
    apply unserved_stuckLog
  . simp only [hlog]
    apply htimeout

theorem runCalls_not_handshake :
    ∃ cfg, Reachable (system smallFifo) handleInterrupt readyState
        (runCalls [.transferI2C 7 pairList]) cfg
      ∧ ∃ before after, cfg.state.log = before ++ .write 0x10 .tar :: after ∧ ¬ Clear before := by
  rcases exec_transferI2C with ⟨s, hexec, hlog⟩
  have hcalls : Exec (system smallFifo) (runCalls [.transferI2C 7 pairList]) readyState ()
      { s with live := none } := by
    apply Exec.bind
    . apply Exec.call (r := pairMemory)
      . intro i m h
        apply Memory.put_message i m h
      . apply hexec.bind
        apply Exec.call (r := ()) trivial
        apply Exec.ret
    . apply Exec.ret
  refine ⟨_, hcalls.reachable .start, logBefore, logAfter, ?_, not_clear_logBefore⟩
  rw [← stuckLog_eq]
  apply hlog

end VoodooI2C
