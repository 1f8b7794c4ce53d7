import VoodooI2C.Transfer.Extend

/-!
This module contains that the handler writes commands only while they continue what the controller was
given before: since the interrupts of the transfer were enabled the controller was not disabled and no
abort was cleared.
-/

namespace VoodooI2C

open Interaction RegisterFile

variable {H : Hardware} {log : List Event} {e : Event} {s : State H} {status : Word}

/--
The controller may lose the commands that were written before.
-/
def Event.Breaks (e : Event) : Prop :=
  match e with
  | .read reg _ => reg = .clrIntr ∨ reg = .clrTxAbrt
  | .write _ reg => reg = .enable
  | _ => False

def Broken (log : List Event) : Prop :=
  ∃ before e after, log = before ++ e :: after ∧ Begun before ∧ e.Breaks

theorem Begun.append (h : Begun log) (t : List Event) : Begun (log ++ t) :=
  List.mem_append_left t h

theorem Broken.append (h : Broken log) (t : List Event) : Broken (log ++ t) := by
  rcases h with ⟨before, e, after, rfl, hbegun, he⟩
  exact ⟨before, e, after ++ t, by simp, hbegun, he⟩

theorem Begun.broken (h : Begun log) (he : e.Breaks) : Broken (log ++ [e]) :=
  ⟨log, e, [], rfl, h, he⟩

theorem Broken.begun (h : Broken log) : Begun log := by
  rcases h with ⟨before, e, after, rfl, hbegun, _⟩
  apply hbegun.append

theorem broken_concat (he : ¬ e.Breaks) : Broken (log ++ [e]) ↔ Broken log := by
  constructor
  . rintro ⟨before, e', after, heq, hbegun, hbreaks⟩
    rcases List.eq_nil_or_concat after with rfl | ⟨after, e'', rfl⟩
    . rcases List.append_inj' heq rfl with ⟨_, hlast⟩
      injection hlast with hlast
      rw [← hlast] at hbreaks
      exact absurd hbreaks he
    . rw [List.concat_eq_append, ← List.cons_append, ← List.append_assoc] at heq
      rcases List.append_inj' heq rfl with ⟨rfl, _⟩
      exact ⟨before, e', after, rfl, hbegun, hbreaks⟩
  . intro h
    apply h.append

def Unbroken (log : List Event) : Prop := Begun log ∧ ¬ Broken log

/--
What holds between the parts of the handler: the driver knows that the transfer is broken, or `status`
tells it.
-/
structure Linked (status : Word) (s : State H) : Prop where
  begun : Begun s.log
  broken : Broken s.log → s.device.commandError ≠ 0 ∨ status &&& intrTxAbrt ≠ 0

def LinkGuard (op : Op) (s : State H) : Prop :=
  ∀ v, op = .writeRegister v .dataCmd → Unbroken s.log

instance : Lenient (LinkGuard (H := H)) where
  device _ _ h := by contradiction
  update _ _ _ h := by contradiction
  commandWakeup _ _ h := by contradiction

/-! Operations that break nothing. -/

def MildOp (op : Op) : Prop :=
  match op with
  | .readRegister reg => reg ≠ .clrIntr ∧ reg ≠ .clrTxAbrt
  | .writeRegister _ reg => reg ≠ .enable
  | .beginTransfer _ _ => False
  | _ => True

theorem ReadFromBusOp.mildOp {op : Op} (h : ReadFromBusOp op) : MildOp op := by
  cases op with
  | readRegister reg => rcases h with rfl | rfl <;> simp [MildOp]
  | writeRegister _ _ | beginTransfer _ _ => contradiction
  | _ => trivial

theorem TransferMessageToBusOp.mildOp {op : Op} (h : TransferMessageToBusOp op) : MildOp op := by
  cases op with
  | readRegister reg => rcases h with rfl | rfl <;> simp [MildOp]
  | writeRegister v reg => rcases h with rfl | rfl <;> simp [MildOp]
  | beginTransfer _ _ => contradiction
  | _ => trivial

theorem Unbroken.concat (h : Unbroken log) (he : ¬ e.Breaks) : Unbroken (log ++ [e]) :=
  ⟨h.1.append _, fun hbroken => h.2 ((broken_concat he).mp hbroken)⟩

theorem Unbroken.next {op : Op} {r : op.Ans} (h : Unbroken s.log) (hop : MildOp op) :
    Unbroken (State.next op s r).log := by
  cases op with
  | readRegister reg =>
    apply h.concat
    rintro (rfl | rfl)
    . exact hop.1 rfl
    . exact hop.2 rfl
  | writeRegister v reg => apply h.concat (e := .write v reg) hop
  | store _ _ | enterSleep | leaveSleep | commandWakeup => exact h.concat id
  | reach point => cases point <;> exact h
  | beginTransfer _ _ => contradiction
  | _ => exact h

theorem Unbroken.linked (h : Unbroken s.log) : Linked status s :=
  ⟨h.1, fun hbroken => absurd hbroken h.2⟩

theorem Unbroken.wp {q : Driver Unit} (h : Unbroken s.log) (hq : q.Performs MildOp) :
    wp (system H) LinkGuard q (fun _ => Linked 0) s := by
  apply wp_post
  . apply wp_performs (A := fun s : State H => Unbroken s.log) hq
    . rintro s _ h ⟨hw, _, rfl⟩
      apply h
    . intro op s _ h _ _
      apply h
    . intro op s r hop h _
      apply h.next hop
    . apply h
  . intro _ s h
    apply h.linked

def SkipOp (op : Op) : Prop :=
  match op with
  | .readRegister reg => reg ≠ .clrIntr ∧ reg ≠ .clrTxAbrt
  | .device => True
  | _ => False

theorem clearInterrupt_skip (status bit : Word) {reg : Register}
    (hreg : reg ≠ .clrIntr ∧ reg ≠ .clrTxAbrt) :
    (clearInterrupt status bit reg).Performs SkipOp := by
  unfold clearInterrupt
  split
  . simp only [performs_readRegister_bind, performs_pure, implies_true, and_true]
    apply hreg
  . simp

theorem clear_skip (hbit : ¬ status &&& intrTxAbrt ≠ 0) :
    (readClearInterruptBits.clear status).Performs SkipOp := by
  unfold readClearInterruptBits.clear readClearInterruptBits.clearTxAbrt
  rw [if_neg hbit]
  iterate 4 apply Prog.performs_bind (clearInterrupt_skip _ _ (by simp)) fun _ => ?_
  apply Prog.performs_bind (performs_pure _) fun _ => ?_
  iterate 2 apply Prog.performs_bind (clearInterrupt_skip _ _ (by simp)) fun _ => ?_
  apply Prog.performs_bind _ fun _ => ?_
  . unfold readClearInterruptBits.clearStopDet
    simp only [performs_device_bind]
    refine ⟨trivial, fun d => ?_⟩
    split
    . simp only [performs_readRegister_bind, performs_pure, implies_true, and_true]
      simp [SkipOp]
    . simp
  . apply Prog.performs_bind (clearInterrupt_skip _ _ (by simp)) fun _ => ?_
    apply clearInterrupt_skip _ _ (by simp)

namespace Linked

theorem append {hw : H.State} {sleeper : Sleeper} (h : Linked status s) (he : ¬ e.Breaks) :
    Linked status { s with hw := hw, sleeper := sleeper, log := s.log ++ [e] } where
  begun := h.begun.append _
  broken hbroken := h.broken ((broken_concat he).mp hbroken)

theorem stable : (system H).Stable (Linked (H := H) status) := by
  rintro s _ h ⟨hw, _, rfl⟩
  exact { h with }

theorem seen (h : Linked status s) (hbit : ¬ status &&& intrTxAbrt ≠ 0) : Linked 0 s where
  begun := h.begun
  broken hbroken := .inl ((h.broken hbroken).resolve_right hbit)

theorem wp_clear (h : Linked 0 s) :
    wp (system H) LinkGuard (readClearInterruptBits.clear status) (fun _ => Linked status) s := by
  by_cases hbit : status &&& intrTxAbrt ≠ 0
  . apply wp_post
    . apply wp_performs (A := fun s : State H => Begun s.log) (performs_clear status)
      . rintro s _ h ⟨hw, _, rfl⟩
        apply h
      . rintro op s (hop | ⟨a, rfl⟩) _ v heq
        . subst heq
          contradiction
        . contradiction
      . rintro op s r (hop | ⟨a, rfl⟩) h _
        . cases op with
          | readRegister reg => apply h.append
          | device | disableInterrupt | enableInterrupt => apply h
          | _ => contradiction
        . apply h
      . apply h.begun
    . intro _ s h
      exact ⟨h, fun _ => .inr hbit⟩
  . apply wp_post
    . apply wp_performs (A := fun s : State H => Linked 0 s) (clear_skip hbit) stable
      . rintro op s hop _ v rfl
        contradiction
      . intro op s r hop h _
        cases op with
        | readRegister reg =>
          apply h.append
          rintro (rfl | rfl)
          . exact hop.1 rfl
          . exact hop.2 rfl
        | device => apply h
        | _ => contradiction
      . apply h
    . intro _ s h
      exact ⟨h.begun, fun hbroken => .inl ((h.broken hbroken).resolve_right (by simp))⟩

theorem wp_abort (h : Linked status s) :
    wp (system H) LinkGuard serviceInterrupt.abort (fun _ => Linked 0) s := by
  have herror := or_errTxAbrt_ne_zero s.device.commandError
  unfold serviceInterrupt.abort
  apply wp_update
  apply wp_update
  apply wp_update
  apply wp_tail
  apply wp_writeRegister
  intro hw _
  refine ⟨by simp [LinkGuard], ?_⟩
  apply wp_done
  intro hw' _
  exact ⟨h.begun.append _, fun _ => .inl herror⟩

theorem wp_wakeup (h : Linked 0 s) :
    wp (system H) LinkGuard (serviceInterrupt.wakeup status) (fun _ => Linked 0) s := by
  apply wp_performs (performs_wakeup status) stable
  . rintro op s hop _ v rfl
    contradiction
  . intro op s r hop h _
    cases op with
    | readRegister reg | writeRegister v reg =>
      have hop : reg = .intrMask := hop
      subst hop
      apply h.append
      simp [Event.Breaks]
    | commandWakeup => exact h.append id
    | device => apply h
    | _ => contradiction
  . apply h

end Linked

variable [RegisterFile H] {p : Pointer} {list : List BusMessage} {byte₀ : Address → Byte}

namespace Linked

theorem unbroken {bit : Word} (h : Linked 0 s) (hon : On p list byte₀ s)
    (hstatus : Unmasked status s) (hbit : status &&& bit ≠ 0) : Unbroken s.log := by
  refine ⟨h.begun, fun hbroken => ?_⟩
  have herror := (h.broken hbroken).resolve_right (by simp)
  rcases hon with ⟨_, _, ⟨hzero, _⟩ | haborted⟩
  . exact absurd hzero herror
  . rw [eq_zero_of_aborted haborted hstatus] at hbit
    simp at hbit

theorem wp_receive (h : Linked 0 s) (hon : On p list byte₀ s) (hstatus : Unmasked status s) :
    wp (system H) LinkGuard (serviceInterrupt.receive status) (fun _ => Linked 0) s := by
  unfold serviceInterrupt.receive
  split
  . next hbit =>
    apply (h.unbroken hon hstatus hbit).wp
    apply Prog.performs_mono performs_readFromBus
    intro op hop
    apply hop.mildOp
  . apply wp_done
    intro hw _
    exact { h with }

theorem wp_send (h : Linked 0 s) (hon : On p list byte₀ s) (hstatus : Unmasked status s) :
    wp (system H) LinkGuard (serviceInterrupt.send status) (fun _ => Linked 0) s := by
  unfold serviceInterrupt.send
  split
  . next hbit =>
    apply (h.unbroken hon hstatus hbit).wp
    apply Prog.performs_mono performs_transferMessageToBus
    intro op hop
    apply hop.mildOp
  . apply wp_done
    intro hw _
    exact { h with }

theorem preserved (p : Pointer) (list : List BusMessage) (byte₀ : Address → Byte) :
    Preserved p list byte₀ (LinkGuard (H := H)) (Linked 0) (fun _ => True) where
  quiet :=
    { stable := stable
      next := fun op s r hop h _ => by
        cases op with
        | readRegister reg =>
          apply h.append
          rcases hop with rfl | rfl <;> simp [Event.Breaks]
        | device | disableInterrupt | enableInterrupt => apply h
        | _ => contradiction }
  guard op s hop _ _ v heq := by
    subst heq
    contradiction
  service s status hon h hread := by
    apply On.wp_service (Linked 0) (Linked status) (Linked 0) (Linked 0) (Linked 0)
    . apply hon.append
      . apply Silent.read
        simp
      . apply value_intrMask_read
    . unfold Unmasked
      rw [value_read (by rfl)]
      apply canRead_intrStat hread
    . apply h.append
      simp [Event.Breaks]
    . intro s _ _ h
      apply h.wp_clear
    . intro _ s _ _ h
      apply h.wp_abort
    . intro hbit s hon hstatus h
      apply (h.seen hbit).wp_receive hon hstatus
    . intro _ s hon hstatus h
      apply h.wp_send hon hstatus
    . intro s _ h
      apply h.wp_wakeup
  log_stable _ _ _ _ := trivial
  log_next _ _ _ _ _ _ _ := trivial

end Linked

def linkExtension (s₀ : State H) (p : Pointer) (list : List BusMessage) :
    Extension s₀ p list (fun _ => True) (fun _ => True) where
  guard := LinkGuard
  on := Linked 0
  left _ := Linked 0
  done _ _ := True
  log _ := True
  on_preserved := Linked.preserved p list s₀.memory.byte
  left_preserved _ := Linked.preserved p list s₀.memory.byte
  cleared_clrIntr _ _ _ _ := trivial
  cleared_calm _ _ := trivial
  cleared_step _ _ _ _ := trivial
  cleared_read _ _ _ _ _ _ := trivial
  cleared_write _ _ := trivial
  start s _ _ _ hlog _ _ _ s' hs' := by
    rw [hs']
    refine ⟨⟨List.mem_append_right _ (List.mem_singleton_self _), ?_⟩, trivial⟩
    intro hbroken
    have hbegun := ((broken_concat (by simp [Event.Breaks])).mp hbroken).begun
    exact absurd hbegun hlog.not_begun
  sleep s _ h _ _ s' hs' := by
    rw [hs']
    exact ⟨h.append id, trivial⟩
  leave s r _ h _ _ _ s' hs' := by
    rw [hs']
    exact ⟨h.append id, trivial⟩
  off _ _ _ _ _ _ _ _ := ⟨trivial, trivial⟩
  done_untouched _ :=
    { step := fun _ _ _ _ => ⟨trivial, trivial⟩
      read := fun _ _ _ _ _ _ => ⟨trivial, trivial⟩
      write := fun _ _ _ _ _ _ _ => ⟨trivial, trivial⟩ }
  done_return _ _ _ _ := ⟨trivial, trivial⟩

theorem unbroken_of_reachable {memory : Memory} {c : Config (system H) IOReturn} {v : Word}
    {k : Unit → Driver Unit} (h₀ : Between s)
    (hmessage : ∀ i m, list[i]? = some m → memory.message p i = m)
    (hc : Reachable (system H) handleInterrupt (State.next (.beginTransfer p list) s memory)
      (transferI2C p list.length) c)
    (hhd : c.handler = some (.call (.writeRegister v .dataCmd) k)) : Unbroken c.state.log := by
  let e := linkExtension (State.next (.beginTransfer p list) s memory) p list
  have hrest := e.resting (h₀.atRest Calm.true) Calm.true hmessage
  rcases e.reachable_handler rfl hmessage Calm.true hrest hc hhd with ⟨hop, _⟩ | h | ⟨r, hop, _⟩
  . rcases hop with hop | hop
    . contradiction
    . simp at hop
  . apply h.2.1 v rfl
  . contradiction

end VoodooI2C
