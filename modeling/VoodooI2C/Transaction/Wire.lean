import VoodooI2C.Transaction.Link
import VoodooI2C.Transaction.Run

/-!
This module contains that what the controller executes during a transfer begins what the list of
messages is meant to send and receive, also if the transfer fails, is aborted or is not waited for.
-/

namespace VoodooI2C

open Interaction RegisterFile

variable {B : Bus} {txDepth rxDepth : Word} {list : List BusMessage} {p : Pointer} {e₀ : List Word}
  {log : List Event} {h h' : Fifo} {v : Word} {reg : Register}

/--
What was executed since the transfer began and what is in the transmit FIFO begin the words that were
written. They are all of them unless the controller aborted or was disabled.
-/
structure Wire (e₀ : List Word) (log : List Event) (h : Fifo) : Prop where
  begun : words log ≠ [] → Begun log
  queued : ∃ done, h.executed = e₀ ++ done ∧ done ++ h.tx <+: words log
    ∧ (done ++ h.tx = words log ∨ h.txAbrt = true ∨ h.regs .enable = 0 ∨ Broken log)

namespace Wire

theorem step {n : Nat} (hwire : Wire e₀ log h) (hstep : Fifo.Step n h h') : Wire e₀ log h' := by
  refine ⟨hwire.begun, ?_⟩
  rcases hwire.queued with ⟨done, hexecuted, hbegins, hall⟩
  cases hstep with
  | execute hc =>
    rename_i c _
    rcases List.head?_eq_some_iff.mp hc with ⟨tx, htx⟩
    have hmoved : (done ++ [c]) ++ h.tx.tail = done ++ h.tx := by
      rw [htx, List.tail_cons, List.append_assoc, List.singleton_append]
    refine ⟨done ++ [c], ?_, ?_, ?_⟩
    . simp only [Fifo.execute]
      rw [hexecuted, List.append_assoc]
    . simp only [Fifo.execute]
      rw [hmoved]
      apply hbegins
    . simp only [Fifo.execute]
      rw [hmoved]
      apply hall
  | abort _ =>
    refine ⟨done, hexecuted, ?_, .inr (.inl rfl)⟩
    rw [show h.abort.tx = [] from rfl, List.append_nil]
    exact (List.prefix_append done h.tx).trans hbegins
  | stop _ => exact ⟨done, hexecuted, hbegins, hall⟩

theorem append {e : Event} (hwire : Wire e₀ log h) (he : words [e] = []) :
    Wire e₀ (log ++ [e]) h := by
  rcases hwire.queued with ⟨done, hexecuted, hbegins, hall⟩
  have hwords : words (log ++ [e]) = words log := by
    rw [words_append, he, List.append_nil]
  refine ⟨?_, done, hexecuted, ?_, ?_⟩
  . rw [hwords]
    intro hne
    apply (hwire.begun hne).append
  . rw [hwords]
    apply hbegins
  . rw [hwords]
    exact hall.imp_right (Or.imp_right (Or.imp_right fun hbroken => hbroken.append _))

theorem change {e : Event} (hwire : Wire e₀ log h) (he : words [e] = [])
    (hexecuted : h'.executed = h.executed)
    (hkept : e.Breaks ∧ (h'.tx = h.tx ∨ h'.tx = [])
      ∨ h'.tx = h.tx ∧ h'.txAbrt = h.txAbrt ∧ h'.regs .enable = h.regs .enable) :
    Wire e₀ (log ++ [e]) h' := by
  rcases (hwire.append he).queued with ⟨done, hdone, hbegins, hall⟩
  refine ⟨(hwire.append he).begun, done, hexecuted.trans hdone, ?_⟩
  rcases hkept with ⟨hbreaks, htx⟩ | ⟨htx, habrt, henable⟩
  . have hbegins' : done ++ h'.tx <+: words (log ++ [e]) := by
      rcases htx with htx | htx
      . rw [htx]
        apply hbegins
      . rw [htx, List.append_nil]
        exact (List.prefix_append done h.tx).trans hbegins
    refine ⟨hbegins', ?_⟩
    by_cases hnil : words log = []
    . left
      rw [words_append, he, hnil, List.append_nil] at hbegins' ⊢
      apply List.prefix_nil.mp hbegins'
    . right; right; right
      apply (hwire.begun hnil).broken hbreaks
  . rw [htx, habrt, henable]
    exact ⟨hbegins, hall⟩

theorem read (hwire : Wire e₀ log h) (reg : Register) (v : Word) :
    Wire e₀ (log ++ [.read reg v]) (h.read reg) := by
  apply hwire.change rfl (Fifo.executed_read reg h)
  cases reg with
  | clrIntr => exact .inl ⟨.inl rfl, .inl rfl⟩
  | clrTxAbrt => exact .inl ⟨.inr rfl, .inl rfl⟩
  | _ => exact .inr ⟨rfl, rfl, rfl⟩

theorem write (hwire : Wire e₀ log h) (hreg : reg ≠ .dataCmd) (n : Nat) (v : Word) :
    Wire e₀ (log ++ [.write v reg]) (h.write n v reg) := by
  have hwords : words [.write v reg] = [] := words_write_ne v hreg
  apply hwire.change hwords (Fifo.executed_write n v reg h)
  by_cases henable : reg = .enable
  . subst henable
    left
    refine ⟨rfl, ?_⟩
    unfold Fifo.write
    dsimp only
    split
    . exact .inr rfl
    . exact .inl rfl
  . right
    unfold Fifo.write
    split
    . contradiction
    . contradiction
    . refine ⟨rfl, rfl, ?_⟩
      dsimp only
      rw [Function.update_of_ne (Ne.symm henable)]

theorem push {n : Nat} (hwire : Wire e₀ log h) (hunbroken : Unbroken log) (hroom : h.tx.length < n)
    (v : Word) : Wire e₀ (log ++ [.write v .dataCmd]) (h.write n v .dataCmd) := by
  rcases hwire.queued with ⟨done, hexecuted, hbegins, hall⟩
  have hwords : words (log ++ [.write v .dataCmd]) = words log ++ [v] := by
    rw [words_append, words_write_dataCmd, words_nil]
  refine ⟨fun _ => hunbroken.1.append _, done,
    (Fifo.executed_write n v .dataCmd h).trans hexecuted, ?_⟩
  rw [hwords]
  by_cases haccepted : h.regs .enable ≠ 0 ∧ h.tx.length < n ∧ h.txAbrt = false
  . have hall : done ++ h.tx = words log := by
      rcases hall with hall | habrt | hdisabled | hbroken
      . exact hall
      . rw [haccepted.2.2] at habrt
        contradiction
      . exact absurd hdisabled haccepted.1
      . exact absurd hbroken hunbroken.2
    have hpushed : done ++ (h.write n v .dataCmd).tx = words log ++ [v] := by
      unfold Fifo.write
      dsimp only
      rw [if_pos haccepted, ← List.append_assoc, hall]
    rw [hpushed]
    exact ⟨List.prefix_refl _, .inl rfl⟩
  . have hlost : h.write n v .dataCmd = h := by
      unfold Fifo.write
      dsimp only
      rw [if_neg haccepted]
    rw [hlost]
    refine ⟨hbegins.trans (List.prefix_append _ _), .inr ?_⟩
    by_cases hdisabled : h.regs .enable = 0
    . exact .inr (.inl hdisabled)
    . left
      by_contra habrt
      rw [Bool.not_eq_true] at habrt
      exact haccepted ⟨hdisabled, hroom, habrt⟩

end Wire

section Runs

variable {s : State (fifo txDepth rxDepth)} {memory : Memory}

theorem wire_next {op : Op} {r : op.Ans} (hwire : Wire e₀ s.log s.hw)
    (hop : CallerOp op ∨ HandlerOp op)
    (hpush : ∀ v, op = .writeRegister v .dataCmd →
      Unbroken s.log ∧ s.hw.tx.length < txDepth.toNat) :
    Wire e₀ (State.next op s r).log (State.next op s r).hw := by
  cases op with
  | readRegister reg => apply hwire.read
  | writeRegister v reg =>
    by_cases hreg : reg = .dataCmd
    . subst hreg
      have hroom := hpush v rfl
      apply hwire.push hroom.1 hroom.2
    . apply hwire.write hreg
  | store _ _ | enterSleep | leaveSleep | commandWakeup => exact hwire.append rfl
  | reach point => cases point <;> exact hwire
  | beginTransfer _ _ | losePower => rcases hop with hop | hop <;> exact absurd hop id
  | _ => exact hwire

theorem wire_of_reachable {c : Config (system (fifo txDepth rxDepth)) IOReturn} (h₀ : Between s)
    (hdepths : Depths txDepth rxDepth s.device)
    (hmessage : ∀ i m, list[i]? = some m → memory.message p i = m)
    (hc : Reachable (system (fifo txDepth rxDepth)) handleInterrupt
      (State.next (.beginTransfer p list) s memory) (transferI2C p list.length) c) :
    Wire s.hw.executed c.state.log c.state.hw := by
  have hK := Fifo.Empty.calm txDepth rxDepth
  have hrest := h₀.atRest hK
  induction hc with
  | start =>
    have htx : (State.next (.beginTransfer p list) s memory).hw.tx = [] := hrest.calm.tx
    refine ⟨fun hne => absurd rfl hne, [], (List.append_nil _).symm, ?_, .inl ?_⟩
    . rw [htx]
      apply List.nil_prefix
    . rw [htx]
      rfl
  | step hprev hstep ih =>
    cases hstep with
    | env henv =>
      rcases henv with ⟨hw, hstep, rfl⟩
      apply ih.step hstep
    | enter | leave => apply ih
    | @main op s' r k hr =>
      have hop := reachable_callerOp hprev rfl rfl
      apply wire_next ih (.inl hop)
      rintro v rfl
      exact absurd rfl hop
    | @handler op s' r _ k hr =>
      apply wire_next ih (.inr (reachable_handlerOp hprev rfl))
      rintro v rfl
      refine ⟨unbroken_of_reachable h₀ hmessage hprev rfl, ?_⟩
      let e := flowExtension (State.next (.beginTransfer p list) s memory) p list hdepths
      rcases e.reachable_handler rfl hmessage hK (e.resting hrest hK hmessage) hprev rfl
        with ⟨hop, _⟩ | h | ⟨r, hop, _⟩
      . rcases hop with hop | hop
        . contradiction
        . simp at hop
      . apply (h.2.1.2 rfl).1
      . contradiction

end Runs

/-! Calls that do not access the data register leave the bus alone. -/

def DataFree (op : Op) : Prop :=
  match op with
  | .readRegister reg | .writeRegister _ reg => reg ≠ .dataCmd
  | _ => True

/--
Both FIFOs are empty, and neither the controller nor the devices on the bus did anything since `t`.
-/
structure Unmoved (t s : State (B.attach txDepth rxDepth)) : Prop where
  empty : s.hw.1.Empty
  executed : s.hw.1.executed = t.hw.1.executed
  bus : s.hw.2 = t.hw.2

namespace Unmoved

variable {s t : State (B.attach txDepth rxDepth)}

theorem step {hw : Fifo × B.State} (h : Unmoved t s) (hstep : B.Step rxDepth.toNat s.hw hw) :
    Unmoved t ({ s with hw := hw } : State (B.attach txDepth rxDepth)) := by
  have hfifo := h.empty.step hstep.fifo
  have hbus : hw.2 = s.hw.2 := by
    rcases hs : s.hw with ⟨f, bus⟩
    rw [hs] at hstep
    cases hstep with
    | execute hc =>
      have hnil : f.tx = [] := by
        have := h.empty.tx
        rw [hs] at this
        apply this
      rw [hnil] at hc
      contradiction
    | abort _ | stop _ => rfl
  refine ⟨?_, ?_, hbus.trans h.bus⟩
  . dsimp only
    rw [hfifo]
    apply h.empty
  . dsimp only
    rw [hfifo]
    apply h.executed

theorem next {op : Op} {r : op.Ans} (h : Unmoved t s) (hop : DataFree op) :
    Unmoved t (State.next op s r) := by
  cases op with
  | readRegister reg =>
    exact ⟨h.empty.read hop, (Fifo.executed_read reg s.hw.1).trans h.executed, h.bus⟩
  | writeRegister v reg =>
    exact ⟨h.empty.write hop, (Fifo.executed_write _ v reg s.hw.1).trans h.executed, h.bus⟩
  | losePower => exact ⟨⟨rfl, rfl, rfl, rfl⟩, h.executed, h.bus⟩
  | reach point => cases point <;> exact ⟨h.empty, h.executed, h.bus⟩
  | _ => exact ⟨h.empty, h.executed, h.bus⟩

theorem of_reachable {α : Type} {q : Driver α} {c : Config (system (B.attach txDepth rxDepth)) α}
    (hempty : t.hw.1.Empty)
    (hmain : ∀ c op k, Reachable (system (B.attach txDepth rxDepth)) handleInterrupt t q c →
      c.handler = none → c.main = .call op k → DataFree op)
    (hhandler : ∀ c op k, Reachable (system (B.attach txDepth rxDepth)) handleInterrupt t q c →
      c.handler = some (.call op k) → DataFree op)
    (hc : Reachable (system (B.attach txDepth rxDepth)) handleInterrupt t q c) :
    Unmoved t c.state := by
  induction hc with
  | start => exact ⟨hempty, rfl, rfl⟩
  | step hprev hstep ih =>
    cases hstep with
    | env henv =>
      rcases henv with ⟨hw, hstep, rfl⟩
      apply ih.step hstep
    | enter | leave => apply ih
    | main _ => apply ih.next (hmain _ _ _ hprev rfl rfl)
    | handler _ => apply ih.next (hhandler _ _ _ hprev rfl)

end Unmoved

def listTarget (list : List BusMessage) : Word :=
  match list with
  | [] => 0
  | m :: _ => m.target

/--
The commands `done` begin what the list is meant to send and receive, up to restart bits, and they
take the devices from `bus` to `bus'`.
-/
def Bus.Carries (B : Bus) (list : List BusMessage) (byte : Address → Byte) (done : List Word)
    (bus bus' : B.State) : Prop :=
  done.map (fun v => v &&& ~~~0x400) <+: stream list byte
    ∧ bus' = (B.play (listTarget list) done bus).2

theorem Bus.Carries.nil (bus : B.State) (byte : Address → Byte) :
    B.Carries list byte [] bus bus := by
  constructor
  . apply List.nil_prefix
  . rfl

section Call

variable {s : State (B.attach txDepth rxDepth)} {memory : Memory}
  {c : Config (system (B.attach txDepth rxDepth)) IOReturn} (h₀ : Between s)
  (hc : Reachable (system (B.attach txDepth rxDepth)) handleInterrupt
    (State.next (.beginTransfer p list) s memory) (transferI2C p list.length) c)
include h₀ hc

theorem carries_of_awake (hdepths : Depths txDepth rxDepth s.device) (hapart : Apart list)
    (hmessage : ∀ i m, list[i]? = some m → memory.message p i = m) (hawake : s.device.awake = true) :
    ∃ done, c.state.hw.1.executed = s.hw.1.executed ++ done
      ∧ B.Carries list memory.byte done s.hw.2 c.state.hw.2 := by
  have hc' := (detached B txDepth rxDepth).reachable hc
  have hwire := wire_of_reachable h₀.detach hdepths hmessage hc'
  have hsent := reachable_sent h₀.detach hmessage hc'
  have htraced : Traced (memory.message p 0).target s.hw.1.executed s.hw.2 c.state.log c.state.hw :=
    traced_of_between h₀ hdepths hmessage hawake hc
  rcases htraced.played with ⟨new, hexecuted, hbus, _⟩
  rcases hwire.queued with ⟨done, hdone, hbegins, _⟩
  have hnew : new = done := List.append_cancel_left (hexecuted.symm.trans hdone)
  subst hnew
  have hstream : new.map (fun v => v &&& ~~~0x400) <+: stream list memory.byte := by
    have hwords := hsent.prefix hapart
    refine List.IsPrefix.trans ?_ hwords
    apply List.IsPrefix.map
    exact (List.prefix_append new _).trans hbegins
  refine ⟨new, hexecuted, hstream, ?_⟩
  cases list with
  | nil =>
    have hnil : new = [] := by
      rw [← List.map_eq_nil_iff]
      apply List.prefix_nil.mp hstream
    rw [hbus, hnil]
    rfl
  | cons m list =>
    rw [hbus, hmessage 0 m rfl]
    rfl

theorem carries_of_asleep (hasleep : s.device.awake = false) :
    c.state.hw.1.executed = s.hw.1.executed ++ []
      ∧ B.Carries list memory.byte [] s.hw.2 c.state.hw.2 := by
  have hrest := h₀.detach.atRest (Fifo.Empty.calm txDepth rxDepth)
  have hnoAccess : ∀ c, Reachable (system (B.attach txDepth rxDepth)) handleInterrupt
      (State.next (.beginTransfer p list) s memory) (transferI2C p list.length) c → NoAccess c :=
    fun c hc => (transferI2C_asleep (s := State.next (.beginTransfer p list) s memory) hasleep hc).1
  have hfree : ∀ op : Op, ¬ op.IsAccess → DataFree op := by
    intro op hop
    cases op with
    | readRegister _ | writeRegister _ _ => exact absurd trivial hop
    | _ => trivial
  have hunmoved := Unmoved.of_reachable (t := State.next (.beginTransfer p list) s memory) hrest.calm
    (fun c op k hc hnone hmain => hfree op ((hnoAccess c hc).1 op k hnone hmain))
    (fun c op k hc hhd => hfree op ((hnoAccess c hc).2 op k hhd)) hc
  constructor
  . rw [hunmoved.executed, List.append_nil]
    rfl
  . rw [hunmoved.bus]
    apply Bus.Carries.nil

end Call

/--
What the devices on the bus see of a transfer is at any time the beginning of what its list of messages
is meant to send and receive.
-/
theorem transferI2C_carries {s : State (B.attach txDepth rxDepth)} {memory : Memory}
    {c : Config (system (B.attach txDepth rxDepth)) IOReturn} (h₀ : Between s)
    (hdepths : Depths txDepth rxDepth s.device) (hapart : Apart list)
    (hmessage : ∀ i m, list[i]? = some m → memory.message p i = m)
    (hc : Reachable (system (B.attach txDepth rxDepth)) handleInterrupt
      (State.next (.beginTransfer p list) s memory) (transferI2C p list.length) c) :
    ∃ done, c.state.hw.1.executed = s.hw.1.executed ++ done
      ∧ B.Carries list memory.byte done s.hw.2 c.state.hw.2 := by
  by_cases hawake : s.device.awake = true
  . apply carries_of_awake h₀ hc hdepths hapart hmessage hawake
  . rw [Bool.not_eq_true] at hawake
    exact ⟨[], carries_of_asleep h₀ hc hawake⟩

def cutRun : Config (system registerFifo) IOReturn :=
  registerPlayer.play handleInterrupt
    (List.replicate 28 .main ++ [.handler, .env] ++ List.replicate 20 .main)
    ⟨State.next (.beginTransfer 7 shortList) registerState (registerState.memory.put shortList),
      transferI2C 7 shortList.length, none⟩

theorem transferI2C_carries_cut :
    cutRun.main = .ret .timeout
      ∧ cutRun.state.hw.1.executed = [0x41]
      ∧ ∃ done, cutRun.state.hw.1.executed = registerState.hw.1.executed ++ done
          ∧ registerBus.Carries shortList (registerState.memory.put shortList).byte done
              registerState.hw.2 cutRun.state.hw.2 := by
  have hdepths : Depths 2 2 registerState.device := ⟨by decide +kernel, by decide +kernel⟩
  refine ⟨rfl, by decide +kernel, ?_⟩
  apply transferI2C_carries between_registerState hdepths _ Memory.put_message
    (registerPlayer.reachable_play handleInterrupt _)
  unfold Apart
  decide

end VoodooI2C
