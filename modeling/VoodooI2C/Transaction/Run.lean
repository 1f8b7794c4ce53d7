import VoodooI2C.Completion.Run
import VoodooI2C.Power.Stop
import VoodooI2C.Transaction.Commands
import VoodooI2C.Restart.Run
import VoodooI2C.Transaction.Target

/-!
This module contains that a transfer that succeeds does to the devices on the bus and to the memory of
the caller what its list of messages is meant to do, however the caller, the handler and the controller
are interleaved.
-/

namespace VoodooI2C

open Interaction RegisterFile

variable {B : Bus} {txDepth rxDepth : Word} {list : List BusMessage} {p : Pointer} {target : Word}
  {e₀ : List Word} {bus₀ : B.State} {s : State (B.attach txDepth rxDepth)} {v : Word} {reg : Register}

namespace Fifo

theorem tx_write_of_disabled {n : Nat} {h : Fifo} (henabled : h.regs .enable = 0 → h.tx = [])
    (hdisabled : (h.write n v reg).regs .enable = 0) : (h.write n v reg).tx = [] := by
  by_cases hreg : reg = .dataCmd
  . subst hreg
    rw [regs_write_dataCmd] at hdisabled
    unfold write
    dsimp only
    rw [if_neg fun h => h.1 hdisabled]
    apply henabled hdisabled
  . by_cases henable : reg = .enable
    . subst henable
      rw [regs_write n v h hreg, Function.update_self] at hdisabled
      unfold write
      dsimp only
      rw [if_pos hdisabled]
    . rw [regs_write n v h hreg, Function.update_of_ne (Ne.symm henable)] at hdisabled
      apply tx_write hreg (henabled hdisabled)

theorem rx_write_sublist (n : Nat) (h : Fifo) : ((h.write n v reg).rx).Sublist h.rx := by
  unfold write
  split
  . split <;> apply List.Sublist.refl
  . dsimp only
    split
    . apply List.nil_sublist
    . apply List.Sublist.refl
  . apply List.Sublist.refl

theorem rx_read {h : Fifo} (hreg : reg ≠ .dataCmd) : (h.read reg).rx = h.rx := by
  cases reg with
  | dataCmd => contradiction
  | _ => rfl

end Fifo

/--
What was executed since the transfer began was executed at `target`. All bytes that were popped or are
in the receive FIFO were received by it in this order. A byte is lost if it is still in the receive
FIFO when the controller is disabled.
-/
structure Traced (target : Word) (e₀ : List Word) (bus₀ : B.State) (log : List Event)
    (hw : Fifo × B.State) : Prop where
  enabled : hw.1.regs .enable = 0 → hw.1.tx = []
  targeted : hw.1.regs .enable ≠ 0 → Targeted log
  tar : Targeted log → hw.1.regs .tar = target
  played : ∃ new, hw.1.executed = e₀ ++ new ∧ hw.2 = (B.play target new bus₀).2
    ∧ (pops log ++ hw.1.rx).Sublist (B.play target new bus₀).1

namespace Traced

variable {log : List Event} {hw hw' : Fifo × B.State}

theorem execute {h : Fifo} {bus : B.State} {c : Word} (htraced : Traced target e₀ bus₀ log (h, bus))
    (hc : h.tx.head? = some c) (n : Nat) :
    Traced target e₀ bus₀ log
      (h.execute n c (B.execute (h.regs .tar) c bus).1, (B.execute (h.regs .tar) c bus).2) := by
  have henable : h.regs .enable ≠ 0 := by
    intro hdisabled
    have hnil : h.tx = [] := htraced.enabled hdisabled
    rw [hnil] at hc
    contradiction
  have htar : h.regs .tar = target := htraced.tar (htraced.targeted henable)
  rcases htraced.played with ⟨new, hexecuted, hbus, hbytes⟩
  dsimp only at hexecuted hbus hbytes
  refine ⟨fun hdisabled => absurd hdisabled henable, fun _ => htraced.targeted henable,
    fun _ => htar, new ++ [c], ?_, ?_, ?_⟩
  . unfold Fifo.execute
    dsimp only
    rw [hexecuted, List.append_assoc]
  . dsimp only
    rw [Bus.play_concat, htar, hbus]
  . unfold Fifo.execute
    dsimp only
    rw [Bus.play_concat, htar, hbus]
    dsimp only
    by_cases hread : isRead c
    . rw [if_pos hread]
      split
      . rw [← List.append_assoc]
        apply hbytes.append (List.Sublist.refl _)
      . apply hbytes.trans (List.sublist_append_left _ _)
    . rw [if_neg hread, if_neg fun h => hread h.1, List.append_nil]
      apply hbytes

theorem step {n : Nat} (h : Traced target e₀ bus₀ log hw) (hstep : B.Step n hw hw') :
    Traced target e₀ bus₀ log hw' := by
  cases hstep with
  | execute hc => apply h.execute hc
  | abort _ => exact { h with enabled := fun _ => rfl }
  | stop _ => exact { h with }

theorem read (h : Traced target e₀ bus₀ log hw) (hreg : reg ≠ .dataCmd) (v : Word) :
    Traced target e₀ bus₀ (log ++ [.read reg v]) (hw.1.read reg, hw.2) where
  enabled := by
    rw [Fifo.regs_read, Fifo.tx_read]
    apply h.enabled
  targeted := by
    rw [Fifo.regs_read]
    intro henable
    apply (h.targeted henable).append
  tar htargeted := by
    rw [Fifo.regs_read]
    apply h.tar
    rcases htargeted with ⟨v', hmem⟩
    exact ⟨v', by simpa using hmem⟩
  played := by
    rw [Fifo.executed_read, Fifo.rx_read hreg]
    rcases h.played with ⟨new, hexecuted, hbus, hbytes⟩
    refine ⟨new, hexecuted, hbus, ?_⟩
    rw [pops_append, pops_read_ne v hreg, pops_nil, List.append_nil]
    apply hbytes

theorem pop (h : Traced target e₀ bus₀ log hw) (hrx : hw.1.rx ≠ [])
    (hv : hw.1.CanRead .dataCmd v) :
    Traced target e₀ bus₀ (log ++ [.read .dataCmd v]) (hw.1.read .dataCmd, hw.2) where
  enabled := h.enabled
  targeted henable := (h.targeted henable).append _
  tar htargeted := by
    apply h.tar
    rcases htargeted with ⟨v', hmem⟩
    exact ⟨v', by simpa using hmem⟩
  played := by
    rcases h.played with ⟨new, hexecuted, hbus, hbytes⟩
    refine ⟨new, hexecuted, hbus, ?_⟩
    rcases List.exists_cons_of_ne_nil hrx with ⟨b, rx, heq⟩
    have hb : v.setWidth 8 = b := by
      apply hv
      rw [heq, List.head?_cons]
    rw [heq] at hbytes
    rw [pops_append, pops_read_dataCmd, pops_nil, hb]
    unfold Fifo.read
    dsimp only
    rw [heq, List.tail_cons, List.append_assoc]
    apply hbytes

theorem write (h : Traced target e₀ bus₀ log hw) (htarget : reg = .tar → v = target)
    (henable : reg = .enable → v ≠ 0 → Targeted log) (n : Nat) :
    Traced target e₀ bus₀ (log ++ [.write v reg]) (hw.1.write n v reg, hw.2) := by
  have hregs : ∀ reg', reg' ≠ reg → (hw.1.write n v reg).regs reg' = hw.1.regs reg' := by
    intro reg' hne
    by_cases hreg : reg = .dataCmd
    . subst hreg
      rw [Fifo.regs_write_dataCmd]
    . rw [Fifo.regs_write n v hw.1 hreg, Function.update_of_ne hne]
  have hself : reg ≠ .dataCmd → (hw.1.write n v reg).regs reg = v := by
    intro hreg
    rw [Fifo.regs_write n v hw.1 hreg, Function.update_self]
  refine ⟨Fifo.tx_write_of_disabled h.enabled, ?_, ?_, ?_⟩
  . intro hon
    by_cases heq : reg = .enable
    . subst heq
      rw [hself (by simp)] at hon
      apply (henable rfl hon).append
    . rw [hregs _ (Ne.symm heq)] at hon
      apply (h.targeted hon).append
  . intro htargeted
    by_cases heq : reg = .tar
    . subst heq
      rw [hself (by simp)]
      apply htarget rfl
    . rw [hregs _ (Ne.symm heq)]
      apply h.tar
      rcases htargeted with ⟨v', hmem⟩
      rw [List.mem_append, List.mem_singleton] at hmem
      refine ⟨v', hmem.resolve_right ?_⟩
      intro hevent
      injection hevent with _ hreg
      exact heq hreg.symm
  . rcases h.played with ⟨new, hexecuted, hbus, hbytes⟩
    refine ⟨new, (Fifo.executed_write n v reg hw.1).trans hexecuted, hbus, ?_⟩
    rw [pops_append, pops_write, pops_nil, List.append_nil]
    apply List.Sublist.trans _ hbytes
    apply (List.Sublist.refl _).append (Fifo.rx_write_sublist n hw.1)

theorem append {e : Event} (h : Traced target e₀ bus₀ log hw) (he : pops [e] = [])
    (htar : ∀ v, e ≠ .write v .tar) : Traced target e₀ bus₀ (log ++ [e]) hw where
  enabled := h.enabled
  targeted henable := (h.targeted henable).append _
  tar htargeted := by
    apply h.tar
    rcases htargeted with ⟨v', hmem⟩
    rw [List.mem_append, List.mem_singleton] at hmem
    exact ⟨v', hmem.resolve_right (htar v').symm⟩
  played := by
    rw [pops_append, he, List.append_nil]
    apply h.played

end Traced

section Runs

variable {c : Config (system (B.attach txDepth rxDepth)) IOReturn}

theorem traced_next {op : Op} {r : op.Ans} (htraced : Traced target e₀ bus₀ s.log s.hw)
    (hr : State.admits op s r) (hop : CallerOp op ∨ HandlerOp op)
    (hpop : op = .readRegister .dataCmd → s.hw.1.rx ≠ [])
    (htarget : ∀ v, op = .writeRegister v .tar → v = target)
    (henable : ∀ v, op = .writeRegister v .enable → v ≠ 0 → Targeted s.log) :
    Traced target e₀ bus₀ (State.next op s r).log (State.next op s r).hw := by
  cases op with
  | readRegister reg =>
    by_cases hreg : reg = .dataCmd
    . subst hreg
      apply htraced.pop (hpop rfl) hr
    . apply htraced.read hreg
  | writeRegister v reg =>
    apply htraced.write
    . rintro rfl
      apply htarget v rfl
    . rintro rfl
      apply henable v rfl
  | store _ _ | enterSleep | leaveSleep | commandWakeup => exact htraced.append rfl (by simp)
  | reach point => cases point <;> exact htraced
  | beginTransfer _ _ | losePower => rcases hop with hop | hop <;> exact absurd hop id
  | _ => exact htraced

theorem traced_of_reachable {t : State (B.attach txDepth rxDepth)} (hlog : t.log = [])
    (hempty : t.hw.1.Empty) (hoff : t.hw.1.regs .enable = 0)
    (hpop : ∀ c k, Reachable (system (B.attach txDepth rxDepth)) handleInterrupt t
      (transferI2C p list.length) c →
      c.handler = some (.call (.readRegister .dataCmd) k) → c.state.hw.1.rx ≠ [])
    (htarget : ∀ c v k, Reachable (system (B.attach txDepth rxDepth)) handleInterrupt t
      (transferI2C p list.length) c →
      c.handler = none → c.main = .call (.writeRegister v .tar) k → v = target)
    (hc : Reachable (system (B.attach txDepth rxDepth)) handleInterrupt t
      (transferI2C p list.length) c) :
    Traced target t.hw.1.executed t.hw.2 c.state.log c.state.hw := by
  induction hc with
  | start =>
    refine ⟨fun _ => hempty.tx, fun henable => absurd hoff henable, ?_, [], ?_, rfl, ?_⟩
    . rintro ⟨v, hmem⟩
      rw [hlog] at hmem
      contradiction
    . rw [List.append_nil]
    . rw [hlog, hempty.rx]
      apply List.Sublist.refl
  | step hprev hstep ih =>
    cases hstep with
    | env henv =>
      rcases henv with ⟨hw, hstep, rfl⟩
      apply ih.step hstep
    | enter | leave => apply ih
    | @main op s r k hr =>
      have hop := reachable_callerOp hprev rfl rfl
      apply traced_next ih hr (.inl hop)
      . rintro rfl
        exact absurd rfl hop
      . rintro v rfl
        apply htarget _ v _ hprev rfl rfl
      . rintro v rfl hv
        apply targeted_of_enable hprev rfl hv
    | @handler op s r _ k hr =>
      have hop := reachable_handlerOp hprev rfl
      apply traced_next ih hr (.inr hop)
      . rintro rfl
        apply hpop _ _ hprev rfl
      . rintro v rfl
        rcases hop with hop | hop <;> contradiction
      . rintro v rfl
        rcases hop with hop | hop <;> contradiction

end Runs

/-! What is known about the controller without the bus. -/

theorem Between.detach (h : Between s) : Between s.detach := by
  let π := (detached B txDepth rxDepth).interrupted handleInterrupt
  rcases h with ⟨s₀, calls, ⟨s₁, hrunning, hstart⟩, hlists, hcalls⟩
  exact ⟨s₀.detach, calls, ⟨s₁.detach, hrunning, π.exec hstart⟩, hlists, π.exec hcalls⟩

section Detached

variable {s : State (fifo txDepth rxDepth)} {memory : Memory}
  {c : Config (system (fifo txDepth rxDepth)) IOReturn}

theorem pop_of_reachable (h₀ : Between s) (hdepths : Depths txDepth rxDepth s.device)
    (hmessage : ∀ i m, list[i]? = some m → memory.message p i = m)
    (hc : Reachable (system (fifo txDepth rxDepth)) handleInterrupt
      (State.next (.beginTransfer p list) s memory) (transferI2C p list.length) c)
    {k : Word → Driver Unit} (hhd : c.handler = some (.call (.readRegister .dataCmd) k)) :
    c.state.hw.rx ≠ [] := by
  have hK := Fifo.Empty.calm txDepth rxDepth
  let e := flowExtension (State.next (.beginTransfer p list) s memory) p list hdepths
  have hrest := e.resting (h₀.atRest hK) hK hmessage
  rcases e.reachable_handler rfl hmessage hK hrest hc hhd with ⟨hop | hop, _⟩ | h | ⟨r, hop, _⟩
  . exact absurd rfl hop.1
  . contradiction
  . apply h.2.1.2 rfl
  . exact absurd rfl hop.1

theorem moved_of_success (h₀ : Between s) (hdepths : Depths txDepth rxDepth s.device)
    (hmessage : ∀ i m, list[i]? = some m → memory.message p i = m)
    (hc : Reachable (system (fifo txDepth rxDepth)) handleInterrupt
      (State.next (.beginTransfer p list) s memory) (transferI2C p list.length) c)
    (hnone : c.handler = none) (hret : c.main = .ret .success)
    (hwoken : .sleep .interrupted ∈ c.state.log → .wakeup ∈ c.state.log) :
    Moved s.hw.executed list c.state ∧ Ended Fifo.Empty list memory.byte c.state := by
  have hrest := h₀.atRest (Fifo.Empty.calm txDepth rxDepth)
  rcases completionContract_resting hrest hdepths hmessage with ⟨preparing, hresting⟩
  have hreturns := hc.main_returns (fun _ _ h => h.1) (fun _ _ h => h.1.phase)
    (fun _ h => completionContract_wp_handleInterrupt h) (Contract.wp_transferI2C hresting) hnone hret
  rcases hreturns.1 with ⟨hbusy, _⟩ | ⟨r, houtcome, hended, hdone⟩
  . contradiction
  . have houtcome : IOReturn.success = outcome r c.state.device := houtcome
    have hwakeup : .wakeup ∈ c.state.log := by
      cases r with
      | awakened => apply hdone.awakened rfl
      | timedOut => contradiction
      | interrupted => apply hwoken hdone.slept
    refine ⟨hdone.truthful ?_, hended⟩
    apply (hdone.woken hwakeup).resolve_left (outcome_success houtcome.symm)

end Detached

theorem traced_of_between {memory : Memory} {c : Config (system (B.attach txDepth rxDepth)) IOReturn}
    (h₀ : Between s) (hdepths : Depths txDepth rxDepth s.device)
    (hmessage : ∀ i m, list[i]? = some m → memory.message p i = m) (hawake : s.device.awake = true)
    (hc : Reachable (system (B.attach txDepth rxDepth)) handleInterrupt
      (State.next (.beginTransfer p list) s memory) (transferI2C p list.length) c) :
    Traced (memory.message p 0).target s.hw.1.executed s.hw.2 c.state.log c.state.hw := by
  have hrest := h₀.detach.atRest (Fifo.Empty.calm txDepth rxDepth)
  refine traced_of_reachable (t := State.next (.beginTransfer p list) s memory) rfl hrest.calm
    (hrest.off hawake) ?_ ?_ hc
  . intro c k hc hhd
    apply pop_of_reachable h₀.detach hdepths hmessage ((detached B txDepth rxDepth).reachable hc) hhd
  . intro c v k hc hnone hmain
    have hresting := (h₀.detach.atRest Calm.true).resting Calm.true hmessage
    have hguard := Contract.reachable_main (fun _ h => orderContract_wp_handleInterrupt h)
      ⟨_, hresting⟩ ((detached B txDepth rxDepth).reachable hc) hnone hmain
    apply hguard.2.2 rfl

theorem awake_of_success {memory : Memory} {c : Config (system (B.attach txDepth rxDepth)) IOReturn}
    (hc : Reachable (system (B.attach txDepth rxDepth)) handleInterrupt
      (State.next (.beginTransfer p list) s memory) (transferI2C p list.length) c)
    (hnone : c.handler = none) (hret : c.main = .ret .success) : s.device.awake = true := by
  by_contra hasleep
  rw [Bool.not_eq_true] at hasleep
  have hbusy := (transferI2C_asleep
    (s := State.next (.beginTransfer p list) s memory) hasleep hc).2 _ hnone hret
  contradiction

theorem transact_of_moved {target : Word} {memory : Memory}
    {s' : State (B.attach txDepth rxDepth)} (hapart : Apart list)
    (htarget : ∀ m, list[0]? = some m → m.target = target)
    (hmoved : Moved s.hw.1.executed list s'.detach)
    (hended : Ended Fifo.Empty list memory.byte s'.detach)
    (htraced : Traced target s.hw.1.executed s.hw.2 s'.log s'.hw)
    (hrestart : B.Continuous ∨ Restarted list s'.log) :
    (s'.memory.byte, s'.hw.2) = B.transact list (memory.byte, s.hw.2) := by
  rcases htraced.played with ⟨new, hexecuted, hbus, hbytes⟩
  have hnew : new = words s'.log :=
    List.append_cancel_left (hexecuted.symm.trans hmoved.executed)
  subst hnew
  have hwords : (words s'.log).map (fun v => v &&& ~~~0x400) = stream list memory.byte := by
    have hprefix := hended.sent.prefix hapart
    apply hprefix.eq_of_length
    rw [List.length_map, stream, List.length_map]
    apply hmoved.written
  have hpops : (B.play target (words s'.log) s.hw.2).1 = pops s'.log := by
    have hlength : (pops s'.log ++ s'.hw.1.rx).length ≤ (pops s'.log).length := by
      apply Nat.le_trans hbytes.length_le
      rw [Bus.length_play, hmoved.whole.readCommands_eq hwords]
      apply Nat.le_of_eq hmoved.received.symm
    rw [List.length_append] at hlength
    have hrx : s'.hw.1.rx = [] := by
      rw [← List.length_eq_zero_iff]
      omega
    rw [hrx, List.append_nil] at hbytes
    symm
    apply hbytes.eq_of_length
    rw [Bus.length_play, hmoved.whole.readCommands_eq hwords]
    apply hmoved.received
  rcases hended.settled.1 with ⟨hbyte, hstores, _⟩
  have hmemory : s'.memory.byte
      = applyStores memory.byte ((readAddresses list).zip (pops s'.log)) :=
    hbyte.trans (congrArg _ hstores)
  cases hm : list[0]? with
  | none =>
    have hnil : list = [] := by
      cases list with
      | nil => rfl
      | cons m list => contradiction
    subst hnil
    have hnone : words s'.log = [] := List.length_eq_zero_iff.mp hmoved.written
    rw [hmemory, hbus, hnone]
    rfl
  | some m =>
    rw [Bus.transact_eq hmoved.whole hapart hwords (hrestart.imp_right restarted_iff.mp) hm,
      htarget m hm, hpops, hmemory, hbus]

/--
A transfer that succeeds is one transaction: the devices on the bus and the memory of the caller are
as if its messages had been moved one after the other. The restart bits must be right if a device
looks at them.
-/
theorem transferI2C_transacts {memory : Memory}
    {c : Config (system (B.attach txDepth rxDepth)) IOReturn} (h₀ : Between s)
    (hdepths : Depths txDepth rxDepth s.device) (hapart : Apart list)
    (hmessage : ∀ i m, list[i]? = some m → memory.message p i = m)
    (hc : Reachable (system (B.attach txDepth rxDepth)) handleInterrupt
      (State.next (.beginTransfer p list) s memory) (transferI2C p list.length) c)
    (hnone : c.handler = none) (hret : c.main = .ret .success)
    (hwoken : .sleep .interrupted ∈ c.state.log → .wakeup ∈ c.state.log)
    (hrestart : B.Continuous ∨ Restarted list c.state.log) :
    (c.state.memory.byte, c.state.hw.2) = B.transact list (memory.byte, s.hw.2) := by
  have hc' := (detached B txDepth rxDepth).reachable hc
  rcases moved_of_success h₀.detach hdepths hmessage hc' hnone hret hwoken with ⟨hmoved, hended⟩
  have htraced := traced_of_between h₀ hdepths hmessage (awake_of_success hc hnone hret) hc
  apply transact_of_moved hapart _ hmoved hended htraced hrestart
  intro m hm
  rw [hmessage 0 m hm]

/-!
A device with registers: a byte that it gets selects one, a read after a repeated start gets its
number and every further read the next number.
-/

def registerBus : Bus where
  State := Byte
  send _ _ _ b _ := b
  receive _ restart _ selected :=
    if restart then (selected, selected) else (selected + 1, selected + 1)

def Bus.script (B : Bus) (txDepth rxDepth : Word) : Script (B.attach txDepth rxDepth) where
  answer reg h := Fifo.answer reg h.1
  move h := h.1.tx.head?.map fun c =>
    (h.1.execute rxDepth.toNat c (B.execute (h.1.regs .tar) c h.2).1,
      (B.execute (h.1.regs .tar) c h.2).2)
  canRead_answer reg h := Fifo.canRead_answer reg h.1
  step_move h h' heq := by
    rcases Option.map_eq_some_iff.mp heq with ⟨c, hc, rfl⟩
    exact .execute hc

abbrev registerFifo : Hardware := registerBus.attach 2 2

def registerPlayer : Player (system registerFifo) :=
  (registerBus.script 2 2).player .timedOut SleepResult.timedOut_ne

def registerBoot : State registerFifo := { bootState with hw := (bootState.hw, (0 : Byte)) }

def registerState : State registerFifo := registerPlayer.final startController registerBoot

theorem between_registerState : Between registerState := by
  refine ⟨registerState, [], ⟨registerBoot, rfl, ?_⟩, by simp, .ret⟩
  apply Exec.interrupted
  apply registerPlayer.exec_final
  decide +kernel

def registerRun : Config (system registerFifo) IOReturn :=
  registerPlayer.play handleInterrupt
    (List.replicate 28 .main ++ (List.replicate 4 [.handler, .env, .env]).flatten
      ++ List.replicate 20 .main)
    ⟨State.next (.beginTransfer 7 shortList) registerState (registerState.memory.put shortList),
      transferI2C 7 shortList.length, none⟩

theorem transferI2C_transacts_register :
    registerRun.main = .ret .success
      ∧ registerRun.state.memory.byte 0x80 = 0x41
      ∧ (registerRun.state.memory.byte, registerRun.state.hw.2)
          = registerBus.transact shortList
              ((registerState.memory.put shortList).byte, registerState.hw.2) := by
  have hdepths : Depths 2 2 registerState.device := ⟨by decide +kernel, by decide +kernel⟩
  have hret : registerRun.main = .ret .success := by rfl
  refine ⟨hret, by decide +kernel, ?_⟩
  apply transferI2C_transacts between_registerState hdepths _ Memory.put_message
    (registerPlayer.reachable_play handleInterrupt _) rfl hret
  . decide +kernel
  . right
    rw [restarted_iff]
    decide +kernel
  . unfold Apart
    decide

end VoodooI2C
