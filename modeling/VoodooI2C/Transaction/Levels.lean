import VoodooI2C.Transaction.Steady
import VoodooI2C.Transaction.Wire

/-!
This module contains when the restart bits are right on a controller with FIFOs: whenever all messages
before the last one fit into the FIFOs.
-/

namespace VoodooI2C

open Interaction RegisterFile

variable {B : Bus} {txDepth rxDepth : Word} {list : List BusMessage} {p : Pointer}
  {log : List Event} {e : Event} {byte₀ : Address → Byte} {a : BitVec 16}

/-! The restart is enabled. -/

section Enabled

variable {H : Hardware} {α : Type} {s s' : State H}

def EnablingOp (op : Op) : Prop :=
  match op with
  | .update f => ∀ d : BusDevice, d.busConfig &&& conRestartEn ≠ 0 →
      (f d).busConfig &&& conRestartEn ≠ 0
  | _ => True

theorem SteadyOp.enablingOp {op : Op} (h : SteadyOp op) : EnablingOp op := by
  cases op with
  | update f =>
    intro d hd
    have hconfig : (f d).busConfig = d.busConfig := congrArg (fun c => c.2.1) (h d)
    rw [hconfig]
    apply hd
  | _ => trivial

theorem enabling_of_steady {q : Driver α} (hq : q.Performs SteadyOp) : q.Performs EnablingOp :=
  Prog.performs_mono hq fun _ h => SteadyOp.enablingOp h

theorem enabling_keepBusClear (con : Word) :
    (startController.keepBusClear con).Performs EnablingOp := by
  unfold startController.keepBusClear
  split
  . apply Prog.performs_perform
    intro d hd hzero
    apply hd
    have hand : (d.busConfig ||| conBusClearCtrl) &&& conRestartEn = 0 := hzero
    rw [BitVec.and_comm, BitVec.and_or_distrib_left, BitVec.and_comm] at hand
    have hclear : conRestartEn &&& conBusClearCtrl = 0#32 := by decide
    rw [hclear, BitVec.or_zero] at hand
    apply hand
  . apply performs_pure

theorem stable_enabled :
    (interrupted H).Stable fun s => s.device.busConfig &&& conRestartEn ≠ 0 := by
  intro s s' h henv
  have hconfig : s'.device.busConfig = s.device.busConfig :=
    congrArg (fun c => c.2.1) (stable_constants s.device s s' rfl henv)
  rw [hconfig]
  apply h

theorem wp_enabling {q : Driver α} (hq : q.Performs EnablingOp)
    (h : s.device.busConfig &&& conRestartEn ≠ 0) :
    wp (interrupted H) (fun _ _ => True) q
      (fun _ s => s.device.busConfig &&& conRestartEn ≠ 0) s := by
  refine wp_performs hq stable_enabled (fun _ _ _ _ => trivial) ?_ h
  intro op s r hop h _
  cases op with
  | update f => apply hop _ h
  | reach point => cases point <;> apply h
  | _ => apply h

theorem Started.enabled (h : Started s) : s.device.busConfig &&& conRestartEn ≠ 0 := by
  rcases h with ⟨s₀, _, hexec⟩
  refine hexec.wp (Q := fun _ (s : State H) => s.device.busConfig &&& conRestartEn ≠ 0)
    (G := fun _ _ => True) ?_
  unfold startController
  have htrue : (interrupted H).Stable fun _ => True := fun _ _ _ _ => trivial
  apply wp_main_update htrue trivial
  intro s₁ _
  refine ⟨trivial, ?_⟩
  apply wp_enabling
  . apply Prog.performs_bind (Prog.performs_perform (by trivial))
    intro con
    apply Prog.performs_bind (enabling_keepBusClear con)
    intro _
    apply Prog.performs_bind (enabling_of_steady (steady_of_transferOp transferOp_initialiseBus))
    intro ret
    apply Prog.performs_ite
    . apply performs_pure
    . apply Prog.performs_bind
      . exact enabling_of_steady (steady_of_transferOp (transferOp_toggleInterrupts .off))
      . intro _
        apply Prog.performs_bind (enabling_of_steady steady_startI2CInterrupt)
        intro ret
        apply Prog.performs_ite <;> apply performs_pure
  . have hbit : (conMaster ||| conSlaveDisable ||| conRestartEn ||| conSpeedFast)
        &&& conRestartEn ≠ 0 := by decide
    exact hbit

theorem steady_runCalls (calls : List Call) : (runCalls calls).Performs SteadyOp := by
  induction calls with
  | nil => apply performs_pure
  | cons call calls ih => exact Prog.performs_bind call.steady fun _ => ih

theorem Between.enabled (h : Between s) : s.device.busConfig &&& conRestartEn ≠ 0 := by
  rcases h with ⟨s₀, calls, hstarted, _, hexec⟩
  have hconfig : s.device.busConfig = s₀.device.busConfig :=
    congrArg (fun c => c.2.1) (constants_of_exec (steady_runCalls calls) hexec)
  rw [hconfig]
  apply hstarted.enabled

end Enabled

/-! The levels that are read. -/

def Leveled (log : List Event) : Prop :=
  ∀ before reg v after, log = before ++ .read reg v :: after →
    (reg = .txflr → v.toNat ≤ (words before).length)
      ∧ (reg = .rxflr → v.toNat ≤ readCommands (words before))

namespace Leveled

theorem concat (h : Leveled log)
    (he : ∀ reg v, e = .read reg v → (reg = .txflr → v.toNat ≤ (words log).length)
      ∧ (reg = .rxflr → v.toNat ≤ readCommands (words log))) : Leveled (log ++ [e]) := by
  intro before reg v after heq
  rcases List.eq_nil_or_concat after with rfl | ⟨after, e', rfl⟩
  . rcases List.append_inj' heq rfl with ⟨rfl, hlast⟩
    apply he
    simpa using hlast
  . rw [List.concat_eq_append, ← List.cons_append, ← List.append_assoc] at heq
    rcases List.append_inj' heq rfl with ⟨rfl, _⟩
    apply h before reg v after rfl

theorem next {s : State (B.attach txDepth rxDepth)} {op : Op} {r : op.Ans} (h : Leveled s.log)
    (hr : State.admits op s r) (htx : s.hw.1.tx.length ≤ (words s.log).length)
    (hrx : s.hw.1.rx.length ≤ readCommands (words s.log)) (hop : CallerOp op ∨ HandlerOp op) :
    Leveled (State.next op s r).log := by
  have hofNat : ∀ n : Nat, (BitVec.ofNat 32 n).toNat ≤ n := by
    intro n
    rw [BitVec.toNat_ofNat]
    apply Nat.mod_le
  cases op with
  | readRegister reg =>
    apply h.concat
    intro reg' v heq
    injection heq with hreg hv
    subst hreg hv
    constructor
    . rintro rfl
      have hlevel : r = BitVec.ofNat 32 s.hw.1.tx.length := hr
      rw [hlevel]
      apply Nat.le_trans (hofNat _) htx
    . rintro rfl
      have hlevel : r = BitVec.ofNat 32 s.hw.1.rx.length := hr
      rw [hlevel]
      apply Nat.le_trans (hofNat _) hrx
  | writeRegister _ _ | store _ _ | enterSleep | leaveSleep | commandWakeup =>
    apply h.concat
    intro reg v heq
    contradiction
  | reach point => cases point <;> exact h
  | beginTransfer _ _ | losePower => rcases hop with hop | hop <;> exact absurd hop id
  | _ => exact h

end Leveled

section Runs

variable {s : State (B.attach txDepth rxDepth)} {memory : Memory}
  {c : Config (system (B.attach txDepth rxDepth)) IOReturn} (h₀ : Between s)
  (hdepths : Depths txDepth rxDepth s.device)
  (hmessage : ∀ i m, list[i]? = some m → memory.message p i = m) (hawake : s.device.awake = true)
  (hc : Reachable (system (B.attach txDepth rxDepth)) handleInterrupt
    (State.next (.beginTransfer p list) s memory) (transferI2C p list.length) c)
include h₀ hdepths hmessage hawake hc

theorem levels_le : c.state.hw.1.tx.length ≤ (words c.state.log).length
    ∧ c.state.hw.1.rx.length ≤ readCommands (words c.state.log) := by
  have hwire := wire_of_reachable h₀.detach hdepths hmessage ((detached B txDepth rxDepth).reachable hc)
  have htraced : Traced (memory.message p 0).target s.hw.1.executed s.hw.2 c.state.log c.state.hw :=
    traced_of_between h₀ hdepths hmessage hawake hc
  rcases hwire.queued with ⟨done, hdone, hbegins, _⟩
  rcases htraced.played with ⟨new, hexecuted, _, hbytes⟩
  have hnew : new = done := List.append_cancel_left (hexecuted.symm.trans hdone)
  subst hnew
  constructor
  . have hlength := hbegins.length_le
    rw [List.length_append] at hlength
    apply Nat.le_trans (Nat.le_add_left _ _) hlength
  . have hlength := hbytes.length_le
    rw [List.length_append, Bus.length_play] at hlength
    have hcount : readCommands new ≤ readCommands (words c.state.log) := by
      apply List.Sublist.countP_le
      exact ((List.prefix_append new _).trans hbegins).sublist
    omega

theorem leveled_of_reachable : Leveled c.state.log := by
  induction hc with
  | start =>
    intro before reg v after heq
    have hnil : ([] : List Event) = before ++ .read reg v :: after := heq
    simp at hnil
  | step hprev hstep ih =>
    have hlevels := levels_le h₀ hdepths hmessage hawake hprev
    cases hstep with
    | env henv =>
      rcases henv with ⟨hw, _, rfl⟩
      apply ih
    | enter | leave => apply ih
    | main hr => apply ih.next hr hlevels.1 hlevels.2 (.inl (reachable_callerOp hprev rfl rfl))
    | handler hr => apply ih.next hr hlevels.1 hlevels.2 (.inr (reachable_handlerOp hprev rfl))

end Runs

/-! Messages that fit. -/

/--
The messages before any other one fit into the transmit FIFO, and twice the bytes that they receive fit
into the receive FIFO.
-/
def Fitting (txDepth rxDepth : Word) (list : List BusMessage) : Prop :=
  ∀ i, 0 < i → i < list.length →
    firstWord list i < txDepth.toNat ∧ 2 * (readAddresses (list.take i)).length < rxDepth.toNat

theorem countP_take_goodSegments (hgood : ∀ m ∈ list, m.Good a) (i : Nat) :
    ((goodSegments a list).flatten.take (firstWord list i)).countP
        (fun place => decide place.message.IsRead)
      = (readAddresses (list.take i)).length := by
  induction list generalizing i with
  | nil => simp [goodSegments, readAddresses, readSegments]
  | cons m list ih =>
    cases i with
    | zero => simp [firstWord, readAddresses, readSegments]
    | succ i =>
      rw [List.forall_mem_cons] at hgood
      have hfirst : firstWord (m :: list) (i + 1) = m.length.toNat + firstWord list i := by
        unfold firstWord
        rw [List.take_succ_cons, List.map_cons, List.sum_cons]
      rw [goodSegments, if_pos hgood.1, List.flatten_cons, hfirst]
      have hlength : (m.places list.isEmpty).length = m.length.toNat := BusMessage.length_places _
      rw [← hlength, List.take_length_add_append, List.countP_append, ih hgood.2, List.take_succ_cons]
      unfold readAddresses readSegments
      rw [List.map_cons, List.flatten_cons, List.length_append]
      congr 1
      unfold BusMessage.places
      rw [List.countP_map]
      by_cases hread : m.IsRead
      . rw [if_pos hread, BusMessage.length_addresses, List.countP_eq_length.mpr, List.length_range]
        intro _ _
        apply decide_eq_true hread
      . rw [if_neg hread, List.length_nil, List.countP_eq_zero]
        intro _ _
        rw [Function.comp_apply, decide_eq_true_iff]
        apply hread

theorem Whole.countP_take (hwhole : Whole list) (i : Nat) :
    ((VoodooI2C.places list).take (firstWord list i)).countP
        (fun place => decide place.message.IsRead)
      = (readAddresses (list.take i)).length := by
  cases list with
  | nil => simp [VoodooI2C.places, placeSegments, readAddresses, readSegments]
  | cons m list =>
    apply countP_take_goodSegments
    intro m' hm'
    apply hwhole m' hm' m rfl

theorem readCommands_of_prefix {ws : List Word}
    (hws : ws.map (fun v => v &&& ~~~0x400) <+: stream list byte₀) :
    readCommands ws
      = ((places list).take ws.length).countP fun place => decide place.message.IsRead := by
  have hmask : readCommands ws = (ws.map fun v => v &&& ~~~0x400).countP isRead := by
    unfold readCommands
    rw [List.countP_map]
    congr 1
    funext v
    unfold isRead
    rw [Function.comp_apply, and_not_and_of_disjoint (by decide)]
  rw [hmask, List.prefix_iff_eq_take.mp hws, List.length_map]
  unfold stream
  rw [← List.map_take, List.countP_map]
  congr 1
  funext place
  apply word_and_read

theorem roomy_of_fitting {d : BusDevice} (hdepths : Depths txDepth rxDepth d)
    (htx : txDepth.toNat ≤ 256) (hrx : rxDepth.toNat ≤ 256) (hwhole : Whole list)
    (hfitting : Fitting txDepth rxDepth list)
    (hws : (words log).map (fun v => v &&& ~~~0x400) <+: stream list byte₀)
    (hleveled : Leveled log) : Roomy d list log := by
  rintro before v after i rfl hpos hlt hn before' txflr rxflr after' m rfl hm hn'
  have hfits := hfitting i hpos hlt
  have htxflr : txflr.toNat ≤ firstWord list i := by
    rw [← hn']
    refine (hleveled before' .txflr txflr ?_ ?_).1 rfl
    . exact .read .rxflr rxflr :: after' ++ .write v .dataCmd :: after
    . simp
  have hrxflr : rxflr.toNat ≤ readCommands (words before') := by
    have hwords : words (before' ++ [.read .txflr txflr]) = words before' := by
      rw [words_append, words_read, words_nil, List.append_nil]
    rw [← hwords]
    refine (hleveled (before' ++ [.read .txflr txflr]) .rxflr rxflr ?_ ?_).2 rfl
    . exact after' ++ .write v .dataCmd :: after
    . simp
  have hreads : readCommands (words before') = (readAddresses (list.take i)).length := by
    rw [← hwhole.countP_take i, ← hn']
    apply readCommands_of_prefix
    apply List.IsPrefix.trans _ hws
    apply List.IsPrefix.map
    rw [List.append_assoc, words_append]
    apply List.prefix_append
  have hsub : ∀ depth v : Word, depth.toNat ≤ 256 → v.toNat ≤ depth.toNat →
      (depth - v).toInt = depth.toNat - v.toNat := by
    intro depth v hdepth hle
    have hnat : (depth - v).toNat = depth.toNat - v.toNat := by
      apply BitVec.toNat_sub_of_le
      rw [BitVec.le_def]
      apply hle
    rw [BitVec.toInt_eq_toNat_cond, hnat]
    split <;> omega
  unfold HasRoom
  rw [hdepths.transaction, hdepths.receive, hsub txDepth txflr htx (by omega),
    hsub rxDepth rxflr hrx (by omega)]
  refine ⟨by omega, by omega, ?_⟩
  intro _
  omega

section Restarts

variable {s : State (B.attach txDepth rxDepth)} {memory : Memory}
  {c : Config (system (B.attach txDepth rxDepth)) IOReturn}

theorem restartLog_of_reachable (h₀ : Between s) (hlist : ∀ m ∈ list, m.length ≠ 0)
    (hmessage : ∀ i m, list[i]? = some m → memory.message p i = m)
    (hc : Reachable (system (B.attach txDepth rxDepth)) handleInterrupt
      (State.next (.beginTransfer p list) s memory) (transferI2C p list.length) c) :
    RestartLog (s.device.setup p list.length) list c.state.log := by
  have hc' := (detached B txDepth rxDepth).reachable hc
  let t : State (fifo txDepth rxDepth) := State.next (.beginTransfer p list) s.detach memory
  apply Extension.reachable
    (F := fun s' : State (fifo txDepth rxDepth) =>
      RestartLog (s.device.setup p list.length) list s'.log)
    (restartExtension t p hlist h₀.enabled) rfl hmessage Calm.true _ _ _ hc'
  . intro s h _
    exact EachWord.of_preparatory h
  . intro s h
    apply h
  . apply Extension.resting (h₀.detach.atRest Calm.true) Calm.true _ hmessage

theorem restarted_of_fitting (h₀ : Between s) (hdepths : Depths txDepth rxDepth s.device)
    (htx : txDepth.toNat ≤ 256) (hrx : rxDepth.toNat ≤ 256) (hapart : Apart list)
    (hwhole : Whole list) (hfitting : Fitting txDepth rxDepth list)
    (hmessage : ∀ i m, list[i]? = some m → memory.message p i = m) (hawake : s.device.awake = true)
    (hc : Reachable (system (B.attach txDepth rxDepth)) handleInterrupt
      (State.next (.beginTransfer p list) s memory) (transferI2C p list.length) c) :
    Restarted list c.state.log := by
  have hlist : ∀ m ∈ list, m.length ≠ 0 := by
    intro m hm
    cases list with
    | nil => contradiction
    | cons m₀ list => apply (hwhole m hm m₀ rfl).1
  have hsent := reachable_sent h₀.detach hmessage ((detached B txDepth rxDepth).reachable hc)
  have hbegins := hsent.prefix hapart
  apply (restarted_iff_roomy hlist (restartLog_of_reachable h₀ hlist hmessage hc)).mpr
  apply roomy_of_fitting (d := s.device.setup p list.length) _ htx hrx hwhole hfitting
    hbegins (leveled_of_reachable h₀ hdepths hmessage hawake hc)
  exact ⟨hdepths.transaction, hdepths.receive⟩

end Restarts

end VoodooI2C
