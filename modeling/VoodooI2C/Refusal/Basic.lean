import VoodooI2C.Transfer.Extend
import VoodooI2C.Hardware.Fifo

/-!
This module contains lists of messages that the driver is to refuse, and a controller that aborts
nothing.
-/

namespace VoodooI2C

open Interaction RegisterFile

variable {list : List BusMessage} {m : BusMessage} {a : BitVec 16} {i n : Nat} {log t : List Event}

/--
Some message has no bytes or another address than the first message.
-/
def Faulty (list : List BusMessage) : Prop :=
  ∃ m ∈ list, ∃ m₀, list[0]? = some m₀ ∧ ¬ m.Good m₀.address

theorem good_of_last {seg : List Place} {place : Place} (hseg : seg ∈ goodSegments a list)
    (hplace : place ∈ seg) (hlast : place.last = true) : ∀ m ∈ list, m.Good a := by
  induction list with
  | nil => simp
  | cons m list ih =>
    rw [goodSegments] at hseg
    split at hseg
    . next hgood =>
      rw [List.forall_mem_cons]
      refine ⟨hgood, ?_⟩
      rcases List.mem_cons.mp hseg with rfl | hseg
      . unfold BusMessage.places at hplace
        rcases List.mem_map.mp hplace with ⟨k, _, rfl⟩
        rw [Bool.and_eq_true] at hlast
        rw [List.isEmpty_iff.mp hlast.1]
        simp
      . apply ih hseg
    . simp at hseg

theorem length_goodSegments_le_of_not_good (hi : list[i]? = some m) (hbad : ¬ m.Good a) :
    (goodSegments a list).length ≤ i := by
  induction list generalizing i with
  | nil => simp [goodSegments]
  | cons m' list ih =>
    rw [goodSegments]
    split
    . next hgood =>
      cases i with
      | zero =>
        rw [List.getElem?_cons_zero, Option.some.injEq] at hi
        rw [hi] at hgood
        contradiction
      | succ i =>
        rw [List.getElem?_cons_succ] at hi
        apply Nat.succ_le_succ
        apply ih hi
    . apply Nat.zero_le

def RefusedAt (list : List BusMessage) (i : Nat) : Prop :=
  ∃ m m₀, list[i]? = some m ∧ list[0]? = some m₀ ∧ ¬ m.Good m₀.address

theorem RefusedAt.length_le (h : RefusedAt list i) : (placeSegments list).length ≤ i := by
  rcases h with ⟨m, m₀, hm, hm₀, hbad⟩
  cases list with
  | nil => simp at hm
  | cons m' list =>
    rw [List.getElem?_cons_zero, Option.some.injEq] at hm₀
    subst hm₀
    apply length_goodSegments_le_of_not_good hm hbad

theorem RefusedAt.finished {d : BusDevice} (h : RefusedAt list d.messageWriteIndex)
    (hside : WriteSide list d n) : n = (places list).length := by
  have hside' := hside.2.2
  split at hside'
  . rcases hside' with ⟨_, _, hgood, _⟩
    rcases h with ⟨m, m₀, hm, hm₀, hbad⟩
    exact absurd (hgood _ m m₀ (Nat.lt_succ_self _) hm hm₀) hbad
  . apply hside'.finished h.length_le

namespace Faulty

theorem last_eq_false {place : Place} (h : Faulty list) (hplace : place ∈ places list) :
    place.last = false := by
  rcases h with ⟨m, hm, m₀, hm₀, hbad⟩
  by_contra hlast
  rw [Bool.not_eq_false] at hlast
  cases list with
  | nil => simp at hm
  | cons m' list =>
    rw [List.getElem?_cons_zero, Option.some.injEq] at hm₀
    subst hm₀
    rcases List.mem_flatten.mp hplace with ⟨seg, hseg, hplace⟩
    exact hbad (good_of_last hseg hplace hlast m hm)

theorem and_stop {place : Place} {v : Word} {byte : Address → Byte} (h : Faulty list)
    (hplace : (places list)[n]? = some place) (hv : v &&& ~~~0x400 = place.word byte) :
    v &&& 0x200 = 0 := by
  have hlast := h.last_eq_false (List.mem_of_getElem? hplace)
  have hword : place.word byte &&& 0x200 = 0 := by
    unfold Place.word
    rw [hlast]
    split
    . decide
    . rw [or_and_of_disjoint (by decide), setWidth_and_stop]
  rw [← and_not_and_of_disjoint (y := 0x400) (by decide), hv]
  apply hword

theorem index_ne {d : BusDevice} (h : Faulty list) (hside : WriteSide list d n) :
    d.messageWriteIndex ≠ list.length := by
  rcases h with ⟨m, hm, m₀, hm₀, hbad⟩
  intro hindex
  rcases List.getElem?_of_mem hm with ⟨i, hi⟩
  rcases List.getElem?_eq_some_iff.mp hi with ⟨hlt, _⟩
  apply hbad
  apply hside.2.1 i m m₀ _ hi hm₀
  rw [hindex]
  apply hlt

end Faulty

/--
Whenever the handler masks all interrupts because it has come to the message that it refuses, the
caller has entered its sleep and no byte is outstanding.
-/
def InTime (list : List BusMessage) (log : List Event) : Prop :=
  ∀ before after, log = before ++ .write 0 .intrMask :: after → Begun before →
    (words before).length = (places list).length →
      .enterSleep ∈ before ∧ readCommands (words before) = (pops before).length

theorem InTime.of_append (h : InTime list (log ++ t)) : InTime list log := by
  intro before after heq
  apply h before (after ++ t)
  rw [heq]
  simp

/-! A controller that aborts nothing. -/

def steadyFifo (txDepth rxDepth : Word) : Hardware :=
  { fifo txDepth rxDepth with
    step := fun h h' => Fifo.Step rxDepth.toNat h h' ∧ h'.aborted = false }

variable {txDepth rxDepth : Word}

instance : RegisterFile (steadyFifo txDepth rxDepth) where
  value := Fifo.regs
  canRead_holds := canRead_holds (H := fifo txDepth rxDepth)
  canRead_intrStat := canRead_intrStat (H := fifo txDepth rxDepth)
  value_read _ := congrFun (Fifo.regs_read _ _) _
  value_write_self := value_write_self (H := fifo txDepth rxDepth)
  value_write_ne := value_write_ne (H := fifo txDepth rxDepth)
  value_step hstep := value_step (H := fifo txDepth rxDepth) hstep.1
  value_reset := value_reset (H := fifo txDepth rxDepth)

theorem Fifo.Empty.calm_steady (txDepth rxDepth : Word) :
    Calm (H := steadyFifo txDepth rxDepth) Fifo.Empty :=
  { Fifo.Empty.calm txDepth rxDepth with
    step := fun h h' hempty hstep => (Fifo.Empty.calm txDepth rxDepth).step h h' hempty hstep.1 }

/--
The controller has aborted nothing and no command ends the transfer, so it raises neither `TX_ABRT`
nor `STOP_DET`.
-/
structure Endless (h : Fifo) : Prop where
  aborted : h.aborted = false
  stopDet : h.stopDet = false
  txAbrt : h.txAbrt = false
  tx : ∀ v ∈ h.tx, v &&& 0x200 = 0

namespace Endless

variable {h h' : Fifo} {v : Word} {reg : Register}

theorem step {depth : Nat} (hend : Endless h) (hstep : Fifo.Step depth h h')
    (haborted : h'.aborted = false) : Endless h' := by
  cases hstep with
  | execute hc =>
    have hcommand := hend.tx _ (List.mem_of_head? hc)
    refine ⟨haborted, ?_, hend.txAbrt, ?_⟩
    . unfold Fifo.execute
      dsimp only
      rw [if_neg (not_not_intro hcommand)]
      apply hend.stopDet
    . intro v hv
      apply hend.tx
      apply List.mem_of_mem_tail hv
  | abort _ => contradiction
  | stop h =>
    have := hend.aborted.symm.trans h
    contradiction

theorem read (reg : Register) (hend : Endless h) : Endless (h.read reg) := by
  cases reg with
  | clrIntr => exact { hend with stopDet := rfl, txAbrt := rfl }
  | clrTxAbrt => exact { hend with txAbrt := rfl }
  | clrStopDet => exact { hend with stopDet := rfl }
  | _ => exact { hend with }

theorem write {depth : Nat} (hend : Endless h) (hv : reg = .dataCmd → v &&& 0x200 = 0) :
    Endless (h.write depth v reg) := by
  cases reg with
  | dataCmd =>
    unfold Fifo.write
    dsimp only
    split
    . refine { hend with tx := ?_ }
      intro w hw
      rw [List.mem_append, List.mem_singleton] at hw
      rcases hw with hw | rfl
      . apply hend.tx w hw
      . apply hv rfl
    . apply hend
  | enable =>
    unfold Fifo.write
    dsimp only
    split
    . exact { hend with aborted := rfl, tx := by simp }
    . exact { hend with }
  | _ => exact { hend with }

theorem intrStat (hend : Endless h) (hread : h.CanRead .intrStat v) :
    v &&& intrTxAbrt = 0 ∧ v &&& intrStopDet = 0 := by
  constructor
  . by_contra hbit
    rcases Fifo.raises_of_intrStat hread hbit with ⟨raw, hraises, hraw⟩
    have := hend.txAbrt.symm.trans (hraises.2.2.2.1.mp hraw)
    contradiction
  . by_contra hbit
    rcases Fifo.raises_of_intrStat hread hbit with ⟨raw, hraises, hraw⟩
    have := hend.stopDet.symm.trans (hraises.2.2.2.2.mp hraw)
    contradiction

end Endless

end VoodooI2C
