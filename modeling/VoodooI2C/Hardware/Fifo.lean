import VoodooI2C.Hardware.Basic
import VoodooI2C.Transfer.Lemmas

/-!
This module contains a controller with a transmit and a receive FIFO that executes the commands of
the transmit FIFO in their order. A read command moves one byte to the receive FIFO and a command
with the bit `0x200` raises `STOP_DET`. The controller can abort a transfer at any time.
-/

namespace VoodooI2C

/--
`executed` and `received` are all commands that were ever executed and all bytes that they got.
`active` holds if a command was written since the controller was disabled the last time, `aborted`
if the controller aborted a transfer since then.
-/
structure Fifo where
  regs : Register → Word
  tx : List Word
  rx : List Byte
  executed : List Word
  received : List Byte
  active : Bool
  aborted : Bool
  stopDet : Bool
  txAbrt : Bool

namespace Fifo

/--
What a read of `IC_RAW_INTR_STAT` can return. Nothing is known about the interrupts that the driver
does not use.
-/
def Raises (h : Fifo) (v : Word) : Prop :=
  v < 0x2000
    ∧ (v &&& intrRxFull ≠ 0 ↔ h.rx ≠ [])
    ∧ (v &&& intrTxEmpty ≠ 0 ↔ h.tx.length ≤ (h.regs .txTl).toNat)
    ∧ (v &&& intrTxAbrt ≠ 0 ↔ h.txAbrt = true)
    ∧ (v &&& intrStopDet ≠ 0 ↔ h.stopDet = true)

def CanRead (reg : Register) (h : Fifo) (v : Word) : Prop :=
  match reg with
  | .dataCmd => ∀ b, h.rx.head? = some b → v.setWidth 8 = b
  | .intrStat => ∃ raw, h.Raises raw ∧ v = raw &&& h.regs .intrMask
  | .rawIntrStat => h.Raises v
  | .txflr => v = BitVec.ofNat 32 h.tx.length
  | .rxflr => v = BitVec.ofNat 32 h.rx.length
  | reg => reg.Holds → v = h.regs reg

def read (reg : Register) (h : Fifo) : Fifo :=
  match reg with
  | .dataCmd => { h with rx := h.rx.tail }
  | .clrIntr => { h with stopDet := false, txAbrt := false }
  | .clrTxAbrt => { h with txAbrt := false }
  | .clrStopDet => { h with stopDet := false }
  | _ => h

def write (txDepth : Nat) (v : Word) (reg : Register) (h : Fifo) : Fifo :=
  match reg with
  | .dataCmd =>
    -- a command is lost if the FIFO is full, the controller disabled or `TX_ABRT` not cleared yet
    if h.regs .enable ≠ 0 ∧ h.tx.length < txDepth ∧ h.txAbrt = false then
      { h with tx := h.tx ++ [v], active := true }
    else
      h
  | .enable =>
    let h := { h with regs := Function.update h.regs .enable v }
    if v = 0 then { h with tx := [], rx := [], active := false, aborted := false } else h
  | reg => { h with regs := Function.update h.regs reg v }

def execute (rxDepth : Nat) (c : Word) (b : Byte) (h : Fifo) : Fifo :=
  { h with
    tx := h.tx.tail
    -- the byte of a read command is lost if the receive FIFO is full
    rx := if isRead c ∧ h.rx.length < rxDepth then h.rx ++ [b] else h.rx
    executed := h.executed ++ [c]
    received := if isRead c then h.received ++ [b] else h.received
    stopDet := if c &&& 0x200 ≠ 0 then true else h.stopDet }

def abort (h : Fifo) : Fifo :=
  { h with tx := [], aborted := true, txAbrt := true }

def stop (h : Fifo) : Fifo :=
  { h with stopDet := true }

inductive Step (rxDepth : Nat) : Fifo → Fifo → Prop where
  | execute : h.tx.head? = some c → Step rxDepth h (h.execute rxDepth c b)
  | abort : h.active = true → Step rxDepth h h.abort
  | stop : h.aborted = true → Step rxDepth h h.stop

def reset (f : Register → Word) (h : Fifo) : Fifo :=
  { h with
    regs := f
    tx := []
    rx := []
    active := false
    aborted := false
    stopDet := false
    txAbrt := false }

end Fifo

def fifo (txDepth rxDepth : Word) : Hardware where
  State := Fifo
  canRead := Fifo.CanRead
  read reg _ := Fifo.read reg
  write := Fifo.write txDepth.toNat
  step := Fifo.Step rxDepth.toNat
  reset := Fifo.reset

namespace Fifo

theorem raises_of_intrStat {h : Fifo} {v bit : Word} (hread : h.CanRead .intrStat v)
    (hbit : v &&& bit ≠ 0) : ∃ raw, h.Raises raw ∧ raw &&& bit ≠ 0 := by
  rcases hread with ⟨raw, hraises, rfl⟩
  refine ⟨raw, hraises, ?_⟩
  intro hzero
  apply hbit
  rw [BitVec.and_assoc, BitVec.and_comm _ bit, ← BitVec.and_assoc, hzero]
  simp

theorem regs_read (reg : Register) (h : Fifo) : (h.read reg).regs = h.regs := by
  unfold read
  split <;> rfl

theorem regs_write (txDepth : Nat) (v : Word) {reg : Register} (h : Fifo) (hreg : reg ≠ .dataCmd) :
    (h.write txDepth v reg).regs = Function.update h.regs reg v := by
  unfold write
  split
  . contradiction
  . dsimp only
    split <;> rfl
  . rfl

theorem regs_write_dataCmd (txDepth : Nat) (v : Word) (h : Fifo) :
    (h.write txDepth v .dataCmd).regs = h.regs := by
  unfold write
  dsimp only
  split <;> rfl

theorem Step.regs {rxDepth : Nat} {h h' : Fifo} (hstep : Step rxDepth h h') : h'.regs = h.regs := by
  cases hstep <;> rfl

theorem Holds.ne_dataCmd {reg : Register} (h : reg.Holds) : reg ≠ .dataCmd := by
  rintro rfl
  contradiction

instance {txDepth rxDepth : Word} : RegisterFile (fifo txDepth rxDepth) where
  value := Fifo.regs
  canRead_holds {reg h v} hread hreg := by
    cases reg with
    | con | tar | ssSclHcnt | ssSclLcnt | fsSclHcnt | fsSclLcnt | intrMask | rxTl | txTl | enable
    | sdaHold => apply hread rfl
    | _ => contradiction
  canRead_intrStat {h v} hread := by
    rcases hread with ⟨raw, _, rfl⟩
    rw [BitVec.and_assoc, BitVec.and_self]
  value_read _ := congrFun (regs_read _ _) _
  value_write_self hreg := by
    apply (congrFun (regs_write _ _ _ (Holds.ne_dataCmd hreg)) _).trans
    apply Function.update_self
  value_write_ne {reg' reg _ _} _ hne := by
    by_cases hreg : reg = .dataCmd
    . subst hreg
      apply congrFun (regs_write_dataCmd _ _ _)
    . apply (congrFun (regs_write _ _ _ hreg) _).trans
      apply Function.update_of_ne hne
  value_step hstep _ := congrFun (Step.regs hstep) _
  value_reset _ := rfl

structure Empty (h : Fifo) : Prop where
  tx : h.tx = []
  rx : h.rx = []
  active : h.active = false
  aborted : h.aborted = false

theorem Empty.step {rxDepth : Nat} {h h' : Fifo} (hempty : Empty h) (hstep : Step rxDepth h h') :
    h' = h := by
  cases hstep with
  | execute hc =>
    rw [hempty.tx] at hc
    contradiction
  | abort hactive =>
    rw [hempty.active] at hactive
    contradiction
  | stop haborted =>
    rw [hempty.aborted] at haborted
    contradiction

theorem Empty.read {h : Fifo} {reg : Register} (hempty : Empty h) (hreg : reg ≠ .dataCmd) :
    Empty (h.read reg) := by
  cases reg with
  | dataCmd => contradiction
  | clrIntr | clrTxAbrt | clrStopDet => exact { hempty with }
  | _ => apply hempty

theorem Empty.write {h : Fifo} {txDepth : Nat} {v : Word} {reg : Register} (hempty : Empty h)
    (hreg : reg ≠ .dataCmd) : Empty (h.write txDepth v reg) := by
  cases reg with
  | dataCmd => contradiction
  | enable =>
    unfold Fifo.write
    dsimp only
    split
    . exact ⟨rfl, rfl, rfl, rfl⟩
    . exact { hempty with }
  | _ => exact { hempty with }

theorem Empty.calm (txDepth rxDepth : Word) :
    Calm (H := fifo txDepth rxDepth) Empty where
  off _ := ⟨rfl, rfl, rfl, rfl⟩
  step h h' hempty hstep := by
    rw [hempty.step hstep]
    apply hempty
  read reg h v hempty hreg _ := hempty.read hreg
  write v reg h hempty hreg := hempty.write hreg
  reset f h _ := ⟨rfl, rfl, rfl, rfl⟩

structure Cleared (h : Fifo) : Prop extends Empty h where
  stopDet : h.stopDet = false
  txAbrt : h.txAbrt = false

theorem Empty.cleared {h : Fifo} (hempty : Empty h) : Cleared (h.read .clrIntr) :=
  { hempty.read (by simp) with stopDet := rfl, txAbrt := rfl }

theorem Cleared.step {rxDepth : Nat} {h h' : Fifo} (hcleared : Cleared h)
    (hstep : Step rxDepth h h') : Cleared h' := by
  rw [hcleared.toEmpty.step hstep]
  apply hcleared

theorem Cleared.read {h : Fifo} {reg : Register} (hcleared : Cleared h) (hreg : reg ≠ .dataCmd) :
    Cleared (h.read reg) where
  toEmpty := hcleared.toEmpty.read hreg
  stopDet := by
    cases reg with
    | clrIntr | clrStopDet => rfl
    | _ => apply hcleared.stopDet
  txAbrt := by
    cases reg with
    | clrIntr | clrTxAbrt => rfl
    | _ => apply hcleared.txAbrt

/-! A controller that answers every read and raises no interrupt that the driver does not use. -/

def raw (h : Fifo) : Word :=
  (if h.rx ≠ [] then intrRxFull else 0)
    ||| (if h.tx.length ≤ (h.regs .txTl).toNat then intrTxEmpty else 0)
    ||| (if h.txAbrt then intrTxAbrt else 0)
    ||| (if h.stopDet then intrStopDet else 0)

def answer (reg : Register) (h : Fifo) : Word :=
  match reg with
  | .dataCmd => (h.rx.head?.getD 0).setWidth 32
  | .intrStat => h.raw &&& h.regs .intrMask
  | .rawIntrStat => h.raw
  | .txflr => BitVec.ofNat 32 h.tx.length
  | .rxflr => BitVec.ofNat 32 h.rx.length
  | .enableStatus => h.regs .enable &&& 1
  | reg => if reg.Holds then h.regs reg else 0

theorem raises_raw (h : Fifo) : h.Raises h.raw := by
  unfold Raises raw
  by_cases hrx : h.rx ≠ [] <;> by_cases htx : h.tx.length ≤ (h.regs .txTl).toNat
    <;> cases h.txAbrt <;> cases h.stopDet
    <;> simp only [hrx, htx, if_true, if_false, ne_eq, not_false_eq_true]
    <;> decide

theorem canRead_answer (reg : Register) (h : Fifo) : h.CanRead reg (h.answer reg) := by
  cases reg with
  | dataCmd =>
    intro b hb
    unfold answer
    dsimp only
    rw [hb, Option.getD_some, BitVec.setWidth_setWidth_of_le _ (by decide), BitVec.setWidth_eq]
  | intrStat => exact ⟨h.raw, h.raises_raw, rfl⟩
  | rawIntrStat => apply raises_raw
  | txflr | rxflr => rfl
  | con | tar | ssSclHcnt | ssSclLcnt | fsSclHcnt | fsSclLcnt | intrMask | rxTl | txTl | enable
  | sdaHold =>
    intro _
    rfl
  | _ =>
    intro hholds
    contradiction

end Fifo

end VoodooI2C
