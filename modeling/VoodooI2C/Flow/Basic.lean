import VoodooI2C.Hardware.Fifo

/-!
This module contains the balance of the two FIFOs: `receive_outstanding` bounds the bytes in the
receive FIFO and the read commands in the transmit FIFO and is equal to their number as long as the
controller has aborted nothing.
-/

namespace VoodooI2C

def Fifo.owed (h : Fifo) : Nat := h.rx.length + h.tx.countP isRead

structure Fits (txDepth rxDepth : Nat) (h : Fifo) : Prop where
  tx : h.tx.length ≤ txDepth
  owed : h.owed ≤ rxDepth

namespace Fits

variable {txDepth rxDepth : Nat} {h h' : Fifo} {c v : Word} {reg : Register}

theorem of_nil (htx : h.tx = []) (hrx : h.rx = []) : Fits txDepth rxDepth h where
  tx := by
    rw [htx]
    apply Nat.zero_le
  owed := by
    unfold Fifo.owed
    rw [htx, hrx]
    apply Nat.zero_le

theorem room (hfits : Fits txDepth rxDepth h) (hc : h.tx.head? = some c) (hread : isRead c) :
    h.rx.length < rxDepth := by
  have howed := hfits.owed
  have hpos : 0 < h.tx.countP isRead := by
    rw [List.countP_pos_iff]
    exact ⟨c, List.mem_of_head? hc, hread⟩
  unfold Fifo.owed at howed
  omega

theorem owed_execute {b : Byte} (hfits : Fits txDepth rxDepth h) (hc : h.tx.head? = some c) :
    (h.execute rxDepth c b).owed = h.owed := by
  unfold Fifo.execute Fifo.owed
  rcases List.head?_eq_some_iff.mp hc with ⟨tx, htx⟩
  dsimp only
  by_cases hread : isRead c
  . rw [if_pos ⟨hread, hfits.room hc hread⟩, htx, List.tail_cons, List.countP_cons_of_pos hread,
      List.length_append, List.length_singleton]
    omega
  . rw [if_neg (fun h => hread h.1), htx, List.tail_cons, List.countP_cons_of_neg hread]

theorem step (hfits : Fits txDepth rxDepth h) (hstep : Fifo.Step rxDepth h h') :
    Fits txDepth rxDepth h' := by
  cases hstep with
  | execute hc =>
    rcases List.head?_eq_some_iff.mp hc with ⟨tx, htx⟩
    have hlevel := hfits.tx
    have howed := hfits.owed
    unfold Fifo.owed at howed
    rw [htx] at hlevel howed
    constructor
    . unfold Fifo.execute
      dsimp only
      rw [htx]
      apply Nat.le_of_succ_le hlevel
    . unfold Fifo.execute Fifo.owed
      dsimp only
      rw [htx, List.tail_cons]
      rw [List.countP_cons] at howed
      split
      . next hroom =>
        rw [if_pos hroom.1] at howed
        rw [List.length_append, List.length_singleton]
        omega
      . omega
  | abort hactive =>
    have howed := hfits.owed
    unfold Fifo.owed at howed
    constructor
    . apply Nat.zero_le
    . unfold Fifo.abort Fifo.owed
      simp only [List.countP_nil]
      omega
  | stop haborted => exact { hfits with }

theorem read (hfits : Fits txDepth rxDepth h) (reg : Register) :
    Fits txDepth rxDepth (h.read reg) := by
  cases reg with
  | dataCmd =>
    have howed := hfits.owed
    unfold Fifo.owed at howed
    constructor
    . apply hfits.tx
    . unfold Fifo.read Fifo.owed
      dsimp only
      rw [List.length_tail]
      omega
  | clrIntr | clrTxAbrt | clrStopDet => exact { hfits with }
  | _ => apply hfits

theorem write (hfits : Fits txDepth rxDepth h) (hroom : reg = .dataCmd → isRead v → h.owed < rxDepth) :
    Fits txDepth rxDepth (h.write txDepth v reg) := by
  cases reg with
  | dataCmd =>
    unfold Fifo.write
    dsimp only
    split
    . next hlevel =>
      have howed := hfits.owed
      have hroom := hroom rfl
      constructor
      . rw [List.length_append, List.length_singleton]
        apply hlevel.2.1
      . unfold Fifo.owed at *
        dsimp only
        rw [List.countP_append, List.countP_singleton]
        split
        . next hread =>
          have := hroom hread
          omega
        . omega
    . apply hfits
  | enable =>
    unfold Fifo.write
    dsimp only
    split
    . exact of_nil rfl rfl
    . exact { hfits with }
  | _ => exact { hfits with }

theorem write_of_ne (hfits : Fits txDepth rxDepth h) (v : Word) (reg : Register)
    (hreg : reg ≠ .dataCmd) : Fits txDepth rxDepth (h.write txDepth v reg) :=
  hfits.write fun heq => absurd heq hreg

end Fits

/--
`o` is `receive_outstanding`.
-/
structure Flow (txDepth rxDepth : Nat) (o : Int) (h : Fifo) : Prop where
  enabled : h.regs .enable ≠ 0
  aborted : h.txAbrt = true → h.aborted = true
  owed_le : (h.owed : Int) ≤ o
  owed_eq : h.aborted = false → o = h.owed
  le_depth : o ≤ rxDepth
  level : h.tx.length ≤ txDepth

namespace Flow

variable {txDepth rxDepth : Nat} {o o' : Int} {h h' : Fifo} {c v : Word} {b : Byte}
  {reg : Register}

theorem nonneg (hflow : Flow txDepth rxDepth o h) : 0 ≤ o := by
  have := hflow.owed_le
  omega

theorem fits (hflow : Flow txDepth rxDepth o h) : Fits txDepth rxDepth h where
  tx := hflow.level
  owed := by
    have := hflow.owed_le
    have := hflow.le_depth
    omega

theorem length_rx_le (hflow : Flow txDepth rxDepth o h) : h.rx.length ≤ rxDepth := by
  have := hflow.owed_le
  have := hflow.le_depth
  unfold Fifo.owed at *
  omega

theorem owed_execute (hflow : Flow txDepth rxDepth o h) (hc : h.tx.head? = some c) :
    (h.execute rxDepth c b).owed = h.owed :=
  hflow.fits.owed_execute hc

theorem execute (hflow : Flow txDepth rxDepth o h) (hc : h.tx.head? = some c) :
    Flow txDepth rxDepth o (h.execute rxDepth c b) where
  enabled := hflow.enabled
  aborted := hflow.aborted
  owed_le := by
    rw [hflow.owed_execute hc]
    apply hflow.owed_le
  owed_eq haborted := by
    rw [hflow.owed_execute hc]
    apply hflow.owed_eq haborted
  le_depth := hflow.le_depth
  level := by
    have := hflow.level
    unfold Fifo.execute
    dsimp only
    rw [List.length_tail]
    omega

theorem step (hflow : Flow txDepth rxDepth o h) (hstep : Fifo.Step rxDepth h h') :
    Flow txDepth rxDepth o h' := by
  cases hstep with
  | execute hc => apply hflow.execute hc
  | abort hactive =>
    exact
      { enabled := hflow.enabled
        aborted := fun _ => rfl
        owed_le := by
          have := hflow.owed_le
          unfold Fifo.owed Fifo.abort at *
          simp only [List.countP_nil]
          omega
        owed_eq := fun haborted => by contradiction
        le_depth := hflow.le_depth
        level := Nat.zero_le _ }
  | stop haborted => exact { hflow with }

theorem read (hflow : Flow txDepth rxDepth o h) (hreg : reg ≠ .dataCmd) :
    Flow txDepth rxDepth o (h.read reg) := by
  cases reg with
  | dataCmd => contradiction
  | clrIntr | clrTxAbrt =>
    exact { hflow with aborted := fun habrt => by contradiction }
  | clrStopDet => exact { hflow with }
  | _ => apply hflow

theorem write (hflow : Flow txDepth rxDepth o h) (hreg : reg ≠ .dataCmd)
    (henable : reg ≠ .enable) : Flow txDepth rxDepth o (h.write txDepth v reg) := by
  cases reg with
  | dataCmd | enable => contradiction
  | _ =>
    exact
      { hflow with
        enabled := by
          unfold Fifo.write
          dsimp only
          rw [Function.update_of_ne (by simp)]
          apply hflow.enabled }

theorem pop (hflow : Flow txDepth rxDepth o h) (hrx : h.rx ≠ []) :
    Flow txDepth rxDepth (o - 1) (h.read .dataCmd) := by
  have howed : (h.read .dataCmd).owed + 1 = h.owed := by
    have := List.length_pos_iff.mpr hrx
    unfold Fifo.owed Fifo.read
    dsimp only
    rw [List.length_tail]
    omega
  exact
    { hflow with
      owed_le := by
        have := hflow.owed_le
        omega
      owed_eq := fun haborted => by
        have := hflow.owed_eq haborted
        omega
      le_depth := by
        have := hflow.le_depth
        omega }

theorem write_dataCmd (hflow : Flow txDepth rxDepth o h) (hlevel : h.tx.length < txDepth)
    (habrt : h.txAbrt = false) :
    h.write txDepth v .dataCmd = { h with tx := h.tx ++ [v], active := true } := by
  unfold Fifo.write
  dsimp only
  rw [if_pos ⟨hflow.enabled, hlevel, habrt⟩]

theorem push (hflow : Flow txDepth rxDepth o h) (hlevel : h.tx.length < txDepth)
    (ho : o' = o + if isRead v then 1 else 0) (hdepth : o' ≤ rxDepth) :
    Flow txDepth rxDepth o' (h.write txDepth v .dataCmd) := by
  have howed := hflow.owed_le
  by_cases habrt : h.txAbrt = true
  . have : h.write txDepth v .dataCmd = h := by
      unfold Fifo.write
      dsimp only
      rw [if_neg]
      rw [habrt]
      simp
    rw [this]
    have haborted := hflow.aborted habrt
    exact
      { hflow with
        owed_le := by
          split at ho <;> omega
        owed_eq := fun h => by
          rw [haborted] at h
          contradiction
        le_depth := hdepth }
  . rw [Bool.not_eq_true] at habrt
    have heq := hflow.write_dataCmd (v := v) hlevel habrt
    have howed' : ((h.write txDepth v .dataCmd).owed : Int)
        = h.owed + if isRead v then 1 else 0 := by
      rw [heq]
      unfold Fifo.owed
      dsimp only
      rw [List.countP_append, List.countP_singleton]
      split <;> omega
    exact
      { enabled := by
          rw [heq]
          apply hflow.enabled
        aborted := by
          rw [heq]
          apply hflow.aborted
        owed_le := by omega
        owed_eq := by
          intro haborted
          have : h.aborted = false := by
            rw [heq] at haborted
            apply haborted
          have := hflow.owed_eq this
          omega
        le_depth := hdepth
        level := by
          rw [heq, List.length_append, List.length_singleton]
          apply hlevel }

theorem start (hcleared : h.Cleared) (henable : h.regs .enable ≠ 0) :
    Flow txDepth rxDepth 0 h where
  enabled := henable
  aborted habrt := by
    rw [hcleared.txAbrt] at habrt
    contradiction
  owed_le := by
    unfold Fifo.owed
    rw [hcleared.tx, hcleared.rx]
    apply Int.le_refl
  owed_eq _ := by
    unfold Fifo.owed
    rw [hcleared.tx, hcleared.rx]
    rfl
  le_depth := Int.natCast_nonneg _
  level := by
    rw [hcleared.tx]
    apply Nat.zero_le

end Flow

/-! The limits that the driver computes from the levels. -/

theorem toInt_sub_ofNat_le {depth : Word} {n : Nat} (h : n ≤ depth.toNat) :
    (depth - BitVec.ofNat 32 n).toInt ≤ depth.toNat - n := by
  have hn : (BitVec.ofNat 32 n).toNat = n := by
    rw [BitVec.toNat_ofNat]
    apply Nat.mod_eq_of_lt
    have := depth.isLt
    omega
  have hsub : (depth - BitVec.ofNat 32 n).toNat = depth.toNat - n := by
    rw [BitVec.toNat_sub_of_le, hn]
    rw [BitVec.le_def, hn]
    apply h
  rw [BitVec.toInt_eq_toNat_cond, hsub]
  split <;> omega

theorem toInt_ofNat_le (n : Nat) : (BitVec.ofNat 32 n).toInt ≤ n := by
  rw [BitVec.toInt_eq_toNat_cond, BitVec.toNat_ofNat]
  have := Nat.mod_le n (2 ^ 32)
  split <;> omega

end VoodooI2C
