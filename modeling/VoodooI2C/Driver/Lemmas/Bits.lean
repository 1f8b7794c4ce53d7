import VoodooI2C.Driver.Constants
import Mathlib.Tactic.Common

/-!
This module contains the lemmas about setting, clearing and testing bits.
-/

namespace VoodooI2C

theorem or_and_cancel (x y : Word) : (x ||| y) &&& y = y := by
  ext i hi
  simp
  grind

theorem and_not_and_cancel (x y : Word) : x &&& ~~~y &&& y = 0 := by
  ext i hi
  simp

theorem or_and_not_cancel (x y : Word) : (x ||| y) &&& ~~~y = x &&& ~~~y := by
  ext i hi
  simp
  grind

theorem and_not_or_cancel (x y : Word) : x &&& ~~~y ||| y = x ||| y := by
  ext i hi
  simp
  grind

theorem or_and_of_disjoint {x y z : Word} (h : y &&& z = 0) : (x ||| y) &&& z = x &&& z := by
  rw [BitVec.and_or_distrib_right, h]
  simp

theorem and_not_and_of_disjoint {x y z : Word} (h : y &&& z = 0) : x &&& ~~~y &&& z = x &&& z := by
  ext i hi
  have := congrArg (fun v => v[i]) h
  simp at this ⊢
  grind

@[simp]
theorem or_read_and_read (x : Word) :
    (x ||| statusReadInProgress) &&& statusReadInProgress = statusReadInProgress := by
  apply or_and_cancel

@[simp]
theorem or_write_and_write (x : Word) :
    (x ||| statusWriteInProgress) &&& statusWriteInProgress = statusWriteInProgress := by
  apply or_and_cancel

@[simp]
theorem or_read_and_write (x : Word) :
    (x ||| statusReadInProgress) &&& statusWriteInProgress = x &&& statusWriteInProgress := by
  apply or_and_of_disjoint
  decide

@[simp]
theorem or_write_and_read (x : Word) :
    (x ||| statusWriteInProgress) &&& statusReadInProgress = x &&& statusReadInProgress := by
  apply or_and_of_disjoint
  decide

@[simp]
theorem and_not_read_and_read (x : Word) :
    x &&& ~~~statusReadInProgress &&& statusReadInProgress = 0 := by
  apply and_not_and_cancel

@[simp]
theorem and_not_write_and_write (x : Word) :
    x &&& ~~~statusWriteInProgress &&& statusWriteInProgress = 0 := by
  apply and_not_and_cancel

@[simp]
theorem and_not_read_and_write (x : Word) :
    x &&& ~~~statusReadInProgress &&& statusWriteInProgress = x &&& statusWriteInProgress := by
  apply and_not_and_of_disjoint
  decide

@[simp]
theorem and_not_write_and_read (x : Word) :
    x &&& ~~~statusWriteInProgress &&& statusReadInProgress = x &&& statusReadInProgress := by
  apply and_not_and_of_disjoint
  decide

@[simp]
theorem statusReadInProgress_ne_zero : ¬ statusReadInProgress = 0#32 := by
  decide

@[simp]
theorem statusWriteInProgress_ne_zero : ¬ statusWriteInProgress = 0#32 := by
  decide

set_option maxRecDepth 10000 in
theorem setWidth_and_restart (b : Byte) : b.setWidth 32 &&& (0x400 : Word) = 0 := by
  decide +revert

set_option maxRecDepth 10000 in
theorem setWidth_and_read (b : Byte) : b.setWidth 32 &&& (0x100 : Word) = 0 := by
  decide +revert

set_option maxRecDepth 10000 in
theorem setWidth_and_stop (b : Byte) : b.setWidth 32 &&& (0x200 : Word) = 0 := by
  decide +revert

theorem and_not_of_and_eq_zero {x y : Word} (h : x &&& y = 0) : x &&& ~~~y = x := by
  ext i hi
  have := congrArg (fun v => v[i]) h
  simp at this ⊢
  grind

theorem tar_and_ten {address : BitVec 16} (h : address < 0x1000) (ten : Prop) [Decidable ten] :
    (address.setWidth 32 ||| if ten then tar10bitaddrMaster else 0) &&& tar10bitaddrMaster ≠ 0
      ↔ ten := by
  have haddress : address.setWidth 32 &&& tar10bitaddrMaster = 0 := by
    have hbit : tar10bitaddrMaster = BitVec.twoPow 32 12 := by decide
    have hlt : address.toNat < 2 ^ 12 := h
    rw [hbit, BitVec.and_twoPow, BitVec.getLsbD_setWidth, BitVec.getLsbD, Nat.testBit_lt_two_pow hlt]
    rfl
  rw [BitVec.and_or_distrib_right, haddress]
  split
  . next hten =>
    simp [hten]
    decide
  . next hten =>
    simp [hten]

theorem and_eq_zero_of_masked {x mask bit : Word} (h : x &&& mask = x) (hbit : mask &&& bit = 0) :
    x &&& bit = 0 := by
  rw [← h, BitVec.and_assoc, hbit]
  simp

theorem and_or_eq_zero_iff {x y z : Word} : x &&& (y ||| z) = 0 ↔ x &&& y = 0 ∧ x &&& z = 0 := by
  rw [BitVec.and_or_distrib_left]
  exact BitVec.or_eq_zero_iff

theorem or_errTxAbrt_ne_zero (x : Word) : x ||| errTxAbrt ≠ 0 := by
  intro hzero
  have := congrArg (fun v => v &&& errTxAbrt) hzero
  simp only [or_and_cancel] at this
  contradiction

end VoodooI2C
