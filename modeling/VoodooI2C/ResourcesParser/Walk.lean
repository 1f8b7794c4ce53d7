import VoodooI2C.ResourcesParser.Basic

/-!
This module contains what `parseACPIResources` computes: it walks through the resources, taking the
two bytes after the first one of a descriptor for its length, and keeps what the first descriptors of
the two kinds it looks for say.
-/

namespace VoodooI2C

namespace ACPIResourcesParser

open Interaction

variable {res : Nat → Byte} {sz offset : Word} {p : ACPIResourcesParser} {depth : Nat}

def half (res : Nat → Byte) (i : Nat) : BitVec 16 := res (i + 1) ++ res i

def word (res : Nat → Byte) (i : Nat) : Word := half res (i + 2) ++ half res i

@[simp]
theorem eval_byteAt (i : Nat) : (byteAt i).eval res = res i := rfl

@[simp]
theorem asked_byteAt (i : Nat) : (byteAt i).asked res = [i] := rfl

@[simp]
theorem eval_halfAt (i : Nat) : (halfAt i).eval res = half res i := rfl

@[simp]
theorem asked_halfAt (i : Nat) : (halfAt i).asked res = [i, i + 1] := rfl

@[simp]
theorem eval_wordAt (i : Nat) : (wordAt i).eval res = word res i := rfl

@[simp]
theorem asked_wordAt (i : Nat) : (wordAt i).asked res = [i, i + 1, i + 2, i + 3] := rfl

/-! What the bytes from an index on say if a descriptor begins there. -/

-- An index into the array is computed in 32 bits, an address for `memcpy` is not.
def index (i k : Nat) : Nat := (i + k) % 2 ^ 32

def isI2C (res : Nat → Byte) (i : Nat) : Bool := res i = 0x8e ∧ res (index i 5) = 1

def i2cInfoAt (res : Nat → Byte) (i : Nat) : I2CInfo where
  resourceConsumer := (res (index i 6) >>> 1) &&& 1 ≠ 0
  deviceInitiated := res (index i 6) &&& 1 ≠ 0
  addressMode10Bit := half res (i + 7) &&& 1 ≠ 0
  busSpeed := word res (i + 12)
  address := half res (i + 16)

def pinAt (res : Nat → Byte) (i : Nat) : BitVec 16 := half res (i + (half res (i + 14)).toNat)

def isGpio (res : Nat → Byte) (i : Nat) : Bool := res i = 0x8c ∧ pinAt res i ≠ 0xFFFF

def isGpioInt (res : Nat → Byte) (i : Nat) : Bool := isGpio res i ∧ res (index i 4) = 0

def gpioIntAt (res : Nat → Byte) (i : Nat) : GpioIntInfo where
  resourceConsumer := res (index i 5) &&& 1 ≠ 0
  levelInterrupt := res (index i 7) &&& 1 = 0
  interruptPolarity := (res (index i 7) >>> 1) &&& 3
  sharedInterrupt := (res (index i 7) >>> 3) &&& 1 ≠ 0
  wakeInterrupt := (res (index i 7) >>> 4) &&& 1 ≠ 0
  pinConfig := res (index i 9)
  pinNumber := pinAt res i
  irqType := irqType (res (index i 7) &&& 1 = 0) ((res (index i 7) >>> 1) &&& 3)

def gpioIoAt (res : Nat → Byte) (i : Nat) : GpioIoInfo where
  resourceConsumer := res (index i 5) &&& 1 ≠ 0
  ioRestriction := res (index i 7) &&& 3
  sharing := (res (index i 7) >>> 3) &&& 1 ≠ 0
  pinConfig := res (index i 9)
  pinNumber := pinAt res i

def visitSerialBus (res : Nat → Byte) (p : ACPIResourcesParser) (i : Nat) : ACPIResourcesParser :=
  if p.foundI2C = false ∧ isI2C res i then
    { p with foundI2C := true, i2cInfo := i2cInfoAt res i }
  else
    p

def visitGpio (res : Nat → Byte) (p : ACPIResourcesParser) (i : Nat) : ACPIResourcesParser :=
  if p.foundGpioInterrupts = false ∧ isGpio res i then
    if res (index i 4) = 0 then
      { p with foundGpioInterrupts := true, gpioInterrupts := gpioIntAt res i }
    else if res (index i 4) = 1 then
      { p with foundGpioIo := true, gpioIo := gpioIoAt res i }
    else
      p
  else
    p

def visit (res : Nat → Byte) (p : ACPIResourcesParser) (i : Nat) : ACPIResourcesParser :=
  visitSerialBus res (visitGpio res p i) i

theorem eval_parseACPISerialBus (h : offset < sz) :
    (parseACPISerialBus offset sz p).eval res = visitSerialBus res p offset.toNat := by
  have hge : ¬ offset ≥ sz := by simpa using h
  unfold visitSerialBus isI2C parseACPISerialBus
  by_cases hfound : p.foundI2C = true
  . rw [if_pos hfound, if_neg]
    . rfl
    . simp [hfound]
  . rw [if_neg hfound, if_neg hge, Prog.eval_bind, eval_byteAt]
    by_cases hopcode : res offset.toNat = 0x8e
    . rw [if_neg (not_not_intro hopcode), Prog.eval_bind, Prog.eval_bind, eval_byteAt]
      by_cases hbus : res (offset + 5).toNat = 1
      . have hindex : res (index offset.toNat 5) = 1 := hbus
        rw [if_neg (not_not_intro hbus), if_pos]
        . rfl
        . simp only [hopcode, hindex, and_self, decide_true, and_true]
          simpa using hfound
      . have hindex : res (index offset.toNat 5) ≠ 1 := hbus
        rw [if_pos hbus, if_neg]
        . rfl
        . simp only [hindex, and_false, decide_false]
          simp
    . rw [if_pos hopcode, if_neg]
      . rfl
      . simp only [hopcode, false_and, decide_false]
        simp

theorem eval_parseACPIGpio (h : offset < sz) :
    (parseACPIGpio offset sz p).eval res = visitGpio res p offset.toNat := by
  have hge : ¬ offset ≥ sz := by simpa using h
  unfold visitGpio isGpio parseACPIGpio
  by_cases hfound : p.foundGpioInterrupts = true
  . rw [if_pos hfound, if_neg]
    . rfl
    . simp [hfound]
  . rw [if_neg hfound, if_neg hge, Prog.eval_bind, eval_byteAt]
    by_cases hopcode : res offset.toNat = 0x8c
    . rw [if_neg (not_not_intro hopcode)]
      simp only [Prog.eval_bind, eval_byteAt, eval_halfAt]
      change (if pinAt res offset.toNat = 0xFFFF then _ else _ : Parse _).eval res = _
      by_cases hpin : pinAt res offset.toNat = 0xFFFF
      . rw [if_pos hpin, if_neg]
        . rfl
        . simp only [hpin, ne_eq, not_true_eq_false, and_false, decide_false]
          simp
      . rw [if_neg hpin, if_pos]
        . rw [Prog.eval_pure]
          unfold parseACPIGpio.int parseACPIGpio.io
          by_cases hint : res (offset + 4).toNat = 0
          . have hindex : res (index offset.toNat 4) = 0 := hint
            rw [if_pos hint, if_pos hindex, if_neg]
            . rfl
            . rw [hint]
              decide
          . have hindex : res (index offset.toNat 4) ≠ 0 := hint
            rw [if_neg hint, if_neg hindex]
            rfl
        . simp only [hopcode, hpin, ne_eq, not_false_eq_true, and_self, decide_true, and_true]
          simpa using hfound
    . rw [if_pos hopcode, if_neg]
      . rfl
      . simp only [hopcode, false_and, decide_false]
        simp

theorem visitSerialBus_of_ne {i : Nat} (h : res i ≠ 0x8e) : visitSerialBus res p i = p := by
  unfold visitSerialBus isI2C
  rw [if_neg]
  simp only [h, false_and, decide_false]
  simp

theorem visitGpio_of_ne {i : Nat} (h : res i ≠ 0x8c) : visitGpio res p i = p := by
  unfold visitGpio isGpio
  rw [if_neg]
  simp only [h, false_and, decide_false]
  simp

theorem eval_parseIf_gpio (h : offset < sz) :
    (parseIf (res offset.toNat = 0x8c) (parseACPIGpio offset sz) p).eval res
      = visitGpio res p offset.toNat := by
  unfold parseIf
  split
  . apply eval_parseACPIGpio h
  . next hne =>
    rw [visitGpio_of_ne (by simpa using hne)]
    rfl

theorem eval_parseIf_serialBus (h : offset < sz) :
    (parseIf (res offset.toNat = 0x8e) (parseACPISerialBus offset sz) p).eval res
      = visitSerialBus res p offset.toNat := by
  unfold parseIf
  split
  . apply eval_parseACPISerialBus h
  . next hne =>
    rw [visitSerialBus_of_ne (by simpa using hne)]
    rfl

def next (res : Nat → Byte) (offset : Word) : Word :=
  offset + ((half res (offset.toNat + 1)).setWidth 32 + 3)

theorem eval_parseACPIResources_succ (h : offset < sz) :
    (parseACPIResources (depth + 1) offset sz p).eval res
      = (parseACPIResources depth (next res offset) sz (visit res p offset.toNat)).eval res := by
  have hge : ¬ offset ≥ sz := by simpa using h
  rw [parseACPIResources, if_neg hge, Prog.eval_bind, eval_byteAt, Prog.eval_bind, eval_halfAt,
    Prog.eval_bind, eval_parseIf_gpio h, Prog.eval_bind, eval_parseIf_serialBus h]
  rfl

theorem eval_parseACPIResources_of_le (h : sz ≤ offset) :
    (parseACPIResources (depth + 1) offset sz p).eval res = some p := by
  rw [parseACPIResources, if_pos h]
  rfl

def walk (res : Nat → Byte) (sz : Word) (depth : Nat) (offset : Word) : List Nat :=
  match depth with
  | 0 => []
  | depth + 1 => if offset < sz then offset.toNat :: walk res sz depth (next res offset) else []

theorem eval_parseACPIResources {q : ACPIResourcesParser}
    (h : (parseACPIResources depth offset sz p).eval res = some q) :
    q = (walk res sz depth offset).foldl (visit res) p := by
  induction depth generalizing offset p with
  | zero => contradiction
  | succ depth ih =>
    unfold walk
    split
    . next hlt =>
      rw [eval_parseACPIResources_succ hlt] at h
      rw [ih h, List.foldl_cons]
    . next hge =>
      rw [eval_parseACPIResources_of_le (by simpa using hge)] at h
      injection h with h
      rw [← h, List.foldl_nil]

/-! Resources that end some way before `2 ^ 32` bytes are walked through to their end. -/

theorem toNat_next (h : offset < sz) (hsz : sz.toNat + 0x10002 ≤ 2 ^ 32) :
    (next res offset).toNat = offset.toNat + (half res (offset.toNat + 1)).toNat + 3 := by
  have hlt : offset.toNat < sz.toNat := h
  have hlen := (half res (offset.toNat + 1)).isLt
  unfold next
  rw [BitVec.toNat_add, BitVec.toNat_add, BitVec.toNat_setWidth_of_le (by omega)]
  have : (3 : Word).toNat = 3 := rfl
  omega

theorem exists_parseACPIResources (hsz : sz.toNat + 0x10002 ≤ 2 ^ 32)
    (hdepth : sz.toNat - offset.toNat < depth) :
    ∃ q, (parseACPIResources depth offset sz p).eval res = some q := by
  induction depth generalizing offset p with
  | zero => omega
  | succ depth ih =>
    by_cases hlt : offset < sz
    . rw [eval_parseACPIResources_succ hlt]
      apply ih
      rw [toNat_next hlt hsz]
      have : offset.toNat < sz.toNat := hlt
      omega
    . exact ⟨p, eval_parseACPIResources_of_le (by simpa using hlt)⟩

theorem walk_eq_of_lt {depth' : Nat} (hsz : sz.toNat + 0x10002 ≤ 2 ^ 32)
    (hdepth : sz.toNat - offset.toNat < depth) (hdepth' : sz.toNat - offset.toNat < depth') :
    walk res sz depth offset = walk res sz depth' offset := by
  induction depth generalizing offset depth' with
  | zero => omega
  | succ depth ih =>
    cases depth' with
    | zero => omega
    | succ depth' =>
      unfold walk
      split
      . next hlt =>
        have hnext : (next res offset).toNat = _ := toNat_next hlt hsz
        have : offset.toNat < sz.toNat := hlt
        congr 1
        apply ih
        . omega
        . omega
      . rfl

theorem parseACPIResources_eq_walk (hsz : sz.toNat + 0x10002 ≤ 2 ^ 32)
    (hdepth : sz.toNat - offset.toNat < depth) :
    (parseACPIResources depth offset sz p).eval res
      = some ((walk res sz depth offset).foldl (visit res) p) := by
  rcases exists_parseACPIResources hsz hdepth with ⟨q, hq⟩
  rw [hq, eval_parseACPIResources hq]

theorem parseACPIResources_of_lt (hsz : sz.toNat + 0x10002 ≤ 2 ^ 32) (hdepth : sz.toNat < depth) :
    (parseACPIResources depth 0 sz p).eval res
      = some ((walk res sz (sz.toNat + 1) 0).foldl (visit res) p) := by
  have hwalk : walk res sz depth 0 = walk res sz (sz.toNat + 1) 0 := by
    apply walk_eq_of_lt hsz
    . simpa using hdepth
    . simp
  rw [parseACPIResources_eq_walk hsz (by simpa using hdepth), hwalk]

/-! What stays of a walk: the first descriptor of each kind. -/

theorem foundI2C_visit (i : Nat) : (visit res p i).foundI2C = (p.foundI2C || isI2C res i) := by
  have hgpio : (visitGpio res p i).foundI2C = p.foundI2C := by
    unfold visitGpio
    split
    . split
      . rfl
      . split <;> rfl
    . rfl
  unfold visit visitSerialBus
  rw [hgpio]
  split
  . next h => simp [h.2]
  . next h =>
    rw [hgpio]
    simp only [not_and, Bool.not_eq_true] at h
    cases hfound : p.foundI2C
    . simp [h hfound]
    . rfl

theorem i2cInfo_visit (i : Nat) :
    (visit res p i).i2cInfo
      = if p.foundI2C = false ∧ isI2C res i then i2cInfoAt res i else p.i2cInfo := by
  have hgpio : (visitGpio res p i).foundI2C = p.foundI2C
      ∧ (visitGpio res p i).i2cInfo = p.i2cInfo := by
    unfold visitGpio
    split
    . split
      . exact ⟨rfl, rfl⟩
      . split <;> exact ⟨rfl, rfl⟩
    . exact ⟨rfl, rfl⟩
  unfold visit visitSerialBus
  rw [hgpio.1]
  split
  . rfl
  . apply hgpio.2

theorem foundGpioInterrupts_visit (i : Nat) :
    (visit res p i).foundGpioInterrupts = (p.foundGpioInterrupts || isGpioInt res i) := by
  have hserial : ∀ p : ACPIResourcesParser,
      (visitSerialBus res p i).foundGpioInterrupts = p.foundGpioInterrupts := by
    intro p
    unfold visitSerialBus
    split <;> rfl
  unfold visit
  rw [hserial]
  unfold visitGpio isGpioInt
  split
  . next h =>
    split
    . next hint => simp [h.2, hint]
    . next hint =>
      have hint : decide (isGpio res i ∧ res (index i 4) = 0) = false := by simpa using fun _ => hint
      rw [hint]
      split <;> simp
  . next h =>
    simp only [not_and, Bool.not_eq_true] at h
    cases hfound : p.foundGpioInterrupts
    . simp [h hfound]
    . rfl

theorem gpioInterrupts_visit (i : Nat) :
    (visit res p i).gpioInterrupts
      = if p.foundGpioInterrupts = false ∧ isGpioInt res i then gpioIntAt res i
        else p.gpioInterrupts := by
  have hserial : ∀ p : ACPIResourcesParser,
      (visitSerialBus res p i).gpioInterrupts = p.gpioInterrupts := by
    intro p
    unfold visitSerialBus
    split <;> rfl
  unfold visit
  rw [hserial]
  unfold visitGpio isGpioInt
  split
  . next h =>
    split
    . next hint => simp [h.1, h.2, hint]
    . next hint =>
      have hint : decide (isGpio res i ∧ res (index i 4) = 0) = false := by simpa using fun _ => hint
      rw [hint]
      split <;> simp
  . next h =>
    rw [if_neg]
    intro hint
    simp only [Bool.decide_and, Bool.and_eq_true, decide_eq_true_eq] at hint
    apply h
    exact ⟨hint.1, hint.2.1⟩

theorem foundI2C_foldl (l : List Nat) :
    (l.foldl (visit res) p).foundI2C = (p.foundI2C || l.any (isI2C res)) := by
  induction l generalizing p with
  | nil => simp
  | cons i l ih =>
    rw [List.foldl_cons, ih, foundI2C_visit, List.any_cons, Bool.or_assoc]

theorem foundGpioInterrupts_foldl (l : List Nat) :
    (l.foldl (visit res) p).foundGpioInterrupts
      = (p.foundGpioInterrupts || l.any (isGpioInt res)) := by
  induction l generalizing p with
  | nil => simp
  | cons i l ih =>
    rw [List.foldl_cons, ih, foundGpioInterrupts_visit, List.any_cons, Bool.or_assoc]

theorem i2cInfo_foldl_of_found (l : List Nat) (h : p.foundI2C = true) :
    (l.foldl (visit res) p).i2cInfo = p.i2cInfo := by
  induction l generalizing p with
  | nil => rfl
  | cons i l ih =>
    rw [List.foldl_cons, ih, i2cInfo_visit, if_neg]
    . simp [h]
    . rw [foundI2C_visit, h, Bool.true_or]

theorem gpioInterrupts_foldl_of_found (l : List Nat) (h : p.foundGpioInterrupts = true) :
    (l.foldl (visit res) p).gpioInterrupts = p.gpioInterrupts := by
  induction l generalizing p with
  | nil => rfl
  | cons i l ih =>
    rw [List.foldl_cons, ih, gpioInterrupts_visit, if_neg]
    . simp [h]
    . rw [foundGpioInterrupts_visit, h, Bool.true_or]

theorem i2cInfo_foldl {l : List Nat} {i : Nat} (h : p.foundI2C = false)
    (hfind : l.find? (isI2C res) = some i) :
    (l.foldl (visit res) p).i2cInfo = i2cInfoAt res i := by
  induction l generalizing p with
  | nil => contradiction
  | cons j l ih =>
    rw [List.find?_cons] at hfind
    rw [List.foldl_cons]
    split at hfind
    . next hj =>
      injection hfind with hfind
      subst hfind
      rw [i2cInfo_foldl_of_found, i2cInfo_visit, if_pos ⟨h, hj⟩]
      rw [foundI2C_visit, hj, Bool.or_true]
    . next hj =>
      apply ih _ hfind
      rw [foundI2C_visit, h, hj, Bool.or_false]

theorem gpioInterrupts_foldl {l : List Nat} {i : Nat} (h : p.foundGpioInterrupts = false)
    (hfind : l.find? (isGpioInt res) = some i) :
    (l.foldl (visit res) p).gpioInterrupts = gpioIntAt res i := by
  induction l generalizing p with
  | nil => contradiction
  | cons j l ih =>
    rw [List.find?_cons] at hfind
    rw [List.foldl_cons]
    split at hfind
    . next hj =>
      injection hfind with hfind
      subst hfind
      rw [gpioInterrupts_foldl_of_found, gpioInterrupts_visit, if_pos ⟨h, hj⟩]
      rw [foundGpioInterrupts_visit, hj, Bool.or_true]
    . next hj =>
      apply ih _ hfind
      rw [foundGpioInterrupts_visit, h, hj, Bool.or_false]

end ACPIResourcesParser

end VoodooI2C
