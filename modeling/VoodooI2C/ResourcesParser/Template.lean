import VoodooI2C.ResourcesParser.Walk

/-!
This module contains ACPI resource templates and what `parseACPIResources` finds in them.
-/

namespace VoodooI2C

open Interaction ACPIResourcesParser

structure LargeDescriptor where
  tag : Byte
  body : List Byte
  tag_large : tag &&& 0x80 ≠ 0
  length_lt : body.length < 2 ^ 16

structure SmallDescriptor where
  header : Byte
  body : List Byte
  header_small : header &&& 0x80 = 0
  header_ne : header &&& 0xF8 ≠ 0x78
  length_eq : body.length = (header &&& 7).toNat

inductive Descriptor where
  | large (d : LargeDescriptor)
  | small (d : SmallDescriptor)

namespace LargeDescriptor

def bytes (d : LargeDescriptor) : List Byte :=
  d.tag :: BitVec.ofNat 8 d.body.length :: BitVec.ofNat 8 (d.body.length / 2 ^ 8) :: d.body

def byte (d : LargeDescriptor) (i : Nat) : Byte := d.bytes.getD i 0

/--
A GPIO or a serial bus descriptor holds its fields, and a GPIO descriptor its first pin.
-/
structure Holds (d : LargeDescriptor) : Prop where
  serialBus : d.tag = 0x8e → 18 ≤ d.bytes.length
  gpio : d.tag = 0x8c → 16 ≤ d.bytes.length
  pin : d.tag = 0x8c → (half d.byte 14).toNat + 2 ≤ d.bytes.length

end LargeDescriptor

namespace Descriptor

def bytes (d : Descriptor) : List Byte :=
  match d with
  | .large d => d.bytes
  | .small d => d.header :: d.body

def first (X : (Nat → Byte) → Nat → Bool) (ds : List Descriptor) : Option LargeDescriptor :=
  match ds with
  | [] => none
  | .large d :: ds => if X d.byte 0 then some d else first X ds
  | .small _ :: ds => first X ds

def LargeUntil (X : (Nat → Byte) → Nat → Bool) (ds : List Descriptor) : Prop :=
  match ds with
  | [] => True
  | .large d :: ds => X d.byte 0 = true ∨ LargeUntil X ds
  | .small _ :: _ => False

end Descriptor

def templateBytes (ds : List Descriptor) (checksum : Byte) : List Byte :=
  (ds.map Descriptor.bytes).flatten ++ [0x79, checksum]

def HoldsAt (res : Nat → Byte) (i : Nat) (bytes : List Byte) : Prop :=
  ∀ k b, bytes[k]? = some b → res (i + k) = b

variable {res : Nat → Byte} {i : Nat} {l l' : List Byte} {d : LargeDescriptor}
  {ds : List Descriptor} {checksum : Byte} {sz offset : Word} {depth : Nat}
  {X : (Nat → Byte) → Nat → Bool}

theorem HoldsAt.left (h : HoldsAt res i (l ++ l')) : HoldsAt res i l := by
  intro k b hb
  apply h k b
  rw [List.getElem?_append_left, hb]
  apply (List.getElem?_eq_some_iff.mp hb).1

theorem HoldsAt.right (h : HoldsAt res i (l ++ l')) : HoldsAt res (i + l.length) l' := by
  intro k b hb
  rw [Nat.add_assoc]
  apply h (l.length + k) b
  rw [List.getElem?_append_right (Nat.le_add_right _ _), Nat.add_sub_cancel_left, hb]

theorem HoldsAt.byte (h : HoldsAt res i d.bytes) {k : Nat} (hk : k < d.bytes.length) :
    res (i + k) = d.byte k := by
  apply h
  unfold LargeDescriptor.byte
  rw [List.getD_eq_getElem?_getD, List.getElem?_eq_getElem hk, Option.getD_some]

theorem index_zero {k : Nat} (h : k < 2 ^ 32) : index 0 k = k := by
  rw [index, Nat.zero_add, Nat.mod_eq_of_lt h]

theorem HoldsAt.index (h : HoldsAt res i d.bytes) (hi : i + d.bytes.length ≤ 2 ^ 32) {k : Nat}
    (hk : k < d.bytes.length) : res (index i k) = d.byte (index 0 k) := by
  rw [index_zero (by omega), ACPIResourcesParser.index, Nat.mod_eq_of_lt (by omega), h.byte hk]

theorem HoldsAt.half (h : HoldsAt res i d.bytes) {k : Nat} (hk : k + 1 < d.bytes.length) :
    half res (i + k) = half d.byte k := by
  unfold ACPIResourcesParser.half
  rw [Nat.add_assoc, h.byte hk, h.byte (by omega)]

theorem HoldsAt.word (h : HoldsAt res i d.bytes) {k : Nat} (hk : k + 3 < d.bytes.length) :
    word res (i + k) = word d.byte k := by
  unfold ACPIResourcesParser.word
  rw [Nat.add_assoc, h.half hk, h.half (by omega)]

@[simp]
theorem LargeDescriptor.length_bytes : d.bytes.length = d.body.length + 3 := by
  simp [LargeDescriptor.bytes]

theorem LargeDescriptor.half_length : (half d.byte 1).toNat = d.body.length := by
  have := d.length_lt
  have hhalf : half d.byte 1
      = BitVec.ofNat 8 (d.body.length / 2 ^ 8) ++ BitVec.ofNat 8 d.body.length := rfl
  rw [hhalf, BitVec.toNat_append, BitVec.toNat_ofNat, BitVec.toNat_ofNat,
    ← Nat.shiftLeft_add_eq_or_of_lt (Nat.mod_lt _ (by decide)), Nat.shiftLeft_eq]
  omega

/--
What `X` says about a descriptor in memory depends on the bytes of this descriptor only.
-/
structure Local (X : (Nat → Byte) → Nat → Bool) : Prop where
  large : ∀ res i d, LargeDescriptor.Holds d → HoldsAt res i d.bytes →
    i + d.bytes.length ≤ 2 ^ 32 → X res i = X d.byte 0
  endTag : ∀ res i, res i = 0x79 → X res i = false

theorem HoldsAt.tag (h : HoldsAt res i d.bytes) : res i = d.tag := by
  apply h.byte (k := 0)
  simp

theorem local_isI2C : Local isI2C where
  large res i d hd h hi := by
    have htag : d.byte 0 = d.tag := rfl
    unfold isI2C
    rw [h.tag, htag]
    by_cases hserial : d.tag = 0x8e
    . have := hd.serialBus hserial
      rw [h.index hi (by omega)]
    . simp only [hserial, false_and]
  endTag res i h := by
    unfold isI2C
    rw [h]
    simp

theorem HoldsAt.pinAt (h : HoldsAt res i d.bytes) (hd : d.Holds) (htag : d.tag = 0x8c) :
    pinAt res i = pinAt d.byte 0 := by
  have hlen := hd.gpio htag
  have hpin := hd.pin htag
  have hoffset : ACPIResourcesParser.half res (i + 14) = ACPIResourcesParser.half d.byte 14 := by
    apply h.half
    omega
  unfold ACPIResourcesParser.pinAt
  rw [hoffset, h.half (by omega), Nat.zero_add, Nat.zero_add]

theorem local_isGpioInt : Local isGpioInt where
  large res i d hd h hi := by
    have htag : d.byte 0 = d.tag := rfl
    unfold isGpioInt isGpio
    rw [h.tag, htag]
    by_cases hgpio : d.tag = 0x8c
    . have := hd.gpio hgpio
      rw [h.pinAt hd hgpio, h.index hi (by omega)]
    . simp only [hgpio, false_and, decide_false, Bool.false_eq_true]
  endTag res i h := by
    unfold isGpioInt isGpio
    rw [h]
    simp

theorem next_of_large (h : HoldsAt res offset.toNat d.bytes) (hlt : offset < sz)
    (hsz : sz.toNat + 0x10002 ≤ 2 ^ 32) :
    (next res offset).toNat = offset.toNat + d.bytes.length := by
  rw [toNat_next hlt hsz, h.half (by simp), LargeDescriptor.half_length, LargeDescriptor.length_bytes,
    Nat.add_assoc]

theorem templateBytes_cons (d : Descriptor) :
    templateBytes (d :: ds) checksum = d.bytes ++ templateBytes ds checksum := by
  simp [templateBytes]

theorem walk_succ (h : offset < sz) :
    walk res sz (depth + 1) offset = offset.toNat :: walk res sz depth (next res offset) := by
  rw [walk, if_pos h]

theorem walk_of_le (h : sz.toNat ≤ offset.toNat) : walk res sz depth offset = [] := by
  cases depth with
  | zero => rfl
  | succ depth =>
    rw [walk, if_neg]
    apply Nat.not_lt_of_le h

theorem find_walk (hX : Local X) (hsz : sz.toNat + 0x10002 ≤ 2 ^ 32)
    (hd : ∀ d, .large d ∈ ds → d.Holds) (hlarge : Descriptor.LargeUntil X ds)
    (hres : HoldsAt res offset.toNat (templateBytes ds checksum))
    (hlength : offset.toNat + (templateBytes ds checksum).length = sz.toNat)
    (hdepth : sz.toNat - offset.toNat < depth) :
    match Descriptor.first X ds with
    | none => (walk res sz depth offset).find? (X res) = none
    | some d => ∃ i, (walk res sz depth offset).find? (X res) = some i ∧ HoldsAt res i d.bytes := by
  induction ds generalizing offset depth with
  | nil =>
    -- the step from the End Tag leads behind the end
    have hend : X res offset.toNat = false := by
      apply hX.endTag
      apply hres 0
      rfl
    have htwo : (templateBytes [] checksum).length = 2 := rfl
    have hlt : offset < sz := by
      change offset.toNat < sz.toNat
      omega
    cases depth with
    | zero => omega
    | succ depth =>
      rw [Descriptor.first, walk_succ hlt, List.find?_cons_of_neg (by simp [hend]), walk_of_le]
      . rfl
      . rw [toNat_next hlt hsz]
        omega
  | cons d ds ih =>
    rw [templateBytes_cons] at hres hlength
    rw [List.length_append] at hlength
    cases d with
    | small d => contradiction
    | large d =>
      have hbytes : d.bytes.length = d.body.length + 3 := LargeDescriptor.length_bytes
      have heq : (Descriptor.large d).bytes = d.bytes := rfl
      rw [heq] at hres hlength
      have hlt : offset < sz := by
        change offset.toNat < sz.toNat
        omega
      cases depth with
      | zero => omega
      | succ depth =>
        have hXd := hX.large res offset.toNat d (hd d (by simp)) hres.left (by omega)
        rw [walk_succ hlt, List.find?_cons, hXd, Descriptor.first]
        cases hfound : X d.byte 0 with
        | true => exact ⟨offset.toNat, rfl, hres.left⟩
        | false =>
          have hnext := next_of_large hres.left hlt hsz
          rw [if_neg (by simp)]
          apply ih
          . intro d' hmem
            apply hd d'
            simp [hmem]
          . rw [Descriptor.LargeUntil, hfound] at hlarge
            simpa using hlarge
          . rw [hnext]
            apply hres.right
          . rw [hnext]
            omega
          . rw [hnext]
            omega

def SameI2C (res : Nat → Byte) (i : Nat) (d : LargeDescriptor) : Prop :=
  word res (i + 12) = word d.byte 12
    ∧ half res (i + 16) = half d.byte 16
    ∧ (half res (i + 7) &&& 1 ≠ 0 ↔ half d.byte 7 &&& 1 ≠ 0)

def SamePin (res : Nat → Byte) (i : Nat) (d : LargeDescriptor) : Prop :=
  pinAt res i = pinAt d.byte 0

def Meets (X : (Nat → Byte) → Nat → Bool)
    (Same : (Nat → Byte) → Nat → LargeDescriptor → Prop) (res : Nat → Byte) (l : List Nat)
    (ds : List Descriptor) : Prop :=
  match l.find? (X res), Descriptor.first X ds with
  | none, none => True
  | some i, some d => Same res i d
  | _, _ => False

structure FindsI2C (ds : List Descriptor) (q : ACPIResourcesParser) : Prop where
  found : q.foundI2C = true ↔ ∃ d, Descriptor.first isI2C ds = some d
  info : ∀ d, Descriptor.first isI2C ds = some d →
    q.i2cInfo.busSpeed = word d.byte 12
      ∧ q.i2cInfo.address = half d.byte 16
      ∧ (q.i2cInfo.addressMode10Bit = true ↔ half d.byte 7 &&& 1 ≠ 0)

structure FindsGpioInt (ds : List Descriptor) (q : ACPIResourcesParser) : Prop where
  found : q.foundGpioInterrupts = true ↔ ∃ d, Descriptor.first isGpioInt ds = some d
  pin : ∀ d, Descriptor.first isGpioInt ds = some d →
    q.gpioInterrupts.pinNumber = pinAt d.byte 0

theorem HoldsAt.sameI2C (h : HoldsAt res i d.bytes) (hd : 18 ≤ d.bytes.length) :
    SameI2C res i d := by
  refine ⟨?_, ?_, ?_⟩
  . apply h.word
    omega
  . apply h.half
    omega
  . rw [h.half (by omega)]

theorem Descriptor.first_mem (h : Descriptor.first X ds = some d) :
    .large d ∈ ds ∧ X d.byte 0 = true := by
  induction ds with
  | nil => contradiction
  | cons d' ds ih =>
    cases d' with
    | large d' =>
      rw [Descriptor.first] at h
      split at h
      . next hX =>
        injection h with h
        subst h
        exact ⟨List.mem_cons_self, hX⟩
      . have := ih h
        exact ⟨List.mem_cons_of_mem _ this.1, this.2⟩
    | small d' =>
      have := ih h
      exact ⟨List.mem_cons_of_mem _ this.1, this.2⟩

theorem meets_of_largeUntil {Same : (Nat → Byte) → Nat → LargeDescriptor → Prop} (hX : Local X)
    (hSame : ∀ res i d, d.Holds → X d.byte 0 = true → HoldsAt res i d.bytes → Same res i d)
    (hsz : sz.toNat + 0x10002 ≤ 2 ^ 32) (hd : ∀ d, .large d ∈ ds → d.Holds)
    (hlarge : Descriptor.LargeUntil X ds) (hres : HoldsAt res 0 (templateBytes ds checksum))
    (hlength : (templateBytes ds checksum).length = sz.toNat) (hdepth : sz.toNat < depth) :
    Meets X Same res (walk res sz depth 0) ds := by
  have hlength : (0 : Word).toNat + (templateBytes ds checksum).length = sz.toNat := by
    simpa using hlength
  have h := find_walk hX hsz hd hlarge hres hlength (by simpa using hdepth)
  unfold Meets
  split at h
  . next hfirst =>
    rw [h, hfirst]
    trivial
  . next d hfirst =>
    rcases h with ⟨i, hi, hd'⟩
    rw [hi, hfirst]
    rcases Descriptor.first_mem hfirst with ⟨hmem, hXd⟩
    apply hSame res i d (hd d hmem) hXd hd'

theorem meets_iff {Same : (Nat → Byte) → Nat → LargeDescriptor → Prop} {l : List Nat} {found : Bool}
    {Info : LargeDescriptor → Prop} (hfound : found = l.any (X res))
    (hinfo : ∀ i d, l.find? (X res) = some i → (Info d ↔ Same res i d)) :
    ((found = true ↔ ∃ d, Descriptor.first X ds = some d)
      ∧ ∀ d, Descriptor.first X ds = some d → Info d) ↔ Meets X Same res l ds := by
  unfold Meets
  cases hfind : l.find? (X res) with
  | none =>
    have hnone : found = false := by
      rw [hfound, List.any_eq_false]
      apply List.find?_eq_none.mp hfind
    cases hfirst : Descriptor.first X ds with
    | none => simp [hnone]
    | some d => simp [hnone]
  | some i =>
    have hsome : found = true := by
      rw [hfound, List.any_eq_true]
      exact ⟨i, List.mem_of_find?_eq_some hfind, List.find?_some hfind⟩
    cases hfirst : Descriptor.first X ds with
    | none => simp [hsome]
    | some d => simp [hsome, hinfo i d hfind]

theorem findsI2C_foldl {p : ACPIResourcesParser} {l : List Nat} (hp : p.Fresh) :
    FindsI2C ds (l.foldl (visit res) p) ↔ Meets isI2C SameI2C res l ds := by
  have hfound : (l.foldl (visit res) p).foundI2C = _ := foundI2C_foldl l
  rw [hp.foundI2C, Bool.false_or] at hfound
  rw [← meets_iff hfound]
  . constructor
    . intro h
      exact ⟨h.found, h.info⟩
    . intro h
      exact ⟨h.1, h.2⟩
  . intro i d hfind
    rw [i2cInfo_foldl hp.foundI2C hfind]
    simp [SameI2C, i2cInfoAt]

theorem findsGpioInt_foldl {p : ACPIResourcesParser} {l : List Nat} (hp : p.Fresh) :
    FindsGpioInt ds (l.foldl (visit res) p) ↔ Meets isGpioInt SamePin res l ds := by
  have hfound : (l.foldl (visit res) p).foundGpioInterrupts = _ := foundGpioInterrupts_foldl l
  rw [hp.foundGpioInterrupts, Bool.false_or] at hfound
  rw [← meets_iff hfound]
  . constructor
    . intro h
      exact ⟨h.found, h.pin⟩
    . intro h
      exact ⟨h.1, h.2⟩
  . intro i d hfind
    rw [gpioInterrupts_foldl hp.foundGpioInterrupts hfind]
    rfl

section Claim

variable {p : ACPIResourcesParser}

/--
The parser finds what the template has exactly if its walk, which takes every descriptor for a large
one, meets it first. It does if no small descriptor stands before.
-/
theorem parseACPIResources_template (hp : p.Fresh) (hd : ∀ d, .large d ∈ ds → d.Holds)
    (hres : HoldsAt res 0 (templateBytes ds checksum))
    (hlength : (templateBytes ds checksum).length = sz.toNat) (hsz : sz.toNat + 0x10002 ≤ 2 ^ 32) :
    ∃ q, (∀ depth, sz.toNat < depth → (parseACPIResources depth 0 sz p).eval res = some q)
      ∧ (FindsI2C ds q ↔ Meets isI2C SameI2C res (walk res sz (sz.toNat + 1) 0) ds)
      ∧ (FindsGpioInt ds q ↔ Meets isGpioInt SamePin res (walk res sz (sz.toNat + 1) 0) ds)
      ∧ (Descriptor.LargeUntil isI2C ds → FindsI2C ds q)
      ∧ (Descriptor.LargeUntil isGpioInt ds → FindsGpioInt ds q) := by
  refine ⟨(walk res sz (sz.toNat + 1) 0).foldl (visit res) p, ?_, findsI2C_foldl hp,
    findsGpioInt_foldl hp, ?_, ?_⟩
  . intro depth
    apply parseACPIResources_of_lt hsz
  . intro hlarge
    rw [findsI2C_foldl hp]
    apply meets_of_largeUntil local_isI2C _ hsz hd hlarge hres hlength (Nat.lt_succ_self _)
    intro res i d hd hX h
    apply h.sameI2C
    apply hd.serialBus
    unfold isI2C at hX
    simp only [decide_eq_true_eq] at hX
    apply hX.1
  . intro hlarge
    rw [findsGpioInt_foldl hp]
    apply meets_of_largeUntil local_isGpioInt _ hsz hd hlarge hres hlength (Nat.lt_succ_self _)
    intro res i d hd hX h
    apply h.pinAt hd
    unfold isGpioInt isGpio at hX
    simp only [decide_eq_true_eq] at hX
    apply hX.1.1

end Claim

/-! An IRQ descriptor, which is small, before an I2C serial bus descriptor. -/

def irqDescriptor : SmallDescriptor where
  header := 0x22
  body := [0x10, 0x00]
  header_small := by decide
  header_ne := by decide
  length_eq := by decide

def serialBusDescriptor : LargeDescriptor where
  tag := 0x8e
  body := [1, 0, 1, 2, 0, 0, 1, 6, 0, 0x80, 0x1A, 6, 0, 0x2C, 0]
  tag_large := by decide
  length_lt := by decide

theorem serialBusDescriptor_holds : serialBusDescriptor.Holds := by
  constructor <;> decide

def memoryOf (bytes : List Byte) (i : Nat) : Byte := bytes.getD i 0

theorem memoryOf_holdsAt (bytes : List Byte) : HoldsAt (memoryOf bytes) 0 bytes := by
  intro k b hb
  unfold memoryOf
  rw [Nat.zero_add, List.getD_eq_getElem?_getD, hb, Option.getD_some]

def freshParser : ACPIResourcesParser where
  foundI2C := false
  foundGpioInterrupts := false
  foundGpioIo := false
  i2cInfo := ⟨false, false, false, 0, 0⟩
  gpioInterrupts := ⟨false, false, 0, false, false, 0, 0, 0⟩
  gpioIo := ⟨false, 0, false, 0, 0⟩

theorem freshParser_fresh : freshParser.Fresh :=
  ⟨rfl, rfl⟩

theorem parseACPIResources_template_serialBus :
    ∃ q, (∀ depth, 20 < depth → (parseACPIResources depth 0 20 freshParser).eval
        (memoryOf (templateBytes [.large serialBusDescriptor] 0)) = some q)
      ∧ FindsI2C [.large serialBusDescriptor] q := by
  have hd : ∀ d, Descriptor.large d ∈ [Descriptor.large serialBusDescriptor] → d.Holds := by
    intro d hmem
    rw [List.mem_singleton] at hmem
    injection hmem with hmem
    rw [hmem]
    apply serialBusDescriptor_holds
  have hsz : (20 : Word).toNat + 0x10002 ≤ 2 ^ 32 := by decide
  rcases parseACPIResources_template freshParser_fresh hd (memoryOf_holdsAt _) rfl hsz
    with ⟨q, hq, -, -, hfinds, -⟩
  refine ⟨q, hq, ?_⟩
  apply hfinds
  left
  decide

theorem parseACPIResources_not_template :
    ∃ q, (parseACPIResources 24 0 23 freshParser).eval
        (memoryOf (templateBytes [.small irqDescriptor, .large serialBusDescriptor] 0)) = some q
      ∧ ¬ FindsI2C [.small irqDescriptor, .large serialBusDescriptor] q := by
  refine ⟨freshParser, by decide +kernel, ?_⟩
  intro h
  have hfound := h.found.mpr ⟨serialBusDescriptor, rfl⟩
  contradiction

end VoodooI2C
