import VoodooI2C.ResourcesParser.Reads

/-!
This module contains how `parseACPIResources` parses resources that are joined: the state that the
first part leaves is the one that the second part is parsed with.
-/

namespace VoodooI2C

open Interaction

namespace ACPIResourcesParser

variable {res resB : Nat → Byte} {sz szB offset offsetB : Word} {p q : ACPIResourcesParser}
  {depth a b o : Nat}

/--
From the index `a` on the bytes are the first `b` ones of `resB`.
-/
def Shifted (res : Nat → Byte) (a : Nat) (resB : Nat → Byte) (b : Nat) : Prop :=
  ∀ k < b, res (a + k) = resB k

theorem Shifted.at (h : Shifted res a resB b) {k : Nat} (hk : o + k < b) :
    res (a + o + k) = resB (o + k) := by
  rw [Nat.add_assoc]
  apply h (o + k) hk

theorem Shifted.half (h : Shifted res a resB b) {k : Nat} (hk : o + k + 1 < b) :
    half res (a + o + k) = half resB (o + k) := by
  unfold ACPIResourcesParser.half
  rw [h.at (by omega), Nat.add_assoc (a + o), h.at (by omega), Nat.add_assoc]

theorem Shifted.word (h : Shifted res a resB b) {k : Nat} (hk : o + k + 3 < b) :
    word res (a + o + k) = word resB (o + k) := by
  unfold ACPIResourcesParser.word
  rw [h.half (by omega), Nat.add_assoc (a + o), h.half (by omega), Nat.add_assoc]

theorem Shifted.index (h : Shifted res a resB b) (hb : a + b ≤ 2 ^ 32) {k : Nat} (hk : o + k < b) :
    res (index (a + o) k) = resB (index o k) := by
  unfold ACPIResourcesParser.index
  rw [Nat.mod_eq_of_lt (by omega), Nat.mod_eq_of_lt (by omega), h.at hk]

theorem Shifted.visitSerialBus (h : Shifted res a resB b) (hb : a + b ≤ 2 ^ 32)
    (hlength : o + 3 ≤ b)
    (hserialBus : resB o = 0x8e → p.foundI2C = false →
      o + 5 < b ∧ (resB (ACPIResourcesParser.index o 5) = 1 → o + 18 ≤ b)) :
    visitSerialBus res p (a + o) = visitSerialBus resB p o := by
  have htag : res (a + o) = resB o := h o (by omega)
  cases hfound : p.foundI2C with
  | true => simp [ACPIResourcesParser.visitSerialBus, hfound]
  | false =>
    by_cases hopcode : resB o = 0x8e
    . rcases hserialBus hopcode hfound with ⟨h5, hlen⟩
      have hbus : res (ACPIResourcesParser.index (a + o) 5) = resB (ACPIResourcesParser.index o 5) :=
        h.index hb (by omega)
      have hisI2C : isI2C res (a + o) = isI2C resB o := by
        unfold isI2C
        rw [htag, hbus]
      unfold ACPIResourcesParser.visitSerialBus
      rw [hisI2C]
      split
      . next hI2C =>
        unfold isI2C at hI2C
        simp only [decide_eq_true_eq] at hI2C
        have hlen := hlen hI2C.2.2
        have hinfo : i2cInfoAt res (a + o) = i2cInfoAt resB o := by
          unfold i2cInfoAt
          rw [h.index hb (by omega), h.half (by omega), h.word (by omega), h.half (by omega)]
        rw [hinfo]
      . rfl
    . rw [visitSerialBus_of_ne hopcode, visitSerialBus_of_ne (by rwa [htag])]

theorem Shifted.visitGpio (h : Shifted res a resB b) (hb : a + b ≤ 2 ^ 32) (hlength : o + 3 ≤ b)
    (hgpio : resB o = 0x8c → p.foundGpioInterrupts = false →
      o + 16 ≤ b ∧ o + (ACPIResourcesParser.half resB (o + 14)).toNat + 2 ≤ b) :
    visitGpio res p (a + o) = visitGpio resB p o := by
  have htag : res (a + o) = resB o := h o (by omega)
  cases hfound : p.foundGpioInterrupts with
  | true => simp [ACPIResourcesParser.visitGpio, hfound]
  | false =>
    by_cases hopcode : resB o = 0x8c
    . rcases hgpio hopcode hfound with ⟨hlen, hpin⟩
      have hoffset : ACPIResourcesParser.half res (a + o + 14)
          = ACPIResourcesParser.half resB (o + 14) := h.half (by omega)
      have hpinAt : pinAt res (a + o) = pinAt resB o := by
        unfold pinAt
        rw [hoffset, h.half (by omega)]
      have hisGpio : isGpio res (a + o) = isGpio resB o := by
        unfold isGpio
        rw [htag, hpinAt]
      have hint : gpioIntAt res (a + o) = gpioIntAt resB o := by
        unfold gpioIntAt
        rw [hpinAt, h.index hb (by omega), h.index hb (by omega), h.index hb (by omega)]
      have hio : gpioIoAt res (a + o) = gpioIoAt resB o := by
        unfold gpioIoAt
        rw [hpinAt, h.index hb (by omega), h.index hb (by omega), h.index hb (by omega)]
      unfold ACPIResourcesParser.visitGpio
      rw [hisGpio, hint, hio, h.index hb (by omega)]
    . rw [visitGpio_of_ne hopcode, visitGpio_of_ne (by rwa [htag])]

theorem Shifted.visit (h : Shifted res a resB szB.toNat) (hb : a + szB.toNat ≤ 2 ^ 31)
    (hwithin : Within resB szB p.foundI2C p.foundGpioInterrupts o) :
    visit res p (a + o) = visit resB p o := by
  have hlength := hwithin.length
  unfold ACPIResourcesParser.visit
  rw [h.visitGpio (by omega) hlength hwithin.gpio, h.visitSerialBus (by omega) hlength]
  rw [foundI2C_visitGpio]
  intro hopcode hfound
  have hserialBus := hwithin.serialBus hopcode hfound
  refine ⟨?_, hserialBus.2⟩
  have hindex : ACPIResourcesParser.index o 5 = o + 5 := Nat.mod_eq_of_lt (by omega)
  omega

theorem Shifted.next (h : Shifted res a resB szB.toNat) (hlt : offset < sz)
    (hltB : offsetB < szB) (hsz : sz.toNat + 0x10002 ≤ 2 ^ 32)
    (hszB : szB.toNat + 0x10002 ≤ 2 ^ 32) (hoffset : offset.toNat = a + offsetB.toNat)
    (hlength : offsetB.toNat + 3 ≤ szB.toNat) :
    (next res offset).toNat = a + (next resB offsetB).toNat := by
  rw [toNat_next hlt hsz, toNat_next hltB hszB, hoffset, h.half (by omega)]
  omega

theorem eval_parseACPIResources_shifted (h : Shifted res a resB szB.toNat)
    (hsz : sz.toNat = a + szB.toNat) (hlt : sz.toNat < 2 ^ 31)
    (hoffset : offset.toNat = a + offsetB.toNat)
    (hreads : ∀ i ∈ (parseACPIResources depth offsetB szB p).asked resB, i < szB.toNat) :
    (parseACPIResources depth offset sz p).eval res
      = (parseACPIResources depth offsetB szB p).eval resB := by
  induction depth generalizing offset offsetB p with
  | zero => rfl
  | succ depth ih =>
    by_cases hltB : offsetB < szB
    . have hoffsetB : offsetB.toNat < szB.toNat := hltB
      have hlt' : offset < sz := by
        change offset.toNat < sz.toNat
        omega
      rw [within_and_asked hltB] at hreads
      rcases hreads with ⟨hwithin, hreads⟩
      rw [eval_parseACPIResources_succ hlt', eval_parseACPIResources_succ hltB, hoffset,
        h.visit (by omega) hwithin]
      apply ih _ hreads
      apply h.next hlt' hltB (by omega) (by omega) hoffset hwithin.length
    . have hoffsetB : szB.toNat ≤ offsetB.toNat := BitVec.not_lt.mp hltB
      have hle : sz ≤ offset := by
        change sz.toNat ≤ offset.toNat
        omega
      rw [eval_parseACPIResources_of_le hle, eval_parseACPIResources_of_le hoffsetB]

theorem i2c_foldl_congr (hp : p.foundI2C = false) (hq : q.foundI2C = false) (l : List Nat) :
    (l.foldl (visit res) p).foundI2C = (l.foldl (visit res) q).foundI2C
      ∧ ((l.foldl (visit res) q).foundI2C = true →
        (l.foldl (visit res) p).i2cInfo = (l.foldl (visit res) q).i2cInfo) := by
  rw [foundI2C_foldl, foundI2C_foldl, hp, hq, Bool.false_or]
  refine ⟨rfl, ?_⟩
  intro hany
  rcases Option.isSome_iff_exists.mp (List.find?_isSome.mpr (List.any_eq_true.mp hany)) with ⟨i, hi⟩
  rw [i2cInfo_foldl hp hi, i2cInfo_foldl hq hi]

theorem gpioInterrupts_foldl_congr (hp : p.foundGpioInterrupts = false)
    (hq : q.foundGpioInterrupts = false) (l : List Nat) :
    (l.foldl (visit res) p).foundGpioInterrupts = (l.foldl (visit res) q).foundGpioInterrupts
      ∧ ((l.foldl (visit res) q).foundGpioInterrupts = true →
        (l.foldl (visit res) p).gpioInterrupts = (l.foldl (visit res) q).gpioInterrupts) := by
  rw [foundGpioInterrupts_foldl, foundGpioInterrupts_foldl, hp, hq, Bool.false_or]
  refine ⟨rfl, ?_⟩
  intro hany
  rcases Option.isSome_iff_exists.mp (List.find?_isSome.mpr (List.any_eq_true.mp hany)) with ⟨i, hi⟩
  rw [gpioInterrupts_foldl hp hi, gpioInterrupts_foldl hq hi]

/--
`r` has what `q` had found, and the rest from `r'`.
-/
structure Joins (q r' r : ACPIResourcesParser) : Prop where
  i2c_kept : q.foundI2C = true → r.foundI2C = true ∧ r.i2cInfo = q.i2cInfo
  gpioInterrupts_kept : q.foundGpioInterrupts = true →
    r.foundGpioInterrupts = true ∧ r.gpioInterrupts = q.gpioInterrupts
  i2c_taken : q.foundI2C = false →
    r.foundI2C = r'.foundI2C ∧ (r'.foundI2C = true → r.i2cInfo = r'.i2cInfo)
  gpioInterrupts_taken : q.foundGpioInterrupts = false →
    r.foundGpioInterrupts = r'.foundGpioInterrupts
      ∧ (r'.foundGpioInterrupts = true → r.gpioInterrupts = r'.gpioInterrupts)

theorem joins_of_eval {r r' : ACPIResourcesParser} (hp : p.Fresh)
    (hr' : (parseACPIResources depth offset sz p).eval res = some r')
    (hr : (parseACPIResources depth offset sz q).eval res = some r) : Joins q r' r := by
  have hr' := eval_parseACPIResources hr'
  have hr := eval_parseACPIResources hr
  subst hr
  subst hr'
  constructor
  . intro hfound
    rw [foundI2C_foldl, hfound, Bool.true_or]
    exact ⟨rfl, i2cInfo_foldl_of_found _ hfound⟩
  . intro hfound
    rw [foundGpioInterrupts_foldl, hfound, Bool.true_or]
    exact ⟨rfl, gpioInterrupts_foldl_of_found _ hfound⟩
  . intro hfound
    apply i2c_foldl_congr hfound hp.foundI2C
  . intro hfound
    apply gpioInterrupts_foldl_congr hfound hp.foundGpioInterrupts

end ACPIResourcesParser

open ACPIResourcesParser

section Large

variable {res : Nat → Byte} {sz offset : Word} {p : ACPIResourcesParser} {depth : Nat}
  {A : List LargeDescriptor}

def LargeDescriptor.bytesOf (A : List LargeDescriptor) : List Byte :=
  (A.map LargeDescriptor.bytes).flatten

def LargeDescriptor.visitAll (A : List LargeDescriptor) (p : ACPIResourcesParser) :
    ACPIResourcesParser :=
  A.foldl (fun p d => visit d.byte p 0) p

theorem LargeDescriptor.bytesOf_cons (d : LargeDescriptor) :
    bytesOf (d :: A) = d.bytes ++ bytesOf A := by
  simp [bytesOf]

theorem HoldsAt.visit {d : LargeDescriptor} {i : Nat} (h : HoldsAt res i d.bytes) (hd : d.Holds)
    (hi : i + d.bytes.length ≤ 2 ^ 31) : visit res p i = visit d.byte p 0 := by
  have hszB : (BitVec.ofNat 32 d.bytes.length).toNat = d.bytes.length := by
    rw [BitVec.toNat_ofNat, Nat.mod_eq_of_lt (by omega)]
  have hshifted : Shifted res i d.byte (BitVec.ofNat 32 d.bytes.length).toNat := by
    intro k hk
    rw [hszB] at hk
    apply h.byte hk
  apply hshifted.visit (o := 0)
  . rw [hszB]
    apply hi
  . apply hd.within hszB

theorem eval_parseACPIResources_large (depth : Nat) (p : ACPIResourcesParser) (hd : ∀ d ∈ A, d.Holds)
    (hres : HoldsAt res offset.toNat (LargeDescriptor.bytesOf A))
    (hlength : offset.toNat + (LargeDescriptor.bytesOf A).length ≤ sz.toNat)
    (hlt : sz.toNat < 2 ^ 31) :
    ∃ offset' : Word, offset'.toNat = offset.toNat + (LargeDescriptor.bytesOf A).length
      ∧ (parseACPIResources (A.length + depth) offset sz p).eval res
        = (parseACPIResources depth offset' sz (LargeDescriptor.visitAll A p)).eval res := by
  induction A generalizing offset p with
  | nil =>
    refine ⟨offset, rfl, ?_⟩
    rw [List.length_nil, Nat.zero_add]
    rfl
  | cons d A ih =>
    rw [LargeDescriptor.bytesOf_cons] at hres hlength
    rw [List.length_append] at hlength
    have hbytes : d.bytes.length = d.body.length + 3 := LargeDescriptor.length_bytes
    have hlt' : offset < sz := by
      change offset.toNat < sz.toNat
      omega
    have hnext := next_of_large hres.left hlt' (by omega)
    have hdA : ∀ d' ∈ A, d'.Holds := fun d' hmem => hd d' (List.mem_cons_of_mem d hmem)
    have hresA : HoldsAt res (next res offset).toNat (LargeDescriptor.bytesOf A) := by
      rw [hnext]
      apply hres.right
    rcases ih (visit d.byte p 0) hdA hresA (by omega) with ⟨offset', hoffset', heval⟩
    refine ⟨offset', ?_, ?_⟩
    . rw [LargeDescriptor.bytesOf_cons, List.length_append]
      omega
    . rw [List.length_cons, Nat.add_right_comm, eval_parseACPIResources_succ hlt',
        hres.left.visit (hd d List.mem_cons_self) (by omega), heval]
      rfl

theorem LargeDescriptor.length_le_bytesOf : A.length ≤ (bytesOf A).length := by
  induction A with
  | nil => simp
  | cons d A ih =>
    rw [bytesOf_cons, List.length_append, List.length_cons, length_bytes]
    omega

theorem HoldsAt.shifted {B : List Byte} {resB : Nat → Byte} {a : Nat} (h : HoldsAt res a B)
    (hB : HoldsAt resB 0 B) : Shifted res a resB B.length := by
  intro k hk
  have hb := List.getElem?_eq_getElem hk
  rw [h k _ hb]
  have hk := hB k _ hb
  rw [Nat.zero_add] at hk
  rw [hk]

theorem parseACPIResources_append {B : List Byte} {resA resB : Nat → Byte} {szA szB : Word}
    (hd : ∀ d ∈ A, d.Holds) (hresA : HoldsAt resA 0 (LargeDescriptor.bytesOf A))
    (hszA : szA.toNat = (LargeDescriptor.bytesOf A).length) (hresB : HoldsAt resB 0 B)
    (hszB : szB.toNat = B.length) (hres : HoldsAt res 0 (LargeDescriptor.bytesOf A ++ B))
    (hsz : sz.toNat = (LargeDescriptor.bytesOf A ++ B).length) (hlt : sz.toNat < 2 ^ 31) :
    ∃ q, (∀ depth, szA.toNat < depth → (parseACPIResources depth 0 szA p).eval resA = some q)
      ∧ ((∀ depth, ∀ i ∈ (parseACPIResources depth 0 szB q).asked resB, i < szB.toNat) →
        ∃ r, (∀ depth, szB.toNat < depth → (parseACPIResources depth 0 szB q).eval resB = some r)
          ∧ (∀ depth, sz.toNat < depth → (parseACPIResources depth 0 sz p).eval res = some r)
          ∧ ∀ p' r' : ACPIResourcesParser, p'.Fresh →
            (parseACPIResources (szB.toNat + 1) 0 szB p').eval resB = some r' → Joins q r' r) := by
  rw [List.length_append] at hsz
  have hlength := @LargeDescriptor.length_le_bytesOf A
  have hzero : (0 : Word).toNat = 0 := rfl
  refine ⟨LargeDescriptor.visitAll A p, ?_, ?_⟩
  . intro depth hdepth
    obtain ⟨k, rfl⟩ : ∃ k, depth = A.length + (k + 1) := ⟨depth - A.length - 1, by omega⟩
    have hresA : HoldsAt resA (0 : Word).toNat (LargeDescriptor.bytesOf A) := hresA
    have hltA : szA.toNat < 2 ^ 31 := by omega
    rcases eval_parseACPIResources_large (k + 1) p hd hresA (by omega) hltA
      with ⟨offset, hoffset, heval⟩
    rw [heval, eval_parseACPIResources_of_le]
    change szA.toNat ≤ offset.toNat
    omega
  . intro hreads
    have hr : ∀ depth, szB.toNat < depth →
        (parseACPIResources depth 0 szB (LargeDescriptor.visitAll A p)).eval resB = some _ :=
      fun depth => parseACPIResources_of_lt (by omega)
    refine ⟨_, hr, ?_, ?_⟩
    . intro depth hdepth
      obtain ⟨k, rfl⟩ : ∃ k, depth = A.length + k := ⟨depth - A.length, by omega⟩
      have hres' : HoldsAt res (0 : Word).toNat (LargeDescriptor.bytesOf A) := hres.left
      rcases eval_parseACPIResources_large k p hd hres' (by omega) hlt with ⟨offset, hoffset, heval⟩
      have hshifted : Shifted res (LargeDescriptor.bytesOf A).length resB szB.toNat := by
        have hright := hres.right
        rw [Nat.zero_add] at hright
        rw [hszB]
        apply hright.shifted hresB
      rw [heval, eval_parseACPIResources_shifted hshifted (by omega) hlt (by omega) (hreads k)]
      apply hr
      omega
    . intro p' r' hp' hr'
      apply joins_of_eval hp' hr'
      apply hr
      omega

end Large

def gpioIntDescriptor : LargeDescriptor where
  tag := 0x8c
  body := [1, 0, 1, 0, 2, 0, 0, 0, 0, 0, 0, 16, 0, 0x2A, 0]
  tag_large := by decide
  length_lt := by decide

theorem gpioIntDescriptor_holds : gpioIntDescriptor.Holds := by
  constructor <;> decide

theorem parseACPIResources_append_gpioInt :
    ∃ q r, (parseACPIResources 19 0 18 freshParser).eval (memoryOf serialBusDescriptor.bytes) = some q
      ∧ (parseACPIResources 37 0 36 freshParser).eval
        (memoryOf (serialBusDescriptor.bytes ++ gpioIntDescriptor.bytes)) = some r
      ∧ r.foundI2C = true ∧ r.i2cInfo = q.i2cInfo := by
  have hd : ∀ d ∈ [serialBusDescriptor], d.Holds := by
    intro d hmem
    rw [List.mem_singleton] at hmem
    rw [hmem]
    apply serialBusDescriptor_holds
  have hszA : (18 : Word).toNat = (LargeDescriptor.bytesOf [serialBusDescriptor]).length := by decide
  have hszB : (18 : Word).toNat = gpioIntDescriptor.bytes.length := by decide
  have hsz : (36 : Word).toNat
      = (LargeDescriptor.bytesOf [serialBusDescriptor] ++ gpioIntDescriptor.bytes).length := by decide
  rcases parseACPIResources_append (p := freshParser) hd (memoryOf_holdsAt _) hszA
    (memoryOf_holdsAt _) hszB (memoryOf_holdsAt _) hsz (by decide) with ⟨q, hq, happend⟩
  rcases happend (gpioIntDescriptor_holds.asked hszB (by decide)) with ⟨r, hr, hr', hjoins⟩
  have hq := hq 19 (by decide)
  have hparse : (parseACPIResources 19 0 18 freshParser).eval (memoryOf gpioIntDescriptor.bytes)
      = some _ := parseACPIResources_of_lt (by decide) (by decide)
  have hfound : q.foundI2C = true := by
    have hsome : ((parseACPIResources 19 0 18 freshParser).eval
        (memoryOf serialBusDescriptor.bytes)).map ACPIResourcesParser.foundI2C = some true := by
      decide
    rw [show memoryOf serialBusDescriptor.bytes
      = memoryOf (LargeDescriptor.bytesOf [serialBusDescriptor]) from rfl, hq] at hsome
    injection hsome
  have hkept := (hjoins freshParser _ freshParser_fresh hparse).i2c_kept hfound
  exact ⟨q, r, hq, hr' 37 (by decide), hkept⟩

end VoodooI2C
