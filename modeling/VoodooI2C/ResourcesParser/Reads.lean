import VoodooI2C.ResourcesParser.Template

/-!
This module contains which bytes `parseACPIResources` reads, and when all of them lie within the
resources.
-/

namespace VoodooI2C

open Interaction

namespace ACPIResourcesParser

variable {res : Nat → Byte} {sz offset : Word} {p : ACPIResourcesParser} {depth : Nat}

/--
The bytes that are read of a descriptor at the offset `o` are before the end, if the parser has
`foundI2C` and `foundGpioInterrupts` when it comes there.
-/
structure Within (res : Nat → Byte) (sz : Word) (foundI2C foundGpioInterrupts : Bool) (o : Nat) :
    Prop where
  length : o + 3 ≤ sz.toNat
  gpio : res o = 0x8c → foundGpioInterrupts = false →
    o + 16 ≤ sz.toNat ∧ o + (half res (o + 14)).toNat + 2 ≤ sz.toNat
  serialBus : res o = 0x8e → foundI2C = false →
    index o 5 < sz.toNat ∧ (res (index o 5) = 1 → o + 18 ≤ sz.toNat)

theorem index_le (o k : Nat) : index o k ≤ o + k :=
  Nat.mod_le _ _

theorem asked_parseACPIGpio (h : offset < sz) (hopcode : res offset.toNat = 0x8c)
    (hfound : p.foundGpioInterrupts = false) :
    (parseACPIGpio offset sz p).asked res
      = [offset.toNat, offset.toNat + 1, offset.toNat + 1 + 1, index offset.toNat 4,
        index offset.toNat 5, index offset.toNat 7, index offset.toNat 9, offset.toNat + 14,
        offset.toNat + 14 + 1, offset.toNat + (half res (offset.toNat + 14)).toNat,
        offset.toNat + (half res (offset.toNat + 14)).toNat + 1] := by
  have hge : ¬ offset ≥ sz := by simpa using h
  unfold parseACPIGpio
  rw [if_neg (by simp [hfound]), if_neg hge, Prog.asked_bind, eval_byteAt,
    if_neg (not_not_intro hopcode), Prog.asked_bind, Prog.asked_bind, Prog.asked_bind,
    Prog.asked_bind, Prog.asked_bind, Prog.asked_bind, Prog.asked_bind, eval_halfAt, eval_halfAt]
  by_cases hpin : half res (offset.toNat + (half res (offset.toNat + 14)).toNat) = 0xFFFF
  . rw [if_pos hpin]
    rfl
  . rw [if_neg hpin]
    rfl

theorem asked_parseACPISerialBus_of_ne (h : offset < sz) (hopcode : res offset.toNat = 0x8e)
    (hbus : res (index offset.toNat 5) ≠ 1) (hfound : p.foundI2C = false) :
    (parseACPISerialBus offset sz p).asked res
      = [offset.toNat, offset.toNat + 1, offset.toNat + 1 + 1, index offset.toNat 5] := by
  have hge : ¬ offset ≥ sz := by simpa using h
  have hbus : res (offset + 5).toNat ≠ 1 := hbus
  unfold parseACPISerialBus
  rw [if_neg (by simp [hfound]), if_neg hge, Prog.asked_bind, eval_byteAt,
    if_neg (not_not_intro hopcode), Prog.asked_bind, Prog.asked_bind, eval_byteAt, if_pos hbus]
  rfl

theorem asked_parseACPISerialBus (h : offset < sz) (hopcode : res offset.toNat = 0x8e)
    (hbus : res (index offset.toNat 5) = 1) (hfound : p.foundI2C = false) :
    (parseACPISerialBus offset sz p).asked res
      = [offset.toNat, offset.toNat + 1, offset.toNat + 1 + 1, index offset.toNat 5,
        index offset.toNat 6, offset.toNat + 7, offset.toNat + 7 + 1, offset.toNat + 12,
        offset.toNat + 12 + 1, offset.toNat + 12 + 2, offset.toNat + 12 + 3, offset.toNat + 16,
        offset.toNat + 16 + 1] := by
  have hge : ¬ offset ≥ sz := by simpa using h
  have hbus : res (offset + 5).toNat = 1 := hbus
  unfold parseACPISerialBus
  rw [if_neg (by simp [hfound]), if_neg hge, Prog.asked_bind, eval_byteAt,
    if_neg (not_not_intro hopcode), Prog.asked_bind, Prog.asked_bind, eval_byteAt,
    if_neg (not_not_intro hbus)]
  rfl

theorem asked_parseIf_gpio (h : offset < sz) :
    (∀ i ∈ (parseIf (res offset.toNat = 0x8c) (parseACPIGpio offset sz) p).asked res, i < sz.toNat)
      ↔ (res offset.toNat = 0x8c → p.foundGpioInterrupts = false →
        offset.toNat + 16 ≤ sz.toNat
          ∧ offset.toNat + (half res (offset.toNat + 14)).toNat + 2 ≤ sz.toNat) := by
  have hlt : offset.toNat < sz.toNat := h
  unfold parseIf
  by_cases hopcode : res offset.toNat = 0x8c
  . rw [if_pos (by simpa using hopcode)]
    cases hfound : p.foundGpioInterrupts with
    | true =>
      unfold parseACPIGpio
      rw [if_pos hfound]
      simp
    | false =>
      rw [asked_parseACPIGpio h hopcode hfound]
      have hindex : ∀ k, index offset.toNat k ≤ offset.toNat + k := index_le offset.toNat
      have h4 := hindex 4
      have h5 := hindex 5
      have h7 := hindex 7
      have h9 := hindex 9
      constructor
      . intro hall _ _
        have h15 := hall (offset.toNat + 14 + 1) (by simp)
        have hpin := hall (offset.toNat + (half res (offset.toNat + 14)).toNat + 1) (by simp)
        omega
      . intro hall i hi
        rcases hall hopcode rfl with ⟨hlen, hpin⟩
        simp only [List.mem_cons, List.not_mem_nil, or_false] at hi
        omega
  . rw [if_neg (by simpa using hopcode), Prog.asked_pure]
    constructor
    . intro _ h
      contradiction
    . intro _ i hi
      contradiction

theorem asked_parseIf_serialBus (h : offset < sz) :
    (∀ i ∈ (parseIf (res offset.toNat = 0x8e) (parseACPISerialBus offset sz) p).asked res,
        i < sz.toNat)
      ∧ offset.toNat + 3 ≤ sz.toNat
      ↔ (res offset.toNat = 0x8e → p.foundI2C = false →
        index offset.toNat 5 < sz.toNat
          ∧ (res (index offset.toNat 5) = 1 → offset.toNat + 18 ≤ sz.toNat))
      ∧ offset.toNat + 3 ≤ sz.toNat := by
  have hlt : offset.toNat < sz.toNat := h
  apply and_congr_left
  intro hlength
  unfold parseIf
  by_cases hopcode : res offset.toNat = 0x8e
  . rw [if_pos (by simpa using hopcode)]
    cases hfound : p.foundI2C with
    | true =>
      unfold parseACPISerialBus
      rw [if_pos hfound]
      simp
    | false =>
      have h6 := index_le offset.toNat 6
      by_cases hbus : res (index offset.toNat 5) = 1
      . rw [asked_parseACPISerialBus h hopcode hbus hfound]
        constructor
        . intro hall _ _
          have h5 := hall (index offset.toNat 5) (by simp)
          have h17 := hall (offset.toNat + 16 + 1) (by simp)
          exact ⟨h5, fun _ => by omega⟩
        . intro hall i hi
          rcases hall hopcode rfl with ⟨h5, hlen⟩
          have hlen := hlen hbus
          simp only [List.mem_cons, List.not_mem_nil, or_false] at hi
          omega
      . rw [asked_parseACPISerialBus_of_ne h hopcode hbus hfound]
        constructor
        . intro hall _ _
          have h5 := hall (index offset.toNat 5) (by simp)
          exact ⟨h5, fun h => absurd h hbus⟩
        . intro hall i hi
          rcases hall hopcode rfl with ⟨h5, -⟩
          simp only [List.mem_cons, List.not_mem_nil, or_false] at hi
          omega
  . rw [if_neg (by simpa using hopcode), Prog.asked_pure]
    constructor
    . intro _ h
      contradiction
    . intro _ i hi
      contradiction

theorem foundI2C_visitGpio (i : Nat) : (visitGpio res p i).foundI2C = p.foundI2C := by
  unfold visitGpio
  split
  . split
    . rfl
    . split <;> rfl
  . rfl

theorem asked_parseACPIResources_succ (h : offset < sz) :
    (parseACPIResources (depth + 1) offset sz p).asked res
      = [offset.toNat] ++ ([offset.toNat + 1, offset.toNat + 1 + 1]
        ++ ((parseIf (res offset.toNat = 0x8c) (parseACPIGpio offset sz) p).asked res
          ++ ((parseIf (res offset.toNat = 0x8e) (parseACPISerialBus offset sz)
              (visitGpio res p offset.toNat)).asked res
            ++ (parseACPIResources depth (next res offset) sz
              (visit res p offset.toNat)).asked res))) := by
  have hge : ¬ offset ≥ sz := by simpa using h
  rw [parseACPIResources, if_neg hge, Prog.asked_bind, Prog.asked_bind, Prog.asked_bind,
    Prog.asked_bind, eval_byteAt, eval_halfAt, eval_parseIf_gpio h, eval_parseIf_serialBus h]
  rfl

theorem within_and_asked (h : offset < sz) :
    (∀ i ∈ (parseACPIResources (depth + 1) offset sz p).asked res, i < sz.toNat)
      ↔ Within res sz p.foundI2C p.foundGpioInterrupts offset.toNat
        ∧ ∀ i ∈ (parseACPIResources depth (next res offset) sz (visit res p offset.toNat)).asked res,
          i < sz.toNat := by
  have hlt : offset.toNat < sz.toNat := h
  rw [asked_parseACPIResources_succ h, List.forall_mem_append, List.forall_mem_append,
    List.forall_mem_append, List.forall_mem_append, asked_parseIf_gpio h]
  have hserial := @asked_parseIf_serialBus res sz offset (visitGpio res p offset.toNat) h
  rw [foundI2C_visitGpio] at hserial
  constructor
  . intro ⟨hhead, hlen, hgpio, hbus, hrest⟩
    have hlength : offset.toNat + 3 ≤ sz.toNat := by
      have := hlen (offset.toNat + 1 + 1) (by simp)
      omega
    exact ⟨⟨hlength, hgpio, (hserial.mp ⟨hbus, hlength⟩).1⟩, hrest⟩
  . intro ⟨hwithin, hrest⟩
    have hlength := hwithin.length
    refine ⟨?_, ?_, hwithin.gpio, (hserial.mpr ⟨hwithin.serialBus, hlength⟩).1, hrest⟩
    . intro i hi
      simp only [List.mem_cons, List.not_mem_nil, or_false] at hi
      omega
    . intro i hi
      simp only [List.mem_cons, List.not_mem_nil, or_false] at hi
      omega

theorem forall_cons_eq_append {α : Type} {P : List α → α → Prop} {a : α} {l : List α} :
    (∀ before b after, a :: l = before ++ b :: after → P before b)
      ↔ P [] a ∧ ∀ before b after, l = before ++ b :: after → P (a :: before) b := by
  constructor
  . intro h
    refine ⟨h [] a l rfl, ?_⟩
    intro before b after heq
    apply h (a :: before) b after
    rw [heq, List.cons_append]
  . intro ⟨hnil, hcons⟩ before b after heq
    cases before with
    | nil =>
      injection heq with ha _
      rw [← ha]
      apply hnil
    | cons c before =>
      injection heq with ha heq
      rw [← ha]
      apply hcons before b after heq

theorem asked_parseACPIResources :
    (∀ i ∈ (parseACPIResources depth offset sz p).asked res, i < sz.toNat)
      ↔ ∀ before o after, walk res sz depth offset = before ++ o :: after →
        Within res sz (p.foundI2C || before.any (isI2C res))
          (p.foundGpioInterrupts || before.any (isGpioInt res)) o := by
  induction depth generalizing offset p with
  | zero =>
    constructor
    . intro _ before o after h
      simp [walk] at h
    . intro _ i hi
      contradiction
  | succ depth ih =>
    by_cases hlt : offset < sz
    . rw [within_and_asked hlt, walk_succ hlt, forall_cons_eq_append, ih]
      simp only [foundI2C_visit, foundGpioInterrupts_visit, List.any_nil, List.any_cons,
        Bool.or_false, Bool.or_assoc]
    . rw [walk_of_le (BitVec.not_lt.mp hlt), parseACPIResources, if_pos (by simpa using hlt)]
      constructor
      . intro _ before o after h
        simp at h
      . intro _ i hi
        contradiction

theorem parseACPIResources_reads (hp : p.Fresh) :
    (∀ depth, ∀ i ∈ (parseACPIResources depth 0 sz p).asked res, i < sz.toNat)
      ↔ ∀ depth before o after, walk res sz depth 0 = before ++ o :: after →
        Within res sz (before.any (isI2C res)) (before.any (isGpioInt res)) o := by
  apply forall_congr'
  intro depth
  rw [asked_parseACPIResources, hp.foundI2C, hp.foundGpioInterrupts]
  simp only [Bool.false_or]

end ACPIResourcesParser

open ACPIResourcesParser

theorem LargeDescriptor.Holds.within {d : LargeDescriptor} (hd : d.Holds) {szB : Word}
    (hsz : szB.toNat = d.bytes.length) (foundI2C foundGpioInterrupts : Bool) :
    Within d.byte szB foundI2C foundGpioInterrupts 0 where
  length := by
    rw [hsz, LargeDescriptor.length_bytes]
    omega
  gpio htag _ := by
    have hlen := hd.gpio htag
    have hpin := hd.pin htag
    rw [hsz, Nat.zero_add, Nat.zero_add, Nat.zero_add]
    exact ⟨hlen, hpin⟩
  serialBus htag _ := by
    have hlen := hd.serialBus htag
    have hindex : ACPIResourcesParser.index 0 5 = 5 := rfl
    rw [hsz, hindex]
    exact ⟨by omega, fun _ => by omega⟩

theorem LargeDescriptor.Holds.asked {d : LargeDescriptor} (hd : d.Holds) {sz : Word}
    (hsz : sz.toNat = d.bytes.length) (hlt : sz.toNat + 0x10002 ≤ 2 ^ 32)
    {p : ACPIResourcesParser} :
    ∀ depth, ∀ i ∈ (parseACPIResources depth 0 sz p).asked d.byte, i < sz.toNat := by
  intro depth
  rw [asked_parseACPIResources]
  intro before o after hwalk
  have hzero : (0 : Word).toNat = 0 := rfl
  have hpos : (0 : Word) < sz := by
    change (0 : Word).toNat < sz.toNat
    rw [hsz, LargeDescriptor.length_bytes]
    omega
  cases depth with
  | zero => simp [walk] at hwalk
  | succ depth =>
    have hnext : sz.toNat ≤ (next d.byte 0).toNat := by
      apply Nat.le_of_eq
      rw [toNat_next hpos hlt, hzero, Nat.zero_add, LargeDescriptor.half_length, hsz,
        LargeDescriptor.length_bytes]
    rw [walk_succ hpos, walk_of_le hnext] at hwalk
    cases before with
    | nil =>
      injection hwalk with ho _
      rw [← ho]
      apply hd.within hsz
    | cons c before => simp at hwalk

theorem parseACPIResources_reads_serialBus :
    (∀ depth, ∀ i ∈ (parseACPIResources depth 0 18 freshParser).asked serialBusDescriptor.byte,
        i < (18 : Word).toNat)
      ∧ ∀ depth before o after, walk serialBusDescriptor.byte 18 depth 0 = before ++ o :: after →
        Within serialBusDescriptor.byte 18 (before.any (isI2C serialBusDescriptor.byte))
          (before.any (isGpioInt serialBusDescriptor.byte)) o := by
  have hasked : ∀ depth, ∀ i ∈ (parseACPIResources depth 0 18 freshParser).asked
      serialBusDescriptor.byte, i < (18 : Word).toNat := by
    apply serialBusDescriptor_holds.asked
    . decide
    . decide
  exact ⟨hasked, (parseACPIResources_reads freshParser_fresh).mp hasked⟩

/-- The length of the End Tag is looked for after it. -/
theorem parseACPIResources_reads_endTag :
    ∃ i ∈ (parseACPIResources 1 0 2 freshParser).asked (memoryOf [0x79, 0x00]),
      ¬ i < (2 : Word).toNat :=
  ⟨2, by decide, by decide⟩

end VoodooI2C
