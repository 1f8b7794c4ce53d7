import VoodooI2C.BusConfig.Basic
import Mathlib.Data.Rat.Floor
import Mathlib.Algebra.Order.Round
import Mathlib.Tactic.Ring
import Mathlib.Tactic.NormNum

/-!
This module contains the counts that `getBusConfig` derives compared with the same formula over the
rational numbers.
-/

namespace VoodooI2C

variable {clk t tFall offset : Word} {provider : BusProvider} {d d' : BusDevice}

theorem round_div_million (n : Nat) : round ((n : ℚ) / 10 ^ 6) = ((n + 500000) / 1000000 : Nat) := by
  have hhalf : (n : ℚ) / 10 ^ 6 + 1 / 2 = ((n + 500000 : Nat) : ℚ) / (1000000 : Nat) := by
    push_cast
    ring
  rw [round_eq, hhalf, Rat.floor_natCast_div_natCast, Int.natCast_ediv]

theorem toNat_divRoundClosestULL {x : BitVec 64} (h : x.toNat + 500000 < 2 ^ 64) :
    (divRoundClosestULL x micro).toNat = (x.toNat + 500000) / 1000000 := by
  have hhalf : (micro / 2).toNat = 500000 := by decide
  have hbase : ((micro.setWidth 32).setWidth 64).toNat = 1000000 := by decide
  unfold divRoundClosestULL
  rw [BitVec.toNat_udiv, BitVec.toNat_add, hhalf, hbase, Nat.mod_eq_of_lt h]

theorem toNat_product (a b : Word) :
    (a.setWidth 64 * b.setWidth 64).toNat = a.toNat * b.toNat
      ∧ a.toNat * b.toNat + 500000 < 2 ^ 64 := by
  have hle : a.toNat * b.toNat ≤ (2 ^ 32 - 1) * (2 ^ 32 - 1) := by
    apply Nat.mul_le_mul
    . have := a.isLt
      omega
    . have := b.isLt
      omega
  constructor
  . rw [BitVec.toNat_mul, BitVec.toNat_setWidth_of_le (by decide),
      BitVec.toNat_setWidth_of_le (by decide), Nat.mod_eq_of_lt (by omega)]
  . omega

theorem toNat_sclCount (clk t tFall offset : Word) :
    (sclCount clk t tFall offset).toNat
      = ((clk.toNat * ((t.toNat + tFall.toNat) % 2 ^ 32) + 500000) / 1000000 % 2 ^ 32
        + (2 ^ 32 - offset.toNat)) % 2 ^ 32 := by
  rcases toNat_product clk (t + tFall) with ⟨hproduct, hlt⟩
  unfold sclCount
  rw [BitVec.toNat_sub', BitVec.toNat_setWidth, toNat_divRoundClosestULL (by rw [hproduct]; exact hlt),
    hproduct, BitVec.toNat_add]

/--
The count is the nearest integer to `clk * (t + tFall) / 10 ^ 6` minus the offset.
-/
def CountExact (count clk t tFall offset : Word) : Prop :=
  (count.toNat : ℤ) = round ((clk.toNat * (t.toNat + tFall.toNat) : ℚ) / 10 ^ 6) - offset.toNat

/--
The formula is not negative, its result fits and the sum of the times does, unless the clock is one
for which this does not matter.
-/
structure CountFits (clk t tFall offset : Word) : Prop where
  nonneg : offset.toNat * 1000000 ≤ clk.toNat * (t.toNat + tFall.toNat) + 500000
  fits : clk.toNat * (t.toNat + tFall.toNat) + 500000 < (2 ^ 32 + offset.toNat) * 1000000
  sum : t.toNat + tFall.toNat < 2 ^ 32 ∨ clk.toNat = 1000000

theorem countExact_iff (hclk : clk.toNat ≠ 0) (hle : clk.toNat ≤ 4294967) (ht : t.toNat ≤ 4700)
    (hoffset : offset.toNat ≤ 3) :
    CountExact (sclCount clk t tFall offset) clk t tFall offset ↔ CountFits clk t tFall offset := by
  have hcast : (clk.toNat * (t.toNat + tFall.toNat) : ℚ)
      = ((clk.toNat * (t.toNat + tFall.toNat) : Nat) : ℚ) := by
    push_cast
    rfl
  have hfits : CountFits clk t tFall offset
      ↔ offset.toNat * 1000000 ≤ clk.toNat * (t.toNat + tFall.toNat) + 500000
        ∧ clk.toNat * (t.toNat + tFall.toNat) + 500000 < (2 ^ 32 + offset.toNat) * 1000000
        ∧ (t.toNat + tFall.toNat < 2 ^ 32 ∨ clk.toNat = 1000000) :=
    ⟨fun h => ⟨h.nonneg, h.fits, h.sum⟩, fun h => ⟨h.1, h.2.1, h.2.2⟩⟩
  unfold CountExact
  rw [hcast, round_div_million, toNat_sclCount, hfits]
  have hfall := tFall.isLt
  generalize clk.toNat = c at *
  generalize offset.toNat = o at *
  generalize hsum : t.toNat + tFall.toNat = sum at *
  rcases Nat.lt_or_ge sum (2 ^ 32) with hlt | hge
  . rw [Nat.mod_eq_of_lt hlt]
    generalize c * sum = product
    omega
  . obtain ⟨rest, rfl⟩ := Nat.exists_eq_add_of_le hge
    have hmod : (2 ^ 32 + rest) % 2 ^ 32 = rest := by omega
    have hproduct : c * rest ≤ c * 4700 := by
      apply Nat.mul_le_mul_left
      omega
    rw [hmod, Nat.mul_add]
    by_cases hmillion : c = 1000000
    . subst hmillion
      omega
    . generalize c * rest = product at *
      omega

namespace BusProvider

variable (provider)

def DerivesSs : Prop := provider.filled.ssHcnt = 0 ∨ provider.filled.ssLcnt = 0

def DerivesFs : Prop := provider.filled.fsHcnt = 0 ∨ provider.filled.fsLcnt = 0

def DerivesHold : Prop := provider.getNumProperty .sdaHold = 0

structure TimingExact (c : BusConfig) : Prop where
  ss : provider.DerivesSs →
    CountExact c.ssHcnt provider.clkKHz 4000 (provider.fallNs .sdaFallNs) 3
      ∧ CountExact c.ssLcnt provider.clkKHz 4700 (provider.fallNs .sclFallNs) 1
  fs : provider.DerivesFs →
    CountExact c.fsHcnt provider.clkKHz 600 (provider.fallNs .sdaFallNs) 3
      ∧ CountExact c.fsLcnt provider.clkKHz 1300 (provider.fallNs .sclFallNs) 1
  hold : provider.DerivesHold →
    (provider.holdFromNs provider.defaults).sdaHold < 0x10000
      ∧ (provider.holdFromNs provider.defaults).sdaHold &&& sdaHoldRxMask = 0

structure TimingFits : Prop where
  ss : provider.DerivesSs →
    CountFits provider.clkKHz 4000 (provider.fallNs .sdaFallNs) 3
      ∧ CountFits provider.clkKHz 4700 (provider.fallNs .sclFallNs) 1
  fs : provider.DerivesFs →
    CountFits provider.clkKHz 600 (provider.fallNs .sdaFallNs) 3
      ∧ CountFits provider.clkKHz 1300 (provider.fallNs .sclFallNs) 1
  hold : provider.DerivesHold →
    (provider.clkKHz.toNat * (provider.getNumProperty .sdaHoldNs).toNat + 500000) / 1000000 % 2 ^ 32
      < 0x10000

variable {provider}

theorem toNat_sdaHoldOfNs :
    provider.sdaHoldOfNs.toNat
      = (provider.clkKHz.toNat * (provider.getNumProperty .sdaHoldNs).toNat + 500000) / 1000000
        % 2 ^ 32 := by
  rcases toNat_product provider.clkKHz (provider.getNumProperty .sdaHoldNs) with ⟨hproduct, hlt⟩
  unfold sdaHoldOfNs
  rw [BitVec.toNat_setWidth, toNat_divRoundClosestULL (by rw [hproduct]; exact hlt), hproduct]

theorem and_sdaHoldRxMask {v : Word} (h : v < 0x10000) : v &&& sdaHoldRxMask = 0 := by
  have hlt : v.toNat < 2 ^ 16 := h
  apply BitVec.eq_of_getLsbD_eq
  intro i hi
  have hzero : (0 : Word).getLsbD i = false := BitVec.getLsbD_zero
  rw [BitVec.getLsbD_and, hzero, Bool.and_eq_false_iff]
  rcases Nat.lt_or_ge i 16 with hlow | hhigh
  . right
    have hbits : ∀ i < 16, sdaHoldRxMask.getLsbD i = false := by decide
    apply hbits i hlow
  . left
    apply Nat.testBit_lt_two_pow
    apply Nat.lt_of_lt_of_le hlt
    apply Nat.pow_le_pow_right (by decide) hhigh

theorem ss_of_derives (hderives : provider.DerivesSs)
    (h : provider.getBusConfig d = (.success, d')) :
    d'.acpiConfig.ssHcnt = sclCount provider.clkKHz 4000 (provider.fallNs .sdaFallNs) 3
      ∧ d'.acpiConfig.ssLcnt = sclCount provider.clkKHz 4700 (provider.fallNs .sclFallNs) 1 := by
  rcases provider.getBusConfig_success h with ⟨_, hconfig⟩
  rcases provider.adjustSdaHold_counts (provider.deriveFs (provider.deriveSs provider.filled))
    with ⟨hhcnt, hlcnt, _, _⟩
  rcases provider.deriveFs_ss (provider.deriveSs provider.filled) with ⟨hhcnt', hlcnt'⟩
  rw [hconfig, hhcnt, hlcnt, hhcnt', hlcnt']
  unfold DerivesSs at hderives
  unfold deriveSs
  rw [if_pos hderives]
  exact ⟨rfl, rfl⟩

theorem fs_of_derives (hderives : provider.DerivesFs)
    (h : provider.getBusConfig d = (.success, d')) :
    d'.acpiConfig.fsHcnt = sclCount provider.clkKHz 600 (provider.fallNs .sdaFallNs) 3
      ∧ d'.acpiConfig.fsLcnt = sclCount provider.clkKHz 1300 (provider.fallNs .sclFallNs) 1 := by
  rcases provider.getBusConfig_success h with ⟨_, hconfig⟩
  rcases provider.adjustSdaHold_counts (provider.deriveFs (provider.deriveSs provider.filled))
    with ⟨_, _, hhcnt, hlcnt⟩
  rcases provider.deriveSs_fs provider.filled with ⟨hhcnt', hlcnt'⟩
  rw [hconfig, hhcnt, hlcnt]
  unfold DerivesFs at hderives
  unfold deriveFs
  rw [hhcnt', hlcnt', if_pos hderives]
  exact ⟨rfl, rfl⟩

/--
The timing values are what the formulas say exactly if these do not leave 32 bits, nor the hold time
16 bits.
-/
theorem getBusConfig_timing (h : provider.getBusConfig d = (.success, d')) :
    provider.TimingExact d'.acpiConfig ↔ provider.TimingFits := by
  have hclk : provider.clkKHz.toNat ≠ 0 := by
    intro hzero
    apply (provider.getBusConfig_success h).1
    apply BitVec.eq_of_toNat_eq hzero
  have hle : provider.clkKHz.toNat ≤ 4294967 := by
    have hdiv : provider.clkKHz.toNat = (provider.getNumProperty .clk).toNat / 1000 :=
      BitVec.toNat_udiv
    have := (provider.getNumProperty .clk).isLt
    omega
  have hcount : ∀ (t tFall offset : Word), t.toNat ≤ 4700 → offset.toNat ≤ 3 →
      (CountExact (sclCount provider.clkKHz t tFall offset) provider.clkKHz t tFall offset
        ↔ CountFits provider.clkKHz t tFall offset) :=
    fun t tFall offset => countExact_iff hclk hle
  have hss : provider.DerivesSs →
      (CountExact d'.acpiConfig.ssHcnt provider.clkKHz 4000 (provider.fallNs .sdaFallNs) 3
        ∧ CountExact d'.acpiConfig.ssLcnt provider.clkKHz 4700 (provider.fallNs .sclFallNs) 1
        ↔ CountFits provider.clkKHz 4000 (provider.fallNs .sdaFallNs) 3
          ∧ CountFits provider.clkKHz 4700 (provider.fallNs .sclFallNs) 1) := by
    intro hderives
    rcases ss_of_derives hderives h with ⟨hhcnt, hlcnt⟩
    rw [hhcnt, hlcnt, hcount _ _ _ (by decide) (by decide), hcount _ _ _ (by decide) (by decide)]
  have hfs : provider.DerivesFs →
      (CountExact d'.acpiConfig.fsHcnt provider.clkKHz 600 (provider.fallNs .sdaFallNs) 3
        ∧ CountExact d'.acpiConfig.fsLcnt provider.clkKHz 1300 (provider.fallNs .sclFallNs) 1
        ↔ CountFits provider.clkKHz 600 (provider.fallNs .sdaFallNs) 3
          ∧ CountFits provider.clkKHz 1300 (provider.fallNs .sclFallNs) 1) := by
    intro hderives
    rcases fs_of_derives hderives h with ⟨hhcnt, hlcnt⟩
    rw [hhcnt, hlcnt, hcount _ _ _ (by decide) (by decide), hcount _ _ _ (by decide) (by decide)]
  have hhold : provider.DerivesHold →
      ((provider.holdFromNs provider.defaults).sdaHold < 0x10000
        ↔ (provider.clkKHz.toNat * (provider.getNumProperty .sdaHoldNs).toNat + 500000) / 1000000
          % 2 ^ 32 < 0x10000) := by
    intro hderives
    have hzero : provider.defaults.sdaHold = 0 := hderives
    unfold holdFromNs
    rw [if_pos hzero, ← toNat_sdaHoldOfNs]
    rfl
  constructor
  . intro hexact
    exact
      { ss := fun hderives => (hss hderives).mp (hexact.ss hderives)
        fs := fun hderives => (hfs hderives).mp (hexact.fs hderives)
        hold := fun hderives => (hhold hderives).mp (hexact.hold hderives).1 }
  . intro hfits
    exact
      { ss := fun hderives => (hss hderives).mpr (hfits.ss hderives)
        fs := fun hderives => (hfs hderives).mpr (hfits.fs hderives)
        hold := fun hderives =>
          have hlt := (hhold hderives).mpr (hfits.hold hderives)
          ⟨hlt, and_sdaHoldRxMask hlt⟩ }

/-! A controller without count properties and without ACPI methods. -/

def bareProvider (rate sdaHoldNs : BitVec 64) : BusProvider where
  numProperty
    | .clk => some rate
    | .sdaHoldNs => some sdaHoldNs
    | _ => none
  maskQuirk := none
  compParam1 := 0x3F3F00
  compVersion := 0x3132322A
  sdaHold := 1
  sscn := (.notFound, none)
  fmcn := (.notFound, none)

def bareDevice (acpiConfig : BusConfig) : BusDevice where
  abortSource := 0
  acpiConfig := acpiConfig
  awake := true
  busConfig := 0
  commandError := 0
  messages := 0
  messageError := 0
  messageNumber := 0
  messageReadIndex := 0
  messageWriteIndex := 0
  receiveBufferLength := 0
  receiveBuffer := 0
  receiveFifoDepth := 64
  receiveOutstanding := 0
  status := 0
  transactionBufferLength := 0
  transactionBuffer := 0
  transactionFifoDepth := 64
  accessIntrMaskWorkaround := false
  isInterruptRegistered := false

theorem getBusConfig_timing_fast :
    (bareProvider 133000000 300).getBusConfig (bareDevice ⟨0, 0, 0, 0, 0⟩)
        = (.success, bareDevice ⟨569, 117, 664, 212, 65576⟩)
      ∧ (bareProvider 133000000 300).TimingExact ⟨569, 117, 664, 212, 65576⟩ := by
  have h : (bareProvider 133000000 300).getBusConfig (bareDevice ⟨0, 0, 0, 0, 0⟩)
      = (.success, bareDevice ⟨569, 117, 664, 212, 65576⟩) := by
    decide +kernel
  refine ⟨h, ?_⟩
  apply (getBusConfig_timing h).mpr
  constructor
  . intro _
    constructor <;> constructor <;> decide +kernel
  . intro _
    constructor <;> constructor <;> decide +kernel
  . intro _
    decide +kernel

theorem getBusConfig_not_timing :
    (∃ d', (bareProvider 100000 300).getBusConfig (bareDevice ⟨0, 0, 0, 0, 0⟩) = (.success, d')
      ∧ ¬ (bareProvider 100000 300).TimingExact d'.acpiConfig)
      ∧
    ∃ d', (bareProvider 133000000 1000000).getBusConfig (bareDevice ⟨0, 0, 0, 0, 0⟩) = (.success, d')
      ∧ ¬ (bareProvider 133000000 1000000).TimingExact d'.acpiConfig := by
  constructor
  . refine ⟨bareDevice ⟨0xFFFFFFFD, 0xFFFFFFFD, 0, 0xFFFFFFFF, 0x10001⟩, by decide +kernel, ?_⟩
    intro hexact
    have hderives : (bareProvider 100000 300).DerivesSs := .inl (by decide +kernel)
    have hcount := (hexact.ss hderives).1
    have hvalue : (0xFFFFFFFD : Word) = sclCount (bareProvider 100000 300).clkKHz 4000
        ((bareProvider 100000 300).fallNs .sdaFallNs) 3 := by
      decide +kernel
    change CountExact 0xFFFFFFFD _ _ _ _ at hcount
    rw [hvalue] at hcount
    have hfits : CountFits (bareProvider 100000 300).clkKHz 4000
        ((bareProvider 100000 300).fallNs .sdaFallNs) 3 := by
      apply (countExact_iff (by decide +kernel) (by decide +kernel) (by decide) (by decide)).mp hcount
    have hnonneg := hfits.nonneg
    revert hnonneg
    decide +kernel
  . refine ⟨bareDevice ⟨569, 117, 664, 212, 133000⟩, by decide +kernel, ?_⟩
    intro hexact
    have hderives : (bareProvider 133000000 1000000).DerivesHold := by
      unfold DerivesHold
      decide +kernel
    have hhold := (hexact.hold hderives).1
    revert hhold
    decide +kernel

end BusProvider

end VoodooI2C
