import VoodooI2C.Driver.Basic

/-!
This module contains `getBusConfig`: the timing values that the driver takes from the properties of
its personality and from ACPI or derives from the clock of the controller.
-/

namespace VoodooI2C

def kilo : Word := 1000
def micro : BitVec 64 := 1000000

def divRoundClosestULL (x divisor : BitVec 64) : BitVec 64 :=
  -- the divisor becomes a 32-bit number in `do_div`
  (x + divisor / 2) / (divisor.setWidth 32).setWidth 64

def sclCount (clk t tFall offset : Word) : Word :=
  -- the times are added in 32 bits, the product has 64 bits
  (divRoundClosestULL (clk.setWidth 64 * (t + tFall).setWidth 64) micro).setWidth 32 - offset

def vi2cSclHcnt (clk tHigh tFall : Word) : Word := sclCount clk tHigh tFall 3

def vi2cSclLcnt (clk tLow tFall : Word) : Word := sclCount clk tLow tFall 1

inductive NumProperty where
  | clk
  | sdaHoldNs
  | sdaHold
  | sdaFallNs
  | sclFallNs
  | ssHCnt
  | ssLCnt
  | fsHCnt
  | fsLCnt
  deriving DecidableEq, Repr

/-- The result of an ACPI method, an element of an array may be something else than a number. -/
inductive ACPIValue where
  | array (values : List (Option (BitVec 64)))
  | other

abbrev ACPIResult := IOReturn × Option ACPIValue

structure BusProvider where
  numProperty : NumProperty → Option (BitVec 64)
  maskQuirk : Option Bool
  compParam1 : Word
  compVersion : Word
  sdaHold : Word
  sscn : ACPIResult
  fmcn : ACPIResult

def ACPIValue.number (values : List (Option (BitVec 64))) (i : Nat) (old : Word) : Word :=
  match values[i]? with
  | some (some v) => v.setWidth 32
  | _ => old

def getACPIParams (result : ACPIResult) (hcnt lcnt : Word) (sdaHold : Option Word) :
    IOReturn × Word × Word × Option Word :=
  match result with
  | (.success, some (.array values)) =>
    (.success, ACPIValue.number values 0 hcnt, ACPIValue.number values 1 lcnt,
      -- there is no value for `sdaHold` if its pointer is `NULL`
      sdaHold.map (ACPIValue.number values 2))
  | _ => (.notFound, hcnt, lcnt, sdaHold)

def sdaHoldMinVers : Word := 0x3131312A
def sdaHoldRxShift : Nat := 16
def sdaHoldRxMask : Word := 0xFF0000

namespace BusProvider

variable (provider : BusProvider)

def getNumProperty (key : NumProperty) : Word :=
  match provider.numProperty key with
  | some v => v.setWidth 32
  | none => 0

def getBoolProperty : Bool :=
  match provider.maskQuirk with
  | some b => b
  | none => false

def clkKHz : Word := provider.getNumProperty .clk / kilo

def fallNs (key : NumProperty) : Word :=
  if provider.getNumProperty key = 0 then 300 else provider.getNumProperty key

def defaults : BusConfig where
  ssHcnt := provider.getNumProperty .ssHCnt
  fsHcnt := provider.getNumProperty .fsHCnt
  ssLcnt := provider.getNumProperty .ssLCnt
  fsLcnt := provider.getNumProperty .fsLCnt
  sdaHold := provider.getNumProperty .sdaHold

def sdaHoldOfNs : Word :=
  (divRoundClosestULL (provider.clkKHz.setWidth 64 * (provider.getNumProperty .sdaHoldNs).setWidth 64)
    micro).setWidth 32

def holdFromNs (c : BusConfig) : BusConfig :=
  if c.sdaHold = 0 then { c with sdaHold := provider.sdaHoldOfNs } else c

def acpiSs (c : BusConfig) : BusConfig :=
  let (_, hcnt, lcnt, _) := getACPIParams provider.sscn c.ssHcnt c.ssLcnt none
  { c with ssHcnt := hcnt, ssLcnt := lcnt }

def acpiFs (c : BusConfig) : BusConfig :=
  let (_, hcnt, lcnt, sdaHold) := getACPIParams provider.fmcn c.fsHcnt c.fsLcnt (some c.sdaHold)
  { c with fsHcnt := hcnt, fsLcnt := lcnt, sdaHold := sdaHold.getD c.sdaHold }

def deriveSs (c : BusConfig) : BusConfig :=
  if c.ssHcnt = 0 ∨ c.ssLcnt = 0 then
    { c with
      ssHcnt := vi2cSclHcnt provider.clkKHz 4000 (provider.fallNs .sdaFallNs)
      ssLcnt := vi2cSclLcnt provider.clkKHz 4700 (provider.fallNs .sclFallNs) }
  else
    c

def deriveFs (c : BusConfig) : BusConfig :=
  if c.fsHcnt = 0 ∨ c.fsLcnt = 0 then
    { c with
      fsHcnt := vi2cSclHcnt provider.clkKHz 600 (provider.fallNs .sdaFallNs)
      fsLcnt := vi2cSclLcnt provider.clkKHz 1300 (provider.fallNs .sclFallNs) }
  else
    c

def adjustSdaHold (c : BusConfig) : BusConfig :=
  if provider.compVersion ≥ sdaHoldMinVers then
    let c := if c.sdaHold = 0 then { c with sdaHold := provider.sdaHold } else c
    if c.sdaHold &&& sdaHoldRxMask = 0 then
      { c with sdaHold := c.sdaHold ||| (1 <<< sdaHoldRxShift) }
    else
      c
  else
    c

def filled : BusConfig := provider.acpiFs (provider.acpiSs (provider.holdFromNs provider.defaults))

def getBusConfig (d : BusDevice) : IOReturn × BusDevice :=
  let param := provider.compParam1
  let d :=
    { d with
      transactionFifoDepth := ((param >>> 16) &&& 0xff) + 1
      receiveFifoDepth := ((param >>> 8) &&& 0xff) + 1
      acpiConfig := ⟨0, 0, 0, 0, 0⟩ }
  if provider.clkKHz = 0 then
    (.error, d)
  else
    (.success,
      { d with
        accessIntrMaskWorkaround := provider.getBoolProperty
        acpiConfig := provider.adjustSdaHold (provider.deriveFs (provider.deriveSs provider.filled)) })

theorem adjustSdaHold_counts (c : BusConfig) :
    (provider.adjustSdaHold c).ssHcnt = c.ssHcnt ∧ (provider.adjustSdaHold c).ssLcnt = c.ssLcnt
      ∧ (provider.adjustSdaHold c).fsHcnt = c.fsHcnt
      ∧ (provider.adjustSdaHold c).fsLcnt = c.fsLcnt := by
  unfold adjustSdaHold
  split
  . dsimp only
    split
    . split <;> exact ⟨rfl, rfl, rfl, rfl⟩
    . split <;> exact ⟨rfl, rfl, rfl, rfl⟩
  . exact ⟨rfl, rfl, rfl, rfl⟩

theorem getBusConfig_success {d d' : BusDevice} (h : provider.getBusConfig d = (.success, d')) :
    provider.clkKHz ≠ 0
      ∧ d'.acpiConfig
        = provider.adjustSdaHold (provider.deriveFs (provider.deriveSs provider.filled)) := by
  unfold getBusConfig at h
  dsimp only at h
  split at h
  . injection h with hret
    contradiction
  . next hclk =>
    injection h with _ hd
    rw [← hd]
    exact ⟨hclk, rfl⟩

theorem deriveFs_ss (c : BusConfig) :
    (provider.deriveFs c).ssHcnt = c.ssHcnt ∧ (provider.deriveFs c).ssLcnt = c.ssLcnt := by
  unfold deriveFs
  split <;> exact ⟨rfl, rfl⟩

theorem deriveSs_fs (c : BusConfig) :
    (provider.deriveSs c).fsHcnt = c.fsHcnt ∧ (provider.deriveSs c).fsLcnt = c.fsLcnt := by
  unfold deriveSs
  split <;> exact ⟨rfl, rfl⟩

end BusProvider

end VoodooI2C
