import VoodooI2C.Nub.Address

/-!
This module contains the pin and the interrupt type that the nub keeps for `setInterruptTypeForPin`,
compared with the trigger mode, the polarity and the pin that the firmware declares.
-/

namespace VoodooI2C

open Interaction ACPIResourcesParser

inductive TriggerMode where
  | level
  | edge
  deriving DecidableEq, Repr

inductive Polarity where
  | activeHigh
  | activeLow
  | activeBoth
  deriving DecidableEq, Repr

/-! The encoding of both in the flags of a GPIO interrupt descriptor. -/

def TriggerMode.bits : TriggerMode → Byte
  | .level => 0
  | .edge => 1

def Polarity.bits : Polarity → Byte
  | .activeHigh => 0
  | .activeLow => 1
  | .activeBoth => 2

/--
The interrupt type that means the same, a level is not active both ways.
-/
def sameIrqType (mode : TriggerMode) (polarity : Polarity) : Option Word :=
  match mode, polarity with
  | .level, .activeHigh => some irqTypeLevelHigh
  | .level, .activeLow => some irqTypeLevelLow
  | .level, .activeBoth => none
  | .edge, .activeHigh => some irqTypeEdgeRising
  | .edge, .activeLow => some irqTypeEdgeFalling
  | .edge, .activeBoth => some irqTypeEdgeBoth

/--
The parser takes the one edge for the other.
-/
def Inverted (mode : TriggerMode) (polarity : Polarity) : Prop :=
  mode = .edge ∧ polarity ≠ .activeBoth

theorem irqType_iff {mode : TriggerMode} {polarity : Polarity} {irq : Word}
    (h : sameIrqType mode polarity = some irq) :
    irqType (mode.bits = 0) polarity.bits = irq ↔ ¬ Inverted mode polarity := by
  unfold Inverted
  cases mode with
  | level =>
    cases polarity with
    | activeBoth => contradiction
    | activeHigh | activeLow =>
      injection h with h
      subst h
      decide
  | edge =>
    cases polarity with
    | activeHigh | activeLow | activeBoth =>
      injection h with h
      subst h
      decide

structure LargeDescriptor.Declares (d : LargeDescriptor) (mode : TriggerMode) (polarity : Polarity)
    (pin : BitVec 16) : Prop where
  mode : d.byte 7 &&& 1 = mode.bits
  polarity : (d.byte 7 >>> 1) &&& 3 = polarity.bits
  pin : pinAt d.byte 0 = pin

/--
The resources are large descriptors and the End Tag, and the first GPIO interrupt with a valid pin
has this mode, polarity and pin.
-/
def OSData.Declares (data : OSData) (mode : TriggerMode) (polarity : Polarity)
    (pin : BitVec 16) : Prop :=
  ∃ (ds : List LargeDescriptor) (checksum : Byte) (d : LargeDescriptor),
    (∀ d ∈ ds, d.Holds)
      ∧ HoldsAt data.bytes 0 (templateBytes (ds.map .large) checksum)
      ∧ (templateBytes (ds.map .large) checksum).length = data.length.toNat
      ∧ Descriptor.first isGpioInt (ds.map .large) = some d
      ∧ d.Declares mode polarity pin

variable {res : Nat → Byte} {sz offset : Word} {p q : ACPIResourcesParser} {depth i : Nat}
  {d : LargeDescriptor} {ds : List LargeDescriptor} {checksum : Byte} {mode : TriggerMode}
  {polarity : Polarity} {pin : BitVec 16} {irq : Word} {data : OSData}

theorem HoldsAt.next (h : HoldsAt res offset.toNat d.bytes)
    (hlt : offset.toNat + d.bytes.length < 2 ^ 32) :
    (next res offset).toNat = offset.toNat + d.bytes.length := by
  have hhalf : ACPIResourcesParser.half res (offset.toNat + 1) = ACPIResourcesParser.half d.byte 1 := by
    apply h.half
    simp
  have hthree : (3 : Word).toNat = 3 := rfl
  have hhalf_lt := (ACPIResourcesParser.half d.byte 1).isLt
  rw [LargeDescriptor.length_bytes] at hlt ⊢
  rw [← LargeDescriptor.half_length] at hlt ⊢
  unfold ACPIResourcesParser.next
  rw [hhalf, BitVec.toNat_add, BitVec.toNat_add, BitVec.toNat_setWidth_of_le (by omega), hthree]
  omega

theorem find_walk_of_eval {X : (Nat → Byte) → Nat → Bool} (hX : Local X) (hd : ∀ d ∈ ds, d.Holds)
    (hres : HoldsAt res offset.toNat (templateBytes (ds.map .large) checksum))
    (hlength : offset.toNat + (templateBytes (ds.map .large) checksum).length = sz.toNat)
    (hfirst : Descriptor.first X (ds.map .large) = some d)
    (heval : (parseACPIResources depth offset sz p).eval res = some q) :
    ∃ i, (walk res sz depth offset).find? (X res) = some i
      ∧ HoldsAt res i d.bytes
      ∧ i + d.bytes.length ≤ sz.toNat := by
  induction ds generalizing offset depth p with
  | nil => contradiction
  | cons d' ds ih =>
    rw [List.map_cons, templateBytes_cons] at hres hlength
    have hbytes : (Descriptor.large d').bytes = d'.bytes := rfl
    rw [hbytes] at hres hlength
    rw [List.length_append] at hlength
    have hlen : d'.bytes.length = d'.body.length + 3 := LargeDescriptor.length_bytes
    have hlt : offset < sz := by
      change offset.toNat < sz.toNat
      omega
    cases depth with
    | zero => contradiction
    | succ depth =>
      have hsz := sz.isLt
      have hXd := hX.large res offset.toNat d' (hd d' List.mem_cons_self) hres.left (by omega)
      rw [eval_parseACPIResources_succ hlt] at heval
      rw [walk_succ hlt, List.find?_cons, hXd]
      rw [List.map_cons, Descriptor.first] at hfirst
      split at hfirst
      . next hfound =>
        injection hfirst with hfirst
        subst hfirst
        rw [hfound]
        refine ⟨offset.toNat, rfl, hres.left, ?_⟩
        omega
      . next hfound =>
        rw [Bool.not_eq_true] at hfound
        rw [hfound]
        have hnext := hres.left.next (by omega)
        apply ih
        . intro d'' hmem
          apply hd d'' (List.mem_cons_of_mem _ hmem)
        . rw [hnext]
          apply hres.right
        . rw [hnext]
          omega
        . apply hfirst
        . apply heval

theorem HoldsAt.gpioInt (h : HoldsAt res i d.bytes) (hd : d.Holds) (hX : isGpioInt d.byte 0 = true)
    (hle : i + d.bytes.length ≤ 2 ^ 32) (hdeclares : d.Declares mode polarity pin) :
    (gpioIntAt res i).pinNumber = pin
      ∧ (gpioIntAt res i).irqType = irqType (mode.bits = 0) polarity.bits := by
  unfold isGpioInt isGpio at hX
  simp only [decide_eq_true_eq] at hX
  have htag : d.tag = 0x8c := hX.1.1
  have hlength := hd.gpio htag
  have hflags : res (ACPIResourcesParser.index i 7) = d.byte 7 := by
    rw [h.index hle (by omega), index_zero (by omega)]
  unfold gpioIntAt
  dsimp only
  constructor
  . rw [h.pinAt hd htag, hdeclares.pin]
  . rw [hflags, hdeclares.mode, hdeclares.polarity]

theorem OSData.Declares.eval (h : data.Declares mode polarity pin) (hp : p.Fresh)
    (heval : (parseACPIResources depth 0 data.length p).eval data.bytes = some q) :
    q.foundGpioInterrupts = true
      ∧ q.gpioInterrupts.pinNumber = pin
      ∧ q.gpioInterrupts.irqType = irqType (mode.bits = 0) polarity.bits := by
  rcases h with ⟨ds, checksum, d, hd, hres, hlength, hfirst, hdeclares⟩
  have hlength' : (0 : Word).toNat + (templateBytes (ds.map .large) checksum).length
      = data.length.toNat := by
    rw [← hlength]
    apply Nat.zero_add
  rcases find_walk_of_eval local_isGpioInt hd hres hlength' hfirst heval with ⟨i, hfind, hheld, hle⟩
  rcases Descriptor.first_mem hfirst with ⟨hmem, hX⟩
  have hholds : d.Holds := by
    rcases List.mem_map.mp hmem with ⟨d', hmem', heq⟩
    injection heq with heq
    subst heq
    apply hd d' hmem'
  have hlt := data.length.isLt
  rw [eval_parseACPIResources heval, gpioInterrupts_foldl hp.foundGpioInterrupts hfind,
    foundGpioInterrupts_foldl, hp.foundGpioInterrupts, Bool.false_or]
  refine ⟨?_, hheld.gpioInt hholds hX (by omega) hdeclares⟩
  rw [List.any_eq_true]
  exact ⟨i, List.mem_of_find?_eq_some hfind, List.find?_some hfind⟩

/-! What the nub keeps. -/

namespace ACPIDevice

variable (device : ACPIDevice) (depth : Nat)

def used : Option OSData :=
  if (device.crsData.bind (·.serialBus depth)).isNone
      ∨ (device.dsmData.bind (·.serialBus depth)).isSome ∧ device.dsmData.any (·.hasGpioInt depth) then
    device.dsmData
  else
    device.crsData

end ACPIDevice

theorem exists_of_parseResources {result : Except IOReturn OSObject} {ret : IOReturn}
    (hp : p.Fresh) (h : ACPIDevice.parseResources depth result p = some (ret, q))
    (hfound : q.foundGpioInterrupts = true) :
    ∃ data, resultData result = some data
      ∧ (parseACPIResources depth 0 data.length p).eval data.bytes = some q := by
  unfold ACPIDevice.parseResources at h
  split at h
  . simp only [Option.some.injEq, Prod.mk.injEq] at h
    rw [← h.2, hp.foundGpioInterrupts] at hfound
    contradiction
  . simp only [Option.some.injEq, Prod.mk.injEq] at h
    rw [← h.2, hp.foundGpioInterrupts] at hfound
    contradiction
  . next data =>
    split at h
    . contradiction
    . next q' hq =>
      simp only [Option.some.injEq, Prod.mk.injEq] at h
      rw [← h.2]
      exact ⟨data, rfl, hq⟩

namespace ACPIDevice

variable {device : ACPIDevice} {crsParser dsmParser : ACPIResourcesParser} {forcePolling : Bool}
  {nub₀ nub : DeviceNub} {ret : IOReturn}

theorem use_gpio {resourceParser : ACPIResourcesParser} (h₀ : nub₀.hasGpioInterrupts = false)
    (h : getDeviceResources.use device forcePolling nub₀ resourceParser = (ret, nub))
    (hnub : nub.hasGpioInterrupts = true) :
    resourceParser.foundGpioInterrupts = true
      ∧ nub.gpioPin = resourceParser.gpioInterrupts.pinNumber
      ∧ nub.gpioIrq = resourceParser.gpioInterrupts.irqType := by
  have hvalidate : ∀ nub, (device.validateAPICInterrupt nub).2.hasGpioInterrupts
      = nub.hasGpioInterrupts := by
    intro nub
    unfold validateAPICInterrupt
    split
    . split <;> rfl
    . rfl
  have hnub' := congrArg Prod.snd h
  rw [← show _ = nub from hnub'] at hnub ⊢
  unfold getDeviceResources.use at hnub ⊢
  dsimp only at hnub ⊢
  split
  . next hapic =>
    rw [if_pos hapic, hvalidate, h₀] at hnub
    contradiction
  . next hapic =>
    rw [if_neg hapic] at hnub
    split
    . next hpolling =>
      rw [if_pos hpolling, hvalidate, h₀] at hnub
      contradiction
    . next hpolling =>
      rw [if_neg hpolling] at hnub
      split
      . next hfound => exact ⟨hfound, rfl, rfl⟩
      . next hfound =>
        rw [if_neg hfound, hvalidate, h₀] at hnub
        contradiction

theorem getDeviceResources_gpio (hcrs : crsParser.Fresh) (hdsm : dsmParser.Fresh)
    (h₀ : nub₀.hasGpioInterrupts = false)
    (h : device.getDeviceResources depth crsParser dsmParser forcePolling nub₀ = some (ret, nub))
    (hnub : nub.hasGpioInterrupts = true) :
    ∃ data p q, p.Fresh ∧ device.used depth = some data
      ∧ (parseACPIResources depth 0 data.length p).eval data.bytes = some q
      ∧ nub.gpioPin = q.gpioInterrupts.pinNumber
      ∧ nub.gpioIrq = q.gpioInterrupts.irqType := by
  unfold getDeviceResources at h
  rcases hparse : device.parseResourcesCRS depth crsParser with _ | ⟨_, crs⟩
  . simp [hparse] at h
  . rcases hparse' : device.parseResourcesDSM depth dsmParser with _ | ⟨_, dsm⟩
    . simp [hparse, hparse'] at h
    . have hcrs' : Parsed depth device.crsData crs := parsed_parseResources hcrs hparse
      have hdsm' : Parsed depth device.dsmData dsm := parsed_parseResources hdsm hparse'
      have hcrsFound := hcrs'.found
      have hdsmFound := hdsm'.found
      have hgpio := hdsm'.gpio
      simp only [hparse, hparse', Option.bind_eq_bind, Option.bind_some] at h
      split at h
      . simp only [Option.pure_def, Option.some.injEq, Prod.mk.injEq] at h
        rw [← h.2, h₀] at hnub
        contradiction
      . simp only [Option.pure_def, Option.some.injEq] at h
        unfold getDeviceResources.select at h
        unfold used
        have hiff : ((device.crsData.bind (·.serialBus depth)).isNone
            ∨ (device.dsmData.bind (·.serialBus depth)).isSome
              ∧ device.dsmData.any (·.hasGpioInt depth) = true)
            ↔ (¬ crs.foundI2C = true ∨ dsm.foundI2C = true ∧ dsm.foundGpioInterrupts = true) := by
          rw [hcrsFound, hdsmFound, hgpio]
          simp
        split at h
        . next hprefer =>
          rw [if_pos (hiff.mpr hprefer)]
          rcases use_gpio h₀ h hnub with ⟨hfound, hpin, hirq⟩
          rcases exists_of_parseResources hdsm hparse' hfound with ⟨data, hdata, heval⟩
          exact ⟨data, dsmParser, dsm, hdsm, hdata, heval, hpin, hirq⟩
        . next hprefer =>
          rw [if_neg (mt hiff.mp hprefer)]
          rcases use_gpio h₀ h hnub with ⟨hfound, hpin, hirq⟩
          rcases exists_of_parseResources hcrs hparse hfound with ⟨data, hdata, heval⟩
          exact ⟨data, crsParser, crs, hcrs, hdata, heval, hpin, hirq⟩

end ACPIDevice

/--
What the parser yields and what the nub keeps if it uses a GPIO interrupt that these resources
declare.
-/
theorem parseACPIResources_irqType (hdata : data.Declares mode polarity pin)
    (hirq : sameIrqType mode polarity = some irq) :
    (∀ p : ACPIResourcesParser, p.Fresh →
      (data.length.toNat + 0x10002 ≤ 2 ^ 32 → ∀ depth, data.length.toNat < depth →
        ((parseACPIResources depth 0 data.length p).eval data.bytes).isSome)
        ∧
      ∀ depth q, (parseACPIResources depth 0 data.length p).eval data.bytes = some q →
        (q.foundGpioInterrupts = true
            ∧ q.gpioInterrupts.pinNumber = pin
            ∧ q.gpioInterrupts.irqType = irq
          ↔ ¬ Inverted mode polarity))
      ∧
    ∀ (device : ACPIDevice) (depth : Nat) (crsParser dsmParser : ACPIResourcesParser)
      (forcePolling : Bool) (nub₀ nub : DeviceNub) (ret : IOReturn),
      crsParser.Fresh → dsmParser.Fresh → nub₀.hasGpioInterrupts = false →
      device.used depth = some data →
      device.getDeviceResources depth crsParser dsmParser forcePolling nub₀ = some (ret, nub) →
      nub.hasGpioInterrupts = true →
      (nub.gpioPin = pin ∧ nub.gpioIrq = irq ↔ ¬ Inverted mode polarity) := by
  constructor
  . intro p hp
    constructor
    . intro hsz depth hdepth
      rw [parseACPIResources_of_lt hsz hdepth]
      rfl
    . intro depth q heval
      rcases hdata.eval hp heval with ⟨hfound, hpin, hq⟩
      rw [hq, irqType_iff hirq]
      simp [hfound, hpin]
  . intro device depth crsParser dsmParser forcePolling nub₀ nub ret hcrs hdsm h₀ hused hget hnub
    rcases ACPIDevice.getDeviceResources_gpio hcrs hdsm h₀ hget hnub
      with ⟨data', p, q, hp, hused', heval, hpin, hirq'⟩
    have hsame := Option.some.inj (hused.symm.trans hused')
    subst hsame
    rcases hdata.eval hp heval with ⟨_, hq, hq'⟩
    rw [hpin, hirq', hq, hq', irqType_iff hirq]
    simp

/-! A serial bus descriptor and a GPIO interrupt for the pin `0x55`. -/

theorem gpioTag_large : (0x8c : Byte) &&& 0x80 ≠ 0 := by decide

def gpioDescriptor (flags : Byte) : LargeDescriptor where
  tag := 0x8c
  body := [1, 0, 0, 0, flags, 0, 0, 0, 0, 0, 0, 0x17, 0, 0, 0x19, 0, 0x19, 0, 0, 0, 0x55, 0]
  tag_large := gpioTag_large
  length_lt := by simp

def gpioDescriptors (flags : Byte) : List LargeDescriptor := [serialBusDescriptor, gpioDescriptor flags]

def gpioData (flags : Byte) : OSData where
  bytes := memoryOf (templateBytes ((gpioDescriptors flags).map .large) 0)
  length := 45

def gpioDevice (flags : Byte) : ACPIDevice where
  evaluateObject
    | .crs => .ok (.data (gpioData flags))
    | _ => .error .notFound
  interruptPin := none

theorem half_gpioDescriptor (flags : Byte) : (half (gpioDescriptor flags).byte 14).toNat = 0x17 := by
  have hhalf : half (gpioDescriptor flags).byte 14 = (0 : Byte) ++ (0x17 : Byte) := rfl
  rw [hhalf]
  decide

theorem pinAt_gpioDescriptor (flags : Byte) : pinAt (gpioDescriptor flags).byte 0 = 0x55 := by
  unfold pinAt
  rw [Nat.zero_add, half_gpioDescriptor]
  have hhalf : half (gpioDescriptor flags).byte (0 + 0x17) = (0 : Byte) ++ (0x55 : Byte) := rfl
  rw [hhalf]
  decide

theorem isGpioInt_gpioDescriptor (flags : Byte) :
    isGpioInt (gpioDescriptor flags).byte 0 = true := by
  have htag : (gpioDescriptor flags).byte 0 = 0x8c := rfl
  have htype : (gpioDescriptor flags).byte (index 0 4) = 0 := rfl
  unfold isGpioInt isGpio
  rw [pinAt_gpioDescriptor, htag, htype]
  decide

theorem gpioDescriptor_holds (flags : Byte) : (gpioDescriptor flags).Holds where
  serialBus h := by
    have hne : (0x8c : Byte) ≠ 0x8e := by decide
    exact absurd h hne
  gpio _ := by
    rw [LargeDescriptor.length_bytes]
    simp [gpioDescriptor]
  pin _ := by
    rw [half_gpioDescriptor, LargeDescriptor.length_bytes]
    simp [gpioDescriptor]

theorem gpioData_declares {flags : Byte} (hmode : flags &&& 1 = mode.bits)
    (hpolarity : (flags >>> 1) &&& 3 = polarity.bits) :
    (gpioData flags).Declares mode polarity 0x55 := by
  refine ⟨gpioDescriptors flags, 0, gpioDescriptor flags, ?_, memoryOf_holdsAt _, rfl, ?_, hmode,
    hpolarity, pinAt_gpioDescriptor flags⟩
  . intro d hmem
    cases hmem with
    | head => apply serialBusDescriptor_holds
    | tail _ hmem =>
      rw [List.mem_singleton.mp hmem]
      apply gpioDescriptor_holds
  . have hserial : isGpioInt serialBusDescriptor.byte 0 = false := by decide
    simp [gpioDescriptors, Descriptor.first, hserial, isGpioInt_gpioDescriptor]

theorem parseACPIResources_irqType_level :
    (∃ q, (parseACPIResources 46 0 45 freshParser).eval (gpioData 2).bytes = some q
      ∧ q.gpioInterrupts.pinNumber = 0x55
      ∧ q.gpioInterrupts.irqType = irqTypeLevelLow)
      ∧
    ∃ nub, (gpioDevice 2).getDeviceResources 46 freshParser freshParser false (nubAt 0 false)
        = some (.success, nub)
      ∧ nub.gpioPin = 0x55
      ∧ nub.gpioIrq = irqTypeLevelLow := by
  have hdata : (gpioData 2).Declares .level .activeLow 0x55 :=
    gpioData_declares (by decide) (by decide)
  have hnot : ¬ Inverted .level .activeLow := by
    intro h
    have := h.1
    contradiction
  rcases parseACPIResources_irqType hdata rfl with ⟨hparse, hnub⟩
  constructor
  . rcases hparse freshParser freshParser_fresh with ⟨htotal, hresult⟩
    rcases Option.isSome_iff_exists.mp (htotal (by decide) 46 (by decide)) with ⟨q, hq⟩
    refine ⟨q, hq, ?_⟩
    apply ((hresult 46 q hq).mpr hnot).2
  . let nub : DeviceNub := ⟨irqTypeLevelLow, 0x55, 0x2c, false, true, false⟩
    have hget : (gpioDevice 2).getDeviceResources 46 freshParser freshParser false (nubAt 0 false)
        = some (.success, nub) := by
      decide +kernel
    refine ⟨nub, hget, ?_⟩
    apply (hnub (gpioDevice 2) 46 freshParser freshParser false (nubAt 0 false) nub .success
      freshParser_fresh freshParser_fresh rfl rfl hget rfl).mpr hnot

theorem parseACPIResources_not_irqType :
    (gpioData 1).Declares .edge .activeHigh 0x55
      ∧ sameIrqType .edge .activeHigh = some irqTypeEdgeRising
      ∧ (∃ q, (parseACPIResources 46 0 45 freshParser).eval (gpioData 1).bytes = some q
        ∧ q.gpioInterrupts.irqType ≠ irqTypeEdgeRising)
      ∧ ∃ nub, (gpioDevice 1).getDeviceResources 46 freshParser freshParser false (nubAt 0 false)
          = some (.success, nub)
        ∧ nub.hasGpioInterrupts = true
        ∧ nub.gpioIrq ≠ irqTypeEdgeRising := by
  refine ⟨gpioData_declares (by decide) (by decide), rfl, ?_, ?_⟩
  . refine ⟨((parseACPIResources 46 0 45 freshParser).eval (gpioData 1).bytes).get (by decide +kernel),
      ?_, by decide +kernel⟩
    rw [Option.some_get]
  . refine ⟨⟨irqTypeEdgeFalling, 0x55, 0x2c, false, true, false⟩, by decide +kernel, rfl, by decide⟩

end VoodooI2C
