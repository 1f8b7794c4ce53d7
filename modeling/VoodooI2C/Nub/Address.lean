import VoodooI2C.Nub.Basic
import VoodooI2C.ResourcesParser.Template
import VoodooI2C.Transfer.Calls

/-!
This module contains which I2C serial bus descriptor the nub selects and when the address of this
descriptor gets to `IC_TAR`.
-/

namespace VoodooI2C

open Interaction ACPIResourcesParser

/-! The descriptor that the nub selects. -/

namespace OSData

variable (data : OSData) (depth : Nat)

def serialBus : Option I2CInfo :=
  ((walk data.bytes data.length depth 0).find? (isI2C data.bytes)).map (i2cInfoAt data.bytes)

def hasGpioInt : Bool := (walk data.bytes data.length depth 0).any (isGpioInt data.bytes)

end OSData

def resultData (result : Except IOReturn OSObject) : Option OSData :=
  match result with
  | .ok (.data d) => some d
  | _ => none

namespace ACPIDevice

variable (device : ACPIDevice) (depth : Nat)

def crsData : Option OSData := resultData (device.evaluateObject .crs)

def dsmData : Option OSData := resultData (device.getDeviceResourcesDSM tp7gResourcesIndex)

def selected : Option I2CInfo :=
  match device.crsData.bind (·.serialBus depth), device.dsmData.bind (·.serialBus depth) with
  | none, dsm => dsm
  | some crs, none => some crs
  -- `_DSM` is preferred if it has a GPIO interrupt as well
  | some crs, some dsm => if device.dsmData.any (·.hasGpioInt depth) then some dsm else some crs

end ACPIDevice

variable {depth : Nat} {p q : ACPIResourcesParser} {result : Except IOReturn OSObject}

structure Parsed (depth : Nat) (data : Option OSData) (q : ACPIResourcesParser) : Prop where
  found : q.foundI2C = (data.bind (·.serialBus depth)).isSome
  info : ∀ info, data.bind (·.serialBus depth) = some info → q.i2cInfo = info
  gpio : q.foundGpioInterrupts = data.any (·.hasGpioInt depth)

theorem parsed_parseResources {ret : IOReturn} (hp : p.Fresh)
    (h : ACPIDevice.parseResources depth result p = some (ret, q)) :
    Parsed depth (resultData result) q := by
  have hnone : Parsed depth none p :=
    { found := hp.foundI2C
      info := by simp
      gpio := hp.foundGpioInterrupts }
  unfold ACPIDevice.parseResources at h
  split at h
  . simp only [Option.some.injEq, Prod.mk.injEq] at h
    rw [← h.2]
    apply hnone
  . simp only [Option.some.injEq, Prod.mk.injEq] at h
    rw [← h.2]
    apply hnone
  . next data =>
    split at h
    . contradiction
    . next q' hq =>
      simp only [Option.some.injEq, Prod.mk.injEq] at h
      rcases h with ⟨_, rfl⟩
      have hwalk := eval_parseACPIResources hq
      rw [hwalk]
      refine ⟨?_, ?_, ?_⟩
      . rw [foundI2C_foldl, hp.foundI2C, Bool.false_or]
        rw [Bool.eq_iff_iff]
        simp [resultData, OSData.serialBus]
      . intro info hinfo
        rcases Option.map_eq_some_iff.mp hinfo with ⟨i, hfind, rfl⟩
        apply i2cInfo_foldl hp.foundI2C hfind
      . rw [foundGpioInterrupts_foldl, hp.foundGpioInterrupts, Bool.false_or]
        rfl

namespace ACPIDevice

variable {device : ACPIDevice} {crsParser dsmParser : ACPIResourcesParser} {forcePolling : Bool}
  {nub₀ nub : DeviceNub}

theorem use_i2c {ret : IOReturn} {resourceParser : ACPIResourcesParser}
    (h : getDeviceResources.use device forcePolling nub₀ resourceParser = (ret, nub)) :
    nub.i2cAddress = resourceParser.i2cInfo.address.setWidth 8
      ∧ nub.use10bitAddressing = resourceParser.i2cInfo.addressMode10Bit := by
  have hvalidate : ∀ nub, (device.validateAPICInterrupt nub).2.i2cAddress = nub.i2cAddress
      ∧ (device.validateAPICInterrupt nub).2.use10bitAddressing = nub.use10bitAddressing := by
    intro nub
    unfold validateAPICInterrupt
    split
    . split <;> exact ⟨rfl, rfl⟩
    . exact ⟨rfl, rfl⟩
  have hnub := congrArg Prod.snd h
  rw [← show _ = nub from hnub]
  unfold getDeviceResources.use
  dsimp only
  split
  . apply hvalidate
  . split
    . apply hvalidate
    . split
      . apply hvalidate
      . apply hvalidate

theorem getDeviceResources_selected (hcrs : crsParser.Fresh) (hdsm : dsmParser.Fresh)
    (h : device.getDeviceResources depth crsParser dsmParser forcePolling nub₀
      = some (.success, nub)) :
    ∃ info, device.selected depth = some info
      ∧ nub.i2cAddress = info.address.setWidth 8
      ∧ nub.use10bitAddressing = info.addressMode10Bit := by
  unfold getDeviceResources at h
  rcases hparse : device.parseResourcesCRS depth crsParser with _ | ⟨_, crs⟩
  . simp [hparse] at h
  . rcases hparse' : device.parseResourcesDSM depth dsmParser with _ | ⟨_, dsm⟩
    . simp [hparse, hparse'] at h
    . have hcrs' : Parsed depth device.crsData crs := parsed_parseResources hcrs hparse
      have hdsm' : Parsed depth device.dsmData dsm := parsed_parseResources hdsm hparse'
      simp only [hparse, hparse', Option.bind_eq_bind, Option.bind_some] at h
      split at h
      . simp at h
      . next hfound =>
        simp only [Option.pure_def, Option.some.injEq] at h
        unfold getDeviceResources.select at h
        have hcrsFound := hcrs'.found
        have hdsmFound := hdsm'.found
        unfold selected
        cases hc : device.crsData.bind (·.serialBus depth) with
        | none =>
          simp only [hc, Option.isSome_none] at hcrsFound
          cases hd : device.dsmData.bind (·.serialBus depth) with
          | none =>
            simp only [hd, Option.isSome_none] at hdsmFound
            exact absurd ⟨by simp [hcrsFound], by simp [hdsmFound]⟩ hfound
          | some info =>
            rw [if_pos (by simp [hcrsFound])] at h
            rw [← hdsm'.info info hd]
            exact ⟨_, rfl, use_i2c h⟩
        | some info =>
          simp only [hc, Option.isSome_some] at hcrsFound
          have hinfo := hcrs'.info info hc
          cases hd : device.dsmData.bind (·.serialBus depth) with
          | none =>
            simp only [hd, Option.isSome_none] at hdsmFound
            rw [if_neg (by simp [hcrsFound, hdsmFound])] at h
            rw [← hinfo]
            exact ⟨_, rfl, use_i2c h⟩
          | some info' =>
            simp only [hd, Option.isSome_some] at hdsmFound
            dsimp only
            -- both methods have a descriptor
            rw [← hdsm'.gpio]
            split
            . next hgpio =>
              rw [if_pos (.inr ⟨hdsmFound, hgpio⟩)] at h
              rw [← hdsm'.info info' hd]
              exact ⟨_, rfl, use_i2c h⟩
            . next hgpio =>
              rw [if_neg (by simp [hcrsFound, hgpio])] at h
              rw [← hinfo]
              exact ⟨_, rfl, use_i2c h⟩

end ACPIDevice

/-! What gets to `IC_TAR`. -/

def I2CInfo.Fits (info : I2CInfo) : Prop :=
  info.address < if info.addressMode10Bit then 0x400 else 0x80

def I2CInfo.target (info : I2CInfo) : Word :=
  info.address.setWidth 32 ||| if info.addressMode10Bit then tar10bitaddrMaster else 0

theorem or_tar10bitaddrMaster {v : Word} (h : v < 0x1000) :
    v ||| tar10bitaddrMaster = v + tar10bitaddrMaster := by
  have hbit : v.getLsbD 12 = false := by
    apply Nat.testBit_lt_two_pow
    simpa [BitVec.lt_def] using h
  have hand : v &&& tar10bitaddrMaster = 0 := by
    rw [show tar10bitaddrMaster = BitVec.twoPow 32 12 from rfl, BitVec.and_twoPow, hbit]
    rfl
  rw [BitVec.add_eq_or_of_and_eq_zero _ _ hand]

theorem I2CInfo.target_eq_iff {info : I2CInfo} (hfits : info.Fits) :
    ((info.address.setWidth 8).setWidth 16).setWidth 32
        ||| (if info.addressMode10Bit then tar10bitaddrMaster else 0) = info.target
      ↔ info.address < 0x100 := by
  unfold I2CInfo.Fits at hfits
  unfold I2CInfo.target
  cases hten : info.addressMode10Bit with
  | false =>
    simp only [hten, Bool.false_eq_true, if_false, BitVec.ofNat_eq_ofNat, BitVec.or_zero]
      at hfits ⊢
    bv_omega
  | true =>
    simp only [hten, if_true] at hfits ⊢
    rw [or_tar10bitaddrMaster (by bv_omega), or_tar10bitaddrMaster (by bv_omega)]
    bv_omega

theorem I2CInfo.target_of_lt {info : I2CInfo} (h : info.address < 0x100) :
    ((info.address.setWidth 8).setWidth 16).setWidth 32
        ||| (if info.addressMode10Bit then tar10bitaddrMaster else 0) = info.target := by
  have hwidth : ((info.address.setWidth 8).setWidth 16).setWidth 32 = info.address.setWidth 32 := by
    bv_omega
  rw [hwidth]
  rfl

theorem BusMessage.target_eq {m : BusMessage} (nub : DeviceNub)
    (haddress : m.address = nub.i2cAddress.setWidth 16)
    (hflags : m.IsTen ↔ nub.use10bitAddressing = true) :
    m.target = (nub.i2cAddress.setWidth 16).setWidth 32
      ||| if nub.use10bitAddressing then tar10bitaddrMaster else 0 := by
  unfold BusMessage.target
  rw [haddress]
  simp only [hflags]

theorem DeviceNub.target_messages (nub : DeviceNub) (request : NubRequest) :
    ∃ m, (nub.messages request)[0]? = some m
      ∧ m.target = (nub.i2cAddress.setWidth 16).setWidth 32
        ||| if nub.use10bitAddressing then tar10bitaddrMaster else 0 := by
  have hread : ∀ ten : Bool,
      (if ten then i2cMRd ||| i2cMTen else i2cMRd) &&& i2cMTen ≠ 0 ↔ ten = true := by
    decide
  have hwrite : ∀ ten : Bool,
      (if ten then i2cMTen else 0) &&& i2cMTen ≠ 0 ↔ ten = true := by
    decide
  cases request with
  | readI2C values length =>
    refine ⟨_, rfl, BusMessage.target_eq nub rfl ?_⟩
    apply hread
  | writeI2C values length =>
    refine ⟨_, rfl, BusMessage.target_eq nub rfl ?_⟩
    apply hwrite
  | writeReadI2C writeBuffer writeLength readBuffer readLength =>
    refine ⟨_, rfl, BusMessage.target_eq nub rfl ?_⟩
    apply hwrite

variable {H : Hardware} [RegisterFile H] {s : State H}

section Call

variable {list : List BusMessage} {memory : Memory} {messages : Pointer} {m : BusMessage}
  (h₀ : Between s) (hmessage : ∀ i m, list[i]? = some m → memory.message messages i = m)
  {cfg : Config (system H) IOReturn}
  (hc : Reachable (system H) handleInterrupt (State.next (.beginTransfer messages list) s memory)
    (transferI2C messages list.length) cfg)
  {v : Word} {k : Unit → Driver IOReturn} (hnone : cfg.handler = none)
  (hmain : cfg.main = .call (.writeRegister v .tar) k)
include h₀ hmessage hc hnone hmain

theorem transferI2C_target (hm : list[0]? = some m) : v = m.target := by
  have hresting := (h₀.atRest Calm.true).resting Calm.true hmessage
  have hguard := Contract.reachable_main (fun _ h => orderContract_wp_handleInterrupt h)
    ⟨_, hresting⟩ hc hnone hmain
  rw [← hmessage 0 m hm]
  apply hguard.2.2 rfl

end Call

section Nub

variable {device : ACPIDevice} {crsParser dsmParser : ACPIResourcesParser} {forcePolling : Bool}
  {nub₀ nub : DeviceNub} (hcrs : crsParser.Fresh) (hdsm : dsmParser.Fresh)
  (h : device.getDeviceResources depth crsParser dsmParser forcePolling nub₀
    = some (.success, nub))
include hcrs hdsm h

/--
The address gets to `IC_TAR` if and only if it has at most 8 bits.
-/
theorem DeviceNub.transferI2C_tar :
    ∃ info, device.selected depth = some info ∧
      (info.Fits →
        ∀ (request : NubRequest) (memory : Memory) (messages : Pointer)
          (cfg : Config (system H) IOReturn) (v : Word) (k : Unit → Driver IOReturn),
        Between s →
        (∀ i m, (nub.messages request)[i]? = some m → memory.message messages i = m) →
        Reachable (system H) handleInterrupt
          (State.next (.beginTransfer messages (nub.messages request)) s memory)
          (transferI2C messages (nub.messages request).length) cfg →
        cfg.handler = none → cfg.main = .call (.writeRegister v .tar) k →
        (v = info.target ↔ info.address < 0x100)) := by
  rcases ACPIDevice.getDeviceResources_selected hcrs hdsm h with ⟨info, hselected, haddress, hten⟩
  refine ⟨info, hselected, ?_⟩
  intro hfits request memory messages cfg v k h₀ hmessage hc hnone hmain
  rcases nub.target_messages request with ⟨m, hm, htarget⟩
  have hv := transferI2C_target h₀ hmessage hc hnone hmain hm
  rw [hv, htarget, haddress, hten]
  apply info.target_eq_iff hfits

end Nub

/-! A device with an I2C serial bus descriptor in its `_CRS` and a read of three bytes. -/

def serialBusBytes (tflags addressLow addressHigh : Byte) : List Byte :=
  [0x8e, 0x0f, 0x00, 0x01, 0x00, 0x01, 0x02, tflags, 0x00, 0x01, 0x06, 0x00, 0x80, 0x1a, 0x06, 0x00,
    addressLow, addressHigh, 0x79, 0x00]

def serialBusDevice (tflags addressLow addressHigh : Byte) : ACPIDevice where
  evaluateObject method :=
    if method = .crs then
      .ok (.data ⟨memoryOf (serialBusBytes tflags addressLow addressHigh), 20⟩)
    else
      .error .notFound
  interruptPin := none

def nubAt (address : Byte) (ten : Bool) : DeviceNub := ⟨0, 0, address, false, false, ten⟩

def nubRead (address : Byte) (ten : Bool) : List BusMessage :=
  (nubAt address ten).messages (.readI2C 0x80 3)

def nubReadRun (address : Byte) (ten : Bool) : Config (system smallFifo) IOReturn :=
  timeoutPlayer.play handleInterrupt (List.replicate (if ten then 21 else 20) .main)
    ⟨State.next (.beginTransfer 7 (nubRead address ten)) readyState
        (readyState.memory.put (nubRead address ten)),
      transferI2C 7 (nubRead address ten).length, none⟩

theorem reachable_nubReadRun (address : Byte) (ten : Bool) :
    Reachable (system smallFifo) handleInterrupt
      (State.next (.beginTransfer 7 (nubRead address ten)) readyState
        (readyState.memory.put (nubRead address ten)))
      (transferI2C 7 (nubRead address ten).length) (nubReadRun address ten) := by
  apply timeoutPlayer.reachable_play

theorem transferI2C_tar_seven :
    ∃ info, (serialBusDevice 0 0x2c 0).selected 3 = some info ∧ info.Fits ∧ info.address < 0x100
      ∧ ∃ k, (nubReadRun 0x2c false).main = .call (.writeRegister info.target .tar) k := by
  have hresources : (serialBusDevice 0 0x2c 0).getDeviceResources 3 freshParser freshParser true
      (nubAt 0 false) = some (.success, nubAt 0x2c false) := by
    decide +kernel
  rcases DeviceNub.transferI2C_tar (H := smallFifo) (s := readyState) freshParser_fresh
      freshParser_fresh hresources
    with ⟨info, hselected, htar⟩
  have hinfo : (serialBusDevice 0 0x2c 0).selected 3 = some ⟨true, false, false, 400000, 0x2c⟩ := by
    decide +kernel
  obtain rfl : info = ⟨true, false, false, 400000, 0x2c⟩ := by
    apply Option.some.inj
    rw [← hselected, hinfo]
  have hwrite : nextWrite (nubReadRun 0x2c false).main = some (0x2c, .tar) := by decide +kernel
  rcases call_of_nextWrite hwrite with ⟨k, hmain⟩
  refine ⟨_, hselected, by unfold I2CInfo.Fits; decide, by decide, k, ?_⟩
  rw [← (htar (by unfold I2CInfo.Fits; decide) (.readI2C 0x80 3) _ 7 _ _ k between_readyState
    Memory.put_message (reachable_nubReadRun 0x2c false) (by decide +kernel) hmain).mpr (by decide)]
  apply hmain

theorem transferI2C_tar_ten :
    (serialBusDevice 1 0x2c 1).getDeviceResources 3 freshParser freshParser true (nubAt 0 false)
        = some (.success, nubAt 0x2c true)
      ∧ ∃ info, (serialBusDevice 1 0x2c 1).selected 3 = some info ∧ info.Fits
        ∧ info.target = 0x112c
        ∧ ∃ k, (nubReadRun 0x2c true).handler = none
          ∧ (nubReadRun 0x2c true).main = .call (.writeRegister 0x102c .tar) k := by
  have hwrite : nextWrite (nubReadRun 0x2c true).main = some (0x102c, .tar) := by decide +kernel
  rcases call_of_nextWrite hwrite with ⟨k, hmain⟩
  refine ⟨by decide +kernel, ⟨true, false, true, 400000, 0x12c⟩, by decide +kernel,
    by unfold I2CInfo.Fits; decide, by decide, k, by decide +kernel, hmain⟩

end VoodooI2C
