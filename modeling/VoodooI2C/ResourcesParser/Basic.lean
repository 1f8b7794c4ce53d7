import VoodooI2C.Driver.Constants
import VoodooI2C.Interaction.Eval
import Mathlib.Algebra.Group.Nat.Defs

/-!
This module contains `VoodooI2CACPIResourcesParser`. The resources are bytes in memory: a parser is a
program that asks for the byte at an index, and nothing stops it from asking for bytes after the end
of the resources.
-/

namespace VoodooI2C

open Interaction

abbrev Parse (α : Type) := Prog Nat (fun _ => Byte) α

def irqTypeEdgeRising : Word := 0x1
def irqTypeEdgeFalling : Word := 0x2
def irqTypeEdgeBoth : Word := 0x3
def irqTypeLevelHigh : Word := 0x4
def irqTypeLevelLow : Word := 0x8

structure I2CInfo where
  resourceConsumer : Bool
  deviceInitiated : Bool
  addressMode10Bit : Bool
  busSpeed : Word
  address : BitVec 16
  deriving DecidableEq, Repr

structure GpioIntInfo where
  resourceConsumer : Bool
  levelInterrupt : Bool
  interruptPolarity : Byte
  sharedInterrupt : Bool
  wakeInterrupt : Bool
  pinConfig : Byte
  pinNumber : BitVec 16
  irqType : Word
  deriving DecidableEq, Repr

structure GpioIoInfo where
  resourceConsumer : Bool
  ioRestriction : Byte
  sharing : Bool
  pinConfig : Byte
  pinNumber : BitVec 16
  deriving DecidableEq, Repr

structure ACPIResourcesParser where
  foundI2C : Bool
  foundGpioInterrupts : Bool
  foundGpioIo : Bool
  i2cInfo : I2CInfo
  gpioInterrupts : GpioIntInfo
  gpioIo : GpioIoInfo
  deriving DecidableEq, Repr

namespace ACPIResourcesParser

/-- What the constructor sets, `found_gpio_io` and the infos have any value. -/
structure Fresh (p : ACPIResourcesParser) : Prop where
  foundI2C : p.foundI2C = false
  foundGpioInterrupts : p.foundGpioInterrupts = false

def byteAt (i : Nat) : Parse Byte := Prog.perform i

/-- `memcpy` of a little-endian `uint16_t`. -/
def halfAt (i : Nat) : Parse (BitVec 16) := do
  let b₀ ← byteAt i
  let b₁ ← byteAt (i + 1)
  return b₁ ++ b₀

def wordAt (i : Nat) : Parse Word := do
  let h₀ ← halfAt i
  let h₁ ← halfAt (i + 2)
  return h₁ ++ h₀

def parseACPISerialBus (offset sz : Word) (p : ACPIResourcesParser) : Parse ACPIResourcesParser :=
  if p.foundI2C then
    return p
  else if offset ≥ sz then
    return p
  else do
    let opcode ← byteAt offset.toNat
    if opcode ≠ 0x8e then
      return p
    else
      let _len ← halfAt (offset.toNat + 1)
      let bustype ← byteAt (offset + 5).toNat
      if bustype ≠ 1 then
        return p
      else
        let flags ← byteAt (offset + 6).toNat
        let tflags ← halfAt (offset.toNat + 7)
        let busspeed ← wordAt (offset.toNat + 12)
        let address ← halfAt (offset.toNat + 16)
        return { p with
          foundI2C := true
          i2cInfo :=
            { resourceConsumer := (flags >>> 1) &&& 1 ≠ 0
              deviceInitiated := flags &&& 1 ≠ 0
              addressMode10Bit := tflags &&& 1 ≠ 0
              busSpeed := busspeed
              address := address } }

def irqType (levelInterrupt : Bool) (interruptPolarity : Byte) : Word :=
  if levelInterrupt then
    if interruptPolarity = 0 then irqTypeLevelHigh else irqTypeLevelLow
  else if interruptPolarity = 0 then irqTypeEdgeFalling
  else if interruptPolarity = 1 then irqTypeEdgeRising
  else if interruptPolarity = 2 then irqTypeEdgeBoth
  else irqTypeEdgeFalling

def parseACPIGpio (offset sz : Word) (p : ACPIResourcesParser) : Parse ACPIResourcesParser :=
  if p.foundGpioInterrupts then
    return p
  else if offset ≥ sz then
    return p
  else do
    let opcode ← byteAt offset.toNat
    if opcode ≠ 0x8c then
      return p
    else
      let _len ← halfAt (offset.toNat + 1)
      let gpioType ← byteAt (offset + 4).toNat
      let flags ← byteAt (offset + 5).toNat
      let gpioFlags ← byteAt (offset + 7).toNat
      let pinConfig ← byteAt (offset + 9).toNat
      let pinOffset ← halfAt (offset.toNat + 14)
      let pinNumber ← halfAt (offset.toNat + pinOffset.toNat)
      if pinNumber = 0xFFFF then
        return p
      else
        return io gpioType flags gpioFlags pinConfig pinNumber
          (int gpioType flags gpioFlags pinConfig pinNumber p)
where
  /-- The branch of `GPIOInt`. -/
  int (gpioType flags gpioFlags pinConfig : Byte) (pinNumber : BitVec 16)
      (p : ACPIResourcesParser) : ACPIResourcesParser :=
    if gpioType = 0 then
      { p with
        foundGpioInterrupts := true
        gpioInterrupts :=
          { resourceConsumer := flags &&& 1 ≠ 0
            levelInterrupt := gpioFlags &&& 1 = 0
            interruptPolarity := (gpioFlags >>> 1) &&& 3
            sharedInterrupt := (gpioFlags >>> 3) &&& 1 ≠ 0
            wakeInterrupt := (gpioFlags >>> 4) &&& 1 ≠ 0
            pinConfig := pinConfig
            pinNumber := pinNumber
            irqType := irqType (gpioFlags &&& 1 = 0) ((gpioFlags >>> 1) &&& 3) } }
    else
      p
  /-- The branch of `GPIOIo`. -/
  io (gpioType flags gpioFlags pinConfig : Byte) (pinNumber : BitVec 16)
      (p : ACPIResourcesParser) : ACPIResourcesParser :=
    if gpioType = 1 then
      { p with
        foundGpioIo := true
        gpioIo :=
          { resourceConsumer := flags &&& 1 ≠ 0
            ioRestriction := gpioFlags &&& 3
            sharing := (gpioFlags >>> 3) &&& 1 ≠ 0
            pinConfig := pinConfig
            pinNumber := pinNumber } }
    else
      p

def parseIf (c : Bool) (f : ACPIResourcesParser → Parse ACPIResourcesParser)
    (p : ACPIResourcesParser) : Parse ACPIResourcesParser :=
  if c then f p else pure p

/--
The number bounds the depth of the recursion, `none` is what lies beyond it.
-/
def parseACPIResources (depth : Nat) (offset sz : Word) (p : ACPIResourcesParser) :
    Parse (Option ACPIResourcesParser) :=
  match depth with
  | 0 => return none
  | depth + 1 =>
    if offset ≥ sz then
      return some p
    else do
      let opcode ← byteAt offset.toNat
      let len ← halfAt (offset.toNat + 1)
      let p ← parseIf (opcode = 0x8c) (parseACPIGpio offset sz) p
      let p ← parseIf (opcode = 0x8e) (parseACPISerialBus offset sz) p
      parseACPIResources depth (offset + (len.setWidth 32 + 3)) sz p

end ACPIResourcesParser

end VoodooI2C
