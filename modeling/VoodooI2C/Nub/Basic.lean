import VoodooI2C.ResourcesParser.Basic
import VoodooI2C.Driver.Impl.Transfer

/-!
This module contains `VoodooI2CDeviceNub`: the resources that it gets from ACPI and the messages of
the transfers that it requests.
-/

namespace VoodooI2C

open Interaction

def i2cDsmTP7G : String := "ef87eb82-f951-46da-84ec-14871ac6f84b"
def i2cDsmRevision : Nat := 1
def dsmSupportIndex : Nat := 0
def tp7gResourcesIndex : Nat := 1

structure OSData where
  bytes : Nat → Byte
  length : Word

inductive OSObject where
  | data (d : OSData)
  | other

inductive ACPIMethod where
  | crs
  | xdsm (uuid : String) (revision index : Nat)
  | dsm (uuid : String) (revision index : Nat)
  deriving DecidableEq, Repr

structure ACPIDevice where
  evaluateObject : ACPIMethod → Except IOReturn OSObject
  interruptPin : Option (BitVec 16)

structure DeviceNub where
  gpioIrq : Word
  gpioPin : BitVec 16
  i2cAddress : Byte
  hasApicInterrupts : Bool
  hasGpioInterrupts : Bool
  use10bitAddressing : Bool
  deriving DecidableEq, Repr

namespace ACPIDevice

variable (device : ACPIDevice)

def evaluateDSM (uuid : String) (index : Nat) : Except IOReturn OSObject :=
  match device.evaluateObject (.xdsm uuid i2cDsmRevision index) with
  | .ok result => .ok result
  | .error _ => device.evaluateObject (.dsm uuid i2cDsmRevision index)

def getDeviceResourcesDSM (index : Nat) : Except IOReturn OSObject :=
  match device.evaluateDSM i2cDsmTP7G dsmSupportIndex with
  | .error _ => .error .notFound
  | .ok .other => .error .notFound
  | .ok (.data data) =>
    let availableIndex := data.bytes 0
    if availableIndex &&& (1 <<< index) = 0 then
      .error .unsupportedMode
    else
      device.evaluateDSM i2cDsmTP7G index

/--
Both methods end with a call of the parser, `depth` bounds its recursion.
-/
def parseResources (depth : Nat) (result : Except IOReturn OSObject) (p : ACPIResourcesParser) :
    Option (IOReturn × ACPIResourcesParser) :=
  match result with
  | .error _ => some (.notFound, p)
  | .ok .other => some (.notFound, p)
  | .ok (.data data) =>
    match (p.parseACPIResources depth 0 data.length).eval data.bytes with
    | none => none
    | some p => some (.success, p)

def parseResourcesCRS (depth : Nat) (p : ACPIResourcesParser) :
    Option (IOReturn × ACPIResourcesParser) :=
  parseResources depth (device.evaluateObject .crs) p

def parseResourcesDSM (depth : Nat) (p : ACPIResourcesParser) :
    Option (IOReturn × ACPIResourcesParser) :=
  parseResources depth (device.getDeviceResourcesDSM tp7gResourcesIndex) p

def validateAPICInterrupt (nub : DeviceNub) : IOReturn × DeviceNub :=
  match device.interruptPin with
  | some pin =>
    if pin ≤ 0x2f then (.success, { nub with hasApicInterrupts := true }) else (.unsupported, nub)
  | none => (.unsupported, nub)

/--
The parsers have any values in the members that their constructor does not set. `forcePolling` is the
kernel argument or the property of the PCI device.
-/
def getDeviceResources (depth : Nat) (crsParser dsmParser : ACPIResourcesParser)
    (forcePolling : Bool) (nub : DeviceNub) : Option (IOReturn × DeviceNub) := do
  let (_, crsParser) ← device.parseResourcesCRS depth crsParser
  let (_, dsmParser) ← device.parseResourcesDSM depth dsmParser
  if ¬ crsParser.foundI2C ∧ ¬ dsmParser.foundI2C then
    return (.notFound, nub)
  else
    return select crsParser dsmParser
where
  select (crsParser dsmParser : ACPIResourcesParser) : IOReturn × DeviceNub :=
    if ¬ crsParser.foundI2C ∨ (dsmParser.foundI2C ∧ dsmParser.foundGpioInterrupts) then
      use dsmParser
    else
      use crsParser
  use (resourceParser : ACPIResourcesParser) : IOReturn × DeviceNub :=
    let nub := { nub with use10bitAddressing := resourceParser.i2cInfo.addressMode10Bit }
    let nub := { nub with i2cAddress := resourceParser.i2cInfo.address.setWidth 8 }
    let (ret, nub) := device.validateAPICInterrupt nub
    if ret = .success then
      (.success, nub)
    else if forcePolling then
      (.success, nub)
    else if resourceParser.foundGpioInterrupts then
      (.success, { nub with
        hasGpioInterrupts := true
        gpioPin := resourceParser.gpioInterrupts.pinNumber
        gpioIrq := resourceParser.gpioInterrupts.irqType })
    else
      (.success, nub)

end ACPIDevice

/-! Transfers. -/

inductive NubRequest where
  | readI2C (values : Address) (length : BitVec 16)
  | writeI2C (values : Address) (length : BitVec 16)
  | writeReadI2C (writeBuffer : Address) (writeLength : BitVec 16) (readBuffer : Address)
      (readLength : BitVec 16)
  deriving DecidableEq, Repr

namespace DeviceNub

variable (nub : DeviceNub)

def readI2CGated (values : Address) (length : BitVec 16) : List BusMessage :=
  let flags := i2cMRd
  let flags := if nub.use10bitAddressing then flags ||| i2cMTen else flags
  [⟨nub.i2cAddress.setWidth 16, values, flags, length⟩]

def writeI2CGated (values : Address) (length : BitVec 16) : List BusMessage :=
  let flags := if nub.use10bitAddressing then i2cMTen else 0
  [⟨nub.i2cAddress.setWidth 16, values, flags, length⟩]

def writeReadI2CGated (writeBuffer : Address) (writeLength : BitVec 16) (readBuffer : Address)
    (readLength : BitVec 16) : List BusMessage :=
  let readFlags := i2cMRd
  let readFlags := if nub.use10bitAddressing then readFlags ||| i2cMTen else readFlags
  let writeFlags := if nub.use10bitAddressing then i2cMTen else 0
  [⟨nub.i2cAddress.setWidth 16, writeBuffer, writeFlags, writeLength⟩,
    ⟨nub.i2cAddress.setWidth 16, readBuffer, readFlags, readLength⟩]

def messages (request : NubRequest) : List BusMessage :=
  match request with
  | .readI2C values length => nub.readI2CGated values length
  | .writeI2C values length => nub.writeI2CGated values length
  | .writeReadI2C writeBuffer writeLength readBuffer readLength =>
    nub.writeReadI2CGated writeBuffer writeLength readBuffer readLength

end DeviceNub

end VoodooI2C
