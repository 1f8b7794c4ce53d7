import VoodooI2C.Driver.Constants
import VoodooI2C.Interaction.Basic

/-!
This module contains the data of `VoodooI2CControllerDriver` and the operations that its functions
are made of: accesses to the registers of the controller, to `bus_device`, to the list of messages
of the caller and to the buffers of these messages, and calls into IOKit.

Buffers and lists of messages belong to the caller of `transferI2C`, so the driver only has pointers
to them. Indices, lengths and counters of the source that cannot get negative are natural numbers.
-/

namespace VoodooI2C

open Interaction

abbrev Address := Nat

abbrev Pointer := Nat

structure BusMessage where
  address : BitVec 16
  buffer : Address
  flags : BitVec 16
  length : BitVec 16
  deriving DecidableEq, Repr

namespace BusMessage

abbrev IsRead (m : BusMessage) : Prop := m.flags &&& i2cMRd ≠ 0

abbrev IsTen (m : BusMessage) : Prop := m.flags &&& i2cMTen ≠ 0

end BusMessage

structure BusConfig where
  ssHcnt : Word
  fsHcnt : Word
  ssLcnt : Word
  fsLcnt : Word
  sdaHold : Word
  deriving DecidableEq, Repr

/-- `bus_device`, and at the end the member `is_interrupt_registered` of the driver itself. -/
structure BusDevice where
  abortSource : Word
  acpiConfig : BusConfig
  awake : Bool
  busConfig : Word
  commandError : Word
  messages : Pointer
  messageError : Int
  messageNumber : Nat
  messageReadIndex : Nat
  messageWriteIndex : Nat
  receiveBufferLength : Nat
  receiveBuffer : Address
  receiveFifoDepth : Word
  receiveOutstanding : Int
  status : Word
  transactionBufferLength : Nat
  transactionBuffer : Address
  transactionFifoDepth : Word
  accessIntrMaskWorkaround : Bool
  isInterruptRegistered : Bool
  deriving DecidableEq, Repr

namespace BusDevice

abbrev WriteInProgress (d : BusDevice) : Prop := d.status &&& statusWriteInProgress ≠ 0

abbrev ReadInProgress (d : BusDevice) : Prop := d.status &&& statusReadInProgress ≠ 0

end BusDevice

/-- `physical_device` of the PCI or ACPI controller, `mapped` says whether `mmap` is set. -/
structure PhysicalDevice where
  awake : Bool
  mapped : Bool
  deriving DecidableEq, Repr

/-- Calls that change nothing that the driver or the controller look at. -/
inductive External where
  | configurePCI
  | skylakeLPSSResetHack
  | setClkGating (enabled : VoodooI2CState)
  | setACPIPowerState (enabled : VoodooI2CState)
  | stopNubs
  | releaseGate
  | freeLock
  | pmStop
  | superStop
  deriving DecidableEq, Repr

inductive Point where
  | prepareTransferI2C (messages : Pointer)
  | prepareTransferI2CReturns
  | readFromBus
  | transferMessageToBus
  deriving DecidableEq, Repr

inductive Op where
  | readRegister (reg : Register)
  | writeRegister (value : Word) (reg : Register)
  | device
  | update (f : BusDevice → BusDevice)
  | message (messages : Pointer) (i : Nat)
  | load (a : Address)
  | store (a : Address) (b : Byte)
  | enterSleep
  | leaveSleep
  | commandWakeup
  | disableInterrupt
  | enableInterrupt
  | registerInterrupt
  | unregisterInterrupt
  | reach (point : Point)
  | beginTransfer (messages : Pointer) (list : List BusMessage)
  | endTransfer
  | losePower
  | physicalDevice
  | updatePhysicalDevice (f : PhysicalDevice → PhysicalDevice)
  | getDeviceMemoryCount
  | mapDeviceMemory
  | external (call : External)

structure Memory where
  message : Pointer → Nat → BusMessage
  byte : Address → Byte

abbrev Op.Ans : Op → Type
  | .readRegister _ => Word
  | .device => BusDevice
  | .message _ _ => BusMessage
  | .load _ => Byte
  | .leaveSleep => SleepResult
  | .registerInterrupt => IOReturn
  | .beginTransfer _ _ => Memory
  | .losePower => Register → Word
  | .physicalDevice => PhysicalDevice
  | .getDeviceMemoryCount => Nat
  | .mapDeviceMemory => Bool
  | _ => Unit

abbrev Driver (α : Type) := Prog Op Op.Ans α

def readRegister (reg : Register) : Driver Word := Prog.perform (Op.readRegister reg)

def writeRegister (value : Word) (reg : Register) : Driver Unit :=
  Prog.perform (Op.writeRegister value reg)

def device : Driver BusDevice := Prog.perform Op.device

def update (f : BusDevice → BusDevice) : Driver Unit := Prog.perform (Op.update f)

def message (messages : Pointer) (i : Nat) : Driver BusMessage :=
  Prog.perform (Op.message messages i)

def load (a : Address) : Driver Byte := Prog.perform (Op.load a)

def store (a : Address) (b : Byte) : Driver Unit := Prog.perform (Op.store a b)

def commandWakeup : Driver Unit := Prog.perform Op.commandWakeup

def disableInterrupt : Driver Unit := Prog.perform Op.disableInterrupt

def enableInterrupt : Driver Unit := Prog.perform Op.enableInterrupt

def reach (point : Point) : Driver Unit := Prog.perform (Op.reach point)

def commandSleep : Driver SleepResult := do
  Prog.perform Op.enterSleep
  -- between the two the caller is on the queue of `command_complete`
  Prog.perform Op.leaveSleep

end VoodooI2C
