import VoodooI2C.Interaction.Locks
import VoodooI2C.Nub.Basic

/-!
This module contains the threads that use the bus with all locks that they take: clients of the nubs,
callers of `transferI2C` and power management.
-/

namespace VoodooI2C

namespace Concurrency

open Interaction Thread

/--
The command gates of the nubs, each has a work loop of its own, `i2c_bus_lock` and the command gate
of the driver.
-/
inductive Lock (Nub : Type) where
  | nubGate (nub : Nub)
  | i2cBusLock
  | driverGate
  deriving DecidableEq, Repr

abbrev Client (Nub α : Type) := Thread (Lock Nub) Op.Ans α

variable {Nub α : Type}

def runAction (gate : Lock Nub) (action : Client Nub α) : Client Nub α := do
  acquire gate
  let ret ← action
  release gate
  return ret

def attemptAction (gate : Lock Nub) (action : Client Nub α) : Client Nub (Option α) := do
  if ← tryAcquire gate then
    let ret ← action
    release gate
    return some ret
  else
    -- `kIOReturnCannotLock`
    return none

/--
A function of the driver. `commandSleep` opens the gate while the caller sleeps.
-/
def gated (p : Driver α) : Client Nub α :=
  match p with
  | .ret a => .ret a
  | .call .enterSleep k => do
    perform Op.enterSleep
    release .driverGate
    gated (k ())
  | .call .leaveSleep k => do
    acquire .driverGate
    let result ← perform Op.leaveSleep
    gated (k result)
  | .call op k => do
    let r ← perform op
    gated (k r)

def transferI2C (messages : Pointer) (list : List BusMessage) : Client Nub IOReturn := do
  acquire .i2cBusLock
  let _ ← perform (Op.beginTransfer messages list)
  let ret ← runAction .driverGate (gated (transferI2CGated messages list.length))
  perform Op.endTransfer
  release .i2cBusLock
  return ret

def setPowerState (whichState : Nat) (forThis : Bool) : Client Nub IOReturn :=
  if ¬ forThis then
    return .ackImplied
  else do
    acquire .i2cBusLock
    gated (VoodooI2C.setPowerState.change whichState)
    release .i2cBusLock
    return .ackImplied

section Nub

variable (nubs : Nub → DeviceNub) (nub : Nub) (msgs : Pointer)

def readI2C (values : Address) (length : BitVec 16) : Client Nub (Option IOReturn) :=
  attemptAction (.nubGate nub) (transferI2C msgs ((nubs nub).readI2CGated values length))

def writeI2C (values : Address) (length : BitVec 16) : Client Nub IOReturn :=
  runAction (.nubGate nub) (transferI2C msgs ((nubs nub).writeI2CGated values length))

def writeReadI2C (writeBuffer : Address) (writeLength : BitVec 16) (readBuffer : Address)
    (readLength : BitVec 16) : Client Nub IOReturn :=
  runAction (.nubGate nub) (transferI2C msgs
    ((nubs nub).writeReadI2CGated writeBuffer writeLength readBuffer readLength))

end Nub

/--
What a thread can ask for. `msgs` is where the nub puts its messages.
-/
inductive BusRequest (Nub : Type) where
  | nub (nub : Nub) (msgs : Pointer) (request : NubRequest)
  | transferI2C (messages : Pointer) (list : List BusMessage)
  | setPowerState (whichState : Nat) (forThis : Bool)

namespace BusRequest

variable (nubs : Nub → DeviceNub)

def run (request : BusRequest Nub) : Client Nub Unit :=
  match request with
  | .nub n msgs (.readI2C values length) => do
    let _ ← readI2C nubs n msgs values length
  | .nub n msgs (.writeI2C values length) => do
    let _ ← writeI2C nubs n msgs values length
  | .nub n msgs (.writeReadI2C writeBuffer writeLength readBuffer readLength) => do
    let _ ← writeReadI2C nubs n msgs writeBuffer writeLength readBuffer readLength
  | .transferI2C messages list => do
    let _ ← Concurrency.transferI2C messages list
  | .setPowerState whichState forThis => do
    let _ ← Concurrency.setPowerState whichState forThis

def call (request : BusRequest Nub) : Call :=
  match request with
  | .nub n msgs request => .transferI2C msgs ((nubs n).messages request)
  | .transferI2C messages list => .transferI2C messages list
  | .setPowerState whichState forThis => .setPowerState whichState forThis

end BusRequest

def thread (nubs : Nub → DeviceNub) (requests : List (BusRequest Nub)) : Client Nub Unit :=
  match requests with
  | [] => return ()
  | request :: requests => do
    request.run nubs
    thread nubs requests

end Concurrency

end VoodooI2C
