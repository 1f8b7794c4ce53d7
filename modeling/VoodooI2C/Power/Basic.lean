import VoodooI2C.Driver.System
import VoodooI2C.Driver.Impl.Handler
import VoodooI2C.Driver.Impl.Transfer
import VoodooI2C.Interaction.Interleave

/-!
This module contains `setPowerState` of the physical controllers, `stop` of the driver and the runs
in which power management, callers of `transferI2C` and `stop` take part.
-/

namespace VoodooI2C

open Interaction

def physicalDevice : Driver PhysicalDevice := Prog.perform Op.physicalDevice

def updatePhysicalDevice (f : PhysicalDevice → PhysicalDevice) : Driver Unit :=
  Prog.perform (Op.updatePhysicalDevice f)

def external (call : External) : Driver Unit := Prog.perform (Op.external call)

def mapMemory : Driver IOReturn := do
  let count ← Prog.perform Op.getDeviceMemoryCount
  if count = 0 then
    return .deviceError
  else
    let mapped ← Prog.perform Op.mapDeviceMemory
    updatePhysicalDevice fun d => { d with mapped := mapped }
    if ¬ mapped then
      return .deviceError
    else
      return .success

def unmapMemory : Driver Unit := updatePhysicalDevice fun d => { d with mapped := false }

inductive Controller where
  | pci
  | acpi
  deriving DecidableEq, Repr

namespace Controller

def sleep (controller : Controller) : Driver Unit := do
  updatePhysicalDevice fun d => { d with awake := false }
  release controller
where
  release : Controller → Driver Unit
    | .pci => unmapMemory
    | .acpi => do
      external (.setClkGating .off)
      unmapMemory
      external (.setACPIPowerState .off)

def wake (controller : Controller) : Driver Unit := do
  acquire controller
  updatePhysicalDevice fun d => { d with awake := true }
where
  acquire : Controller → Driver Unit
    | .pci => do
      external .configurePCI
      let _ ← mapMemory
      external .skylakeLPSSResetHack
    | .acpi => do
      external (.setACPIPowerState .on)
      let _ ← mapMemory
      external (.setClkGating .on)

/--
`forThis` says whether `whatDevice` is the controller itself.
-/
def setPowerState (controller : Controller) (whichState : Nat) (forThis : Bool) :
    Driver IOReturn :=
  if ¬ forThis then
    return .ackImplied
  else do
    change
    return .ackImplied
where
  change : Driver Unit := do
    let d ← physicalDevice
    if whichState = 0 then
      if d.awake then controller.sleep else return ()
    else
      if ¬ d.awake then controller.wake else return ()

end Controller

namespace Stop

/--
The part of `stop` that accesses the controller. It does not take `i2c_bus_lock`.
-/
def toggleOff : Driver Unit := do
  let d ← device
  if d.awake then
    let _ ← toggleBusState .off
    return ()
  else
    return ()

def rest : Driver Unit := do
  stopI2CInterrupt
  external .releaseGate
  external .freeLock
  external .pmStop
  external .superStop

end Stop

def stop : Driver Unit := do
  external .stopNubs
  Stop.toggleOff
  Stop.rest

/-! What happens to the two levels after both have started. -/

inductive Request where
  | controller (whichState : Nat) (forThis : Bool)
  | driver (whichState : Nat) (forThis : Bool)
  | transferI2C (messages : Pointer) (list : List BusMessage)
  | losePower

namespace Request

/--
The order of power management: the driver is turned off before the controller and the controller on
before the driver. A controller that is off may lose the contents of its registers.
-/
def allowed (request : Request) (controller driver : Bool) : Bool :=
  match request with
  | .controller whichState forThis => decide (forThis = true → whichState = 0 → driver = false)
  | .driver whichState forThis => decide (forThis = true → whichState ≠ 0 → controller = true)
  | .transferI2C _ _ => true
  | .losePower => !controller

def body (physical : Controller) (request : Request) : Driver Unit :=
  match request with
  | .controller whichState forThis => do
    let _ ← physical.setPowerState whichState forThis
  | .driver whichState forThis => do
    let _ ← VoodooI2C.setPowerState whichState forThis
  | .transferI2C messages list => do
    let _ ← Prog.perform (Op.beginTransfer messages list)
    let _ ← VoodooI2C.transferI2C messages list.length
    Prog.perform Op.endTransfer
  | .losePower => do
    let _ ← Prog.perform Op.losePower

def run (physical : Controller) (request : Request) : Driver Unit := do
  let d ← physicalDevice
  let d' ← device
  if request.allowed d.awake d'.awake then
    request.body physical
  else
    return ()

end Request

def runRequests (physical : Controller) (requests : List Request) : Driver Unit :=
  match requests with
  | [] => return ()
  | request :: requests => do
    request.run physical
    runRequests physical requests

/--
Requests, `stop` and the requests that come between the operations of `stop`.
-/
def powerRun (physical : Controller) (requests : List Request) (during after : Nat → List Request) :
    Driver Unit := do
  runRequests physical requests
  external .stopNubs
  Stop.toggleOff.interleave (fun n => runRequests physical (during n)) 0
  Stop.rest.interleave (fun n => runRequests physical (after n)) 0

end VoodooI2C
