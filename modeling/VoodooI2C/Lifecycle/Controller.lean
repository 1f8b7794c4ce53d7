import VoodooI2C.Interaction.WP
import VoodooI2C.Power.Basic

/-!
This module contains `start`, `stop` and `setPowerState` of the physical controllers, `publishNub` and
the accesses to the mapped registers, with all objects that they retain and release.
-/

namespace VoodooI2C

namespace ControllerLifecycle

open Interaction

inductive PathProperty where
  | null
  | string
  | other
  deriving DecidableEq, Repr

inductive RegistryEntry where
  | null
  | acpiDevice
  | other
  deriving DecidableEq, Repr

/-- A pointer is true if it is set. -/
structure ProviderState where
  pointer : Bool
  retained : Bool
  opened : Bool
  registered : Bool
  deriving DecidableEq, Repr

structure NubState where
  pointer : Bool
  attached : Bool
  started : Bool
  deriving DecidableEq, Repr

/--
The members of `VoodooI2CController`. `path` and `entry` are about the objects that `getACPIDevice`
gets, `registered` holds from `registerPowerDriver` until `PMstop`.
-/
structure State where
  provider : ProviderState
  path : Bool
  entry : Bool
  acpiDevice : Bool
  legacyIntelLpss : Bool
  mmap : Bool
  nub : NubState
  awake : Bool
  deriving DecidableEq, Repr

inductive Op where
  | superStart
  | superStop
  | setProvider
  | provider
  | retainProvider
  | openProvider
  | closeProvider
  | releaseProvider
  | pmInit
  | joinPMtree
  | registerPowerDriver
  | pmStop
  | copyPath
  | releasePath
  | fromPath
  | releaseEntry
  | setACPIDevice (b : Bool)
  | acpiDevice
  | releaseACPIDevice
  | evaluateObject (method : String)
  | getLegacyIntelLpss
  | legacyIntelLpss
  | configurePCI
  | getDeviceMemoryCount
  | mapDeviceMemory
  | mmap
  | releaseMmap
  | getVirtualAddress
  | store (value : Word) (address : Nat)
  | allocNub
  | nub
  | initNub
  | attachNub
  | castController
  | startNub
  | registerNub
  | stopNub
  | detachNub
  | releaseNub
  | registerService
  | awake
  | setAwake (b : Bool)
  deriving DecidableEq, Repr

abbrev Op.Ans : Op → Type
  | .superStart | .provider | .openProvider | .acpiDevice | .getLegacyIntelLpss | .legacyIntelLpss
  | .mapDeviceMemory | .mmap | .allocNub | .nub | .initNub | .attachNub | .castController | .startNub
  | .awake => Bool
  | .copyPath => PathProperty
  | .fromPath => RegistryEntry
  | .getDeviceMemoryCount | .getVirtualAddress => Nat
  | .evaluateObject _ => IOReturn
  | _ => Unit

abbrev Life (α : Type) := Prog Op Op.Ans α

abbrev op (op : Op) : Life op.Ans := Prog.perform op

/-! The registers. -/

def mapMemory : Life IOReturn := do
  let count ← op .getDeviceMemoryCount
  if count = 0 then
    return .deviceError
  else
    if ¬ (← op .mapDeviceMemory) then
      return .deviceError
    else
      return .success

def unmapMemory : Life Unit := do
  if ← op .mmap then op .releaseMmap else return ()

def writeRegister (value : Word) (offset : Nat) : Life Unit := do
  if ← op .mmap then
    let address ← op .getVirtualAddress
    if address ≠ 0 then op (.store value (address + offset)) else return ()
  else
    return ()

/-! The nub. -/

namespace Nub

def attach : Life Bool := do
  -- a failure of `super::attach` is only logged
  let _ ← op .attachNub
  op .castController

def start : Life Bool := do
  if ¬ (← op .startNub) then
    return false
  else
    op .registerNub
    return true

def stop : Life Unit := op .stopNub

def detach : Life Unit := op .detachNub

end Nub

def releaseNub : Life Unit := do
  if ← op .nub then op .releaseNub else return ()

def publishNub : Life IOReturn := do
  if ¬ (← op .allocNub) then
    exit
  else if ¬ (← op .initNub) then
    exit
  else if ¬ (← Nub.attach) then
    exit
  else if ¬ (← Nub.start) then
    Nub.detach
    exit
  else
    return .success
where
  exit : Life IOReturn := do
    releaseNub
    return .error

/-! `VoodooI2CController`. -/

def releaseResources : Life Unit := do
  stopNub
  unmapMemory
  releaseProvider
  op .pmStop
where
  stopNub : Life Unit := do
    if ← op .nub then
      Nub.stop
      Nub.detach
      releaseNub
    else
      return ()
  releaseProvider : Life Unit := do
    if ← op .provider then
      op .closeProvider
      op .releaseProvider
    else
      return ()

namespace Base

def start : Life Bool := do
  if ¬ (← op .superStart) then
    releaseResources
    return false
  else
    op .setProvider
    op .pmInit
    op .joinPMtree
    op .registerPowerDriver
    op .retainProvider
    -- whether the provider could be opened makes no difference
    let _ ← op .openProvider
    return true

def stop : Life Unit := do
  releaseResources
  op .superStop

end Base

/-! `VoodooI2CPCIController` and `VoodooI2CACPIController`. -/

def getACPIDevice : Life IOReturn := do
  let path ← op .copyPath
  if path ≠ .string then
    releasePath path
    return .error
  else
    let entry ← op .fromPath
    op .releasePath
    -- the reference that `fromPath` returns becomes the one of `acpi_device`
    op (.setACPIDevice (entry = .acpiDevice))
    if entry ≠ .acpiDevice then
      releaseEntry entry
      return .error
    else
      return .success
where
  releasePath (path : PathProperty) : Life Unit :=
    if path ≠ .null then op .releasePath else return ()
  releaseEntry (entry : RegistryEntry) : Life Unit :=
    if entry ≠ .null then op .releaseEntry else return ()

def skylakeLPSSResetHack : Life Unit := writeRegister 7 0x204

def setClkGating (enabled : VoodooI2CState) : Life Unit := do
  if ¬ (← op .legacyIntelLpss) then return () else writeRegister enabled.toWord 0x800

def setACPIPowerState (enabled : VoodooI2CState) : Life Unit := do
  -- nobody uses what this returns
  match enabled with
  | .on =>
    let _ ← op (.evaluateObject "_PS0")
  | .off =>
    let _ ← op (.evaluateObject "_PS3")

def start : Controller → Life Bool
  | .pci => do
    if ¬ (← Base.start) then
      return false
    else if (← getACPIDevice) ≠ .success then
      return false
    else
      op .configurePCI
      publish skylakeLPSSResetHack
  | .acpi => do
    if ¬ (← Base.start) then
      return false
    else
      let _ ← op .getLegacyIntelLpss
      op (.setACPIDevice true)
      setACPIPowerState .on
      publish (setClkGating .on)
where
  /-- What both classes do in the end. -/
  publish (mapped : Life Unit) : Life Bool := do
    if (← mapMemory) ≠ .success then
      return false
    else
      mapped
      if (← publishNub) ≠ .success then
        return false
      else
        op .registerService
        return true

def stop : Controller → Life Unit
  | .pci => do
    releaseACPIDevice
    Base.stop
  | .acpi => do
    setClkGating .off
    setACPIPowerState .off
    Base.stop
where
  releaseACPIDevice : Life Unit := do
    if ← op .acpiDevice then op .releaseACPIDevice else return ()

def sleep : Controller → Life Unit
  | .pci => do
    op (.setAwake false)
    unmapMemory
  | .acpi => do
    op (.setAwake false)
    setClkGating .off
    unmapMemory
    setACPIPowerState .off

def wake : Controller → Life Unit
  | .pci => do
    op .configurePCI
    let _ ← mapMemory
    skylakeLPSSResetHack
    op (.setAwake true)
  | .acpi => do
    setACPIPowerState .on
    let _ ← mapMemory
    setClkGating .on
    op (.setAwake true)

/--
`forThis` says whether `whatDevice` is the controller itself.
-/
def setPowerState (controller : Controller) (whichState : Nat) (forThis : Bool) : Life IOReturn := do
  if ¬ forThis then
    return .ackImplied
  else
    change
    return .ackImplied
where
  change : Life Unit := do
    let awake ← op .awake
    if whichState = 0 then
      if awake then sleep controller else return ()
    else
      if ¬ awake then wake controller else return ()

def setPowerStates (controller : Controller) (requests : List (Nat × Bool)) : Life Unit :=
  match requests with
  | [] => return ()
  | (whichState, forThis) :: requests => do
    let _ ← setPowerState controller whichState forThis
    setPowerStates controller requests

def life (controller : Controller) (requests : List (Nat × Bool)) : Life Bool := do
  if ← start controller then
    setPowerStates controller requests
    -- there is no `stop` after a `start` that returned false
    stop controller
    return true
  else
    return false

namespace State

def admits (op : Op) (s : State) (r : op.Ans) : Prop :=
  match op, r with
  | .provider, b => b = s.provider.pointer
  | .acpiDevice, b => b = s.acpiDevice
  | .legacyIntelLpss, b => b = s.legacyIntelLpss
  | .mmap, b => b = s.mmap
  | .nub, b => b = s.nub.pointer
  -- the nub is attached to a `VoodooI2CController`
  | .castController, b => b = true
  | .awake, b => b = s.awake
  | _, _ => True

def next (op : Op) (s : State) (r : op.Ans) : State :=
  match op, r with
  | .setProvider, _ => { s with provider := { s.provider with pointer := true } }
  | .retainProvider, _ => { s with provider := { s.provider with retained := true } }
  | .openProvider, ok => { s with provider := { s.provider with opened := ok } }
  | .closeProvider, _ => { s with provider := { s.provider with opened := false } }
  | .releaseProvider, _ =>
    { s with provider := { s.provider with pointer := false, retained := false } }
  | .registerPowerDriver, _ => { s with provider := { s.provider with registered := true } }
  | .pmStop, _ => { s with provider := { s.provider with registered := false } }
  | .copyPath, path => { s with path := path ≠ .null }
  | .releasePath, _ => { s with path := false }
  | .fromPath, entry => { s with entry := entry ≠ .null }
  | .releaseEntry, _ => { s with entry := false }
  | .setACPIDevice b, _ => { s with acpiDevice := b }
  | .releaseACPIDevice, _ => { s with acpiDevice := false, entry := false }
  | .getLegacyIntelLpss, b => { s with legacyIntelLpss := b }
  | .mapDeviceMemory, ok => { s with mmap := ok }
  | .releaseMmap, _ => { s with mmap := false }
  | .allocNub, ok => { s with nub := { s.nub with pointer := ok } }
  | .attachNub, ok => { s with nub := { s.nub with attached := ok } }
  | .startNub, ok => { s with nub := { s.nub with started := ok } }
  | .stopNub, _ => { s with nub := { s.nub with started := false } }
  | .detachNub, _ => { s with nub := { s.nub with attached := false } }
  | .releaseNub, _ => { s with nub := { s.nub with pointer := false } }
  | .setAwake b, _ => { s with awake := b }
  | _, _ => s

def initial : State where
  provider := ⟨false, false, false, false⟩
  path := false
  entry := false
  acpiDevice := false
  legacyIntelLpss := false
  mmap := false
  nub := ⟨false, false, false⟩
  awake := true

end State

abbrev controllerWorld : World Op Op.Ans where
  State := State
  admits := fun op s r => State.admits op s r
  next := fun op s r => State.next op s r
  env := fun _ _ => False

end ControllerLifecycle

end VoodooI2C
