import VoodooI2C.Driver.Constants
import VoodooI2C.Interaction.Threads

/-!
This module contains `start`, `stop` and `setPowerState` of `VoodooI2CControllerDriver` with the
resources that they acquire and release. Accesses to the controller are operations that may have any
result, power management runs on a thread of its own.
-/

namespace VoodooI2C

namespace Lifecycle

open Interaction

inductive Lock where
  | none
  | allocated
  | freed
  deriving DecidableEq, Repr

/--
`registered` holds from `registerPowerDriver` until `PMstop`, `published` from `registerService` on.
`taken` is what the lock was whenever it was taken.
-/
structure State where
  lock : Lock
  workLoop : Bool
  commandGate : Bool
  registered : Bool
  interruptRegistered : Bool
  awake : Bool
  published : Bool
  taken : List Lock
  deriving DecidableEq, Repr

inductive Op where
  | superStart
  | superStop
  | lockAlloc
  | lockPointer
  | lockLock
  | lockUnlock
  | lockFree
  | getWorkLoop
  | retainWorkLoop
  | releaseWorkLoop
  | makeCommandGate
  | commandGate
  | addEventSource
  | removeEventSource
  | releaseCommandGate
  | pmInit
  | joinPMtree
  | registerPowerDriver
  | pmStop
  | getBusConfig
  | setBusConfig
  | initialiseBus
  | toggleBusState (enabled : VoodooI2CState)
  | toggleInterrupts (enabled : VoodooI2CState)
  | isInterruptRegistered
  | setInterruptRegistered (b : Bool)
  | registerInterrupt
  | enableInterrupt
  | disableInterrupt
  | unregisterInterrupt
  | awake
  | setAwake (b : Bool)
  | registerService
  | publishNubs
  | stopNubs
  deriving DecidableEq, Repr

abbrev Op.Ans : Op → Type
  | .superStart | .lockAlloc | .lockPointer | .getWorkLoop | .makeCommandGate | .commandGate
  | .isInterruptRegistered | .awake => Bool
  | .addEventSource | .getBusConfig | .initialiseBus | .registerInterrupt => IOReturn
  | _ => Unit

abbrev Life (α : Type) := Prog Op Op.Ans α

abbrev op (op : Op) : Life op.Ans := Prog.perform op

def startI2CInterrupt : Life IOReturn := do
  if ← op .isInterruptRegistered then
    return .stillOpen
  else
    let ret ← op .registerInterrupt
    if ret = .success then
      op .enableInterrupt
      op (.setInterruptRegistered true)
      return ret
    else
      return ret

def stopI2CInterrupt : Life Unit := do
  if ← op .isInterruptRegistered then
    op .disableInterrupt
    op .unregisterInterrupt
    op (.setInterruptRegistered false)
  else
    return ()

def releaseResources : Life Unit := do
  stopI2CInterrupt
  removeGate
  op .releaseCommandGate
  op .releaseWorkLoop
  -- the pointer still is what it was after the lock is freed
  if ← op .lockPointer then
    op .lockFree
  else
    return ()
where
  removeGate : Life Unit := do
    if ← op .commandGate then op .removeEventSource else return ()

def start : Life Bool := do
  if ¬ (← op .superStart) then
    return false
  else if ¬ (← op .lockAlloc) then
    exit
  else if ¬ (← op .getWorkLoop) then
    exit
  else
    op .retainWorkLoop
    if ¬ (← op .makeCommandGate) then
      exit
    else if (← op .addEventSource) ≠ .success then
      exit
    else
      op .pmInit
      op .joinPMtree
      op .registerPowerDriver
      if (← op .getBusConfig) ≠ .success then
        exit
      else
        op .setBusConfig
        if (← op .initialiseBus) ≠ .success then
          return false
        else
          op (.toggleInterrupts .off)
          if (← startI2CInterrupt) ≠ .success then
            exit
          else
            op .registerService
            op .publishNubs
            return true
where
  exit : Life Bool := do
    releaseResources
    return false

def stop : Life Unit := do
  op .stopNubs
  toggleOff
  releaseResources
  op .pmStop
  op .superStop
where
  toggleOff : Life Unit := do
    if ← op .awake then op (.toggleBusState .off) else return ()

/--
`forThis` says whether `whatDevice` is the driver itself.
-/
def setPowerState (whichState : Nat) (forThis : Bool) : Life Unit :=
  if ¬ forThis then
    return ()
  else do
    op .lockLock
    change
    op .lockUnlock
where
  change : Life Unit := do
    let awake ← op .awake
    if whichState = 0 then
      if awake then powerOff else return ()
    else
      if ¬ awake then powerOn else return ()
  powerOff : Life Unit := do
    op (.setAwake false)
    op (.toggleBusState .off)
    stopI2CInterrupt
  powerOn : Life Unit := do
    op (.toggleBusState .on)
    let _ ← op .initialiseBus
    op (.toggleInterrupts .off)
    op (.setAwake true)
    let _ ← startI2CInterrupt

def startStop : Life Bool := do
  let started ← start
  if started then
    -- `stop` is called only after a `start` that returned true
    stop
    return started
  else
    return started

namespace State

def admits (op : Op) (s : State) (r : op.Ans) : Prop :=
  match op, r with
  | .lockPointer, b => b = decide (s.lock ≠ .none)
  | .commandGate, b => b = s.commandGate
  | .isInterruptRegistered, b => b = s.interruptRegistered
  | .awake, b => b = s.awake
  | _, _ => True

def next (op : Op) (s : State) (r : op.Ans) : State :=
  match op, r with
  | .lockAlloc, ok => { s with lock := if ok then .allocated else .none }
  | .lockLock, _ => { s with taken := s.taken ++ [s.lock] }
  | .lockFree, _ => { s with lock := .freed }
  | .getWorkLoop, ok => { s with workLoop := ok }
  | .releaseWorkLoop, _ => { s with workLoop := false }
  | .makeCommandGate, ok => { s with commandGate := ok }
  | .releaseCommandGate, _ => { s with commandGate := false }
  | .registerPowerDriver, _ => { s with registered := true }
  | .pmStop, _ => { s with registered := false }
  | .setInterruptRegistered b, _ => { s with interruptRegistered := b }
  | .setAwake b, _ => { s with awake := b }
  | .registerService, _ => { s with published := true }
  | _, _ => s

def initial : State where
  lock := .none
  workLoop := false
  commandGate := false
  registered := false
  interruptRegistered := false
  awake := true
  published := false
  taken := []

end State

abbrev lifecycle : World Op Op.Ans where
  State := State
  admits := fun op s r => State.admits op s r
  next := fun op s r => State.next op s r
  env := fun _ _ => False

/--
Power management calls `setPowerState` at any moment while the driver is registered.
-/
def calls (s : State) (p : Life Unit) : Prop :=
  s.registered = true ∧ ∃ whichState forThis, p = setPowerState whichState forThis

end Lifecycle

end VoodooI2C
