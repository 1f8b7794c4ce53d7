import VoodooI2C.Interaction.Eval
import VoodooI2C.OrderedSet

/-!
This module contains `VoodooI2CMultitouchInterface`: the engines that have opened it and the reports
that they get.
-/

namespace VoodooI2C

open Interaction

abbrev MultitouchReturn := BitVec 32

def multitouchReturnContinue : MultitouchReturn := 0x0
def multitouchReturnBreak : MultitouchReturn := 0x1

namespace Multitouch

variable {Engine : Type} [DecidableEq Engine] (getScore : Engine → BitVec 8)

def orderEngines (a b : Engine) : Int :=
  if getScore a > getScore b then 1
  else if getScore a < getScore b then -1
  else 0

def handleOpen (engines : List Engine) (forClient : Option Engine) : Bool × List Engine :=
  match forClient with
  -- after the `OSDynamicCast` a client that is not an engine is `none`
  | none => (false, engines)
  | some engine => (true, OrderedSet.setObject (orderEngines getScore) engines engine)

def handleClose (engines : List Engine) (forClient : Option Engine) : List Engine :=
  match forClient with
  | none => engines
  | some engine => OrderedSet.removeObject engines engine

def handleInterruptReport (engines : List Engine) : Prog Engine (fun _ => MultitouchReturn) Unit :=
  match engines with
  | [] => return ()
  | engine :: engines => do
    -- what an engine returns is up to it
    let ret ← Prog.perform engine
    if ret = multitouchReturnBreak then
      return ()
    else
      handleInterruptReport engines

/-! Runs of the interface. -/

inductive Request (Engine : Type) where
  | handleOpen (forClient : Option Engine)
  | handleClose (forClient : Option Engine)

def Request.run (engines : List Engine) (request : Request Engine) : List Engine :=
  match request with
  | .handleOpen forClient => (Multitouch.handleOpen getScore engines forClient).2
  | .handleClose forClient => Multitouch.handleClose engines forClient

def runRequests (requests : List (Request Engine)) : List Engine :=
  requests.foldl (Request.run getScore) []

end Multitouch

end VoodooI2C
