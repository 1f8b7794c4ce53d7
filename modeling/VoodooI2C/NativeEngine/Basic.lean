import VoodooI2C.Multitouch.Basic
import VoodooI2C.NativeEngine.ForceClick

/-!
This module contains `VoodooI2CNativeEngine`: the message that it makes of an event and sends to
`VoodooInput`, and the client that it sends it to.
-/

namespace VoodooI2C

namespace NativeEngine

/--
What `VoodooInput` defines, which is not part of the repository: the length of the array in its
messages and the values of its enumerations. Zeroed memory is of no finger type that has a name.
-/
structure VoodooInput where
  maxTransducers : Nat
  finger : Nat
  stylus : Nat
  fingerTypeIndexFinger : Nat
  fingerTypeThumb : Nat
  fingerTypePalm : Nat
  maxTransducers_pos : 0 < maxTransducers
  maxTransducers_lt : maxTransducers < 255
  thumb_ne_zero : fingerTypeThumb ≠ 0
  thumb_ne_palm : fingerTypeThumb ≠ fingerTypePalm
  thumb_ne_finger : ∀ i < 4, fingerTypeThumb ≠ fingerTypeIndexFinger + i

-- The time stamps of the values are not read.
structure TimeTrackedValue where
  current : BitVec 16
  last : BitVec 16
  deriving DecidableEq, Repr

def TimeTrackedValue.value (tracked : TimeTrackedValue) : BitVec 16 := tracked.current

inductive DigitiserTransducerType where
  | finger
  | stylus
  | puck
  deriving DecidableEq, Repr

structure DigitiserTransducer where
  type : DigitiserTransducerType
  secondaryId : BitVec 16
  isValid : Bool
  hasSecondaryButton : Bool
  physicalButton : TimeTrackedValue
  confidence : TimeTrackedValue
  tipSwitch : TimeTrackedValue
  tipPressure : TimeTrackedValue
  x : TimeTrackedValue
  y : TimeTrackedValue
  deriving DecidableEq, Repr

structure MultitouchEvent where
  contactCount : BitVec 8
  transducers : List DigitiserTransducer
  deriving DecidableEq, Repr

structure TouchCoordinates where
  x : BitVec 16
  y : BitVec 16
  width : BitVec 16
  pressure : BitVec 16
  deriving DecidableEq, Repr

/--
The fields have what is assigned to them, their own types are those of `VoodooInput`. Only
`isValid` and `currentCoordinates.y` are read again.
-/
structure InputTransducer where
  timestamp : BitVec 64
  secondaryId : BitVec 16
  type : Nat
  fingerType : Nat
  isValid : Bool
  isTransducerActive : BitVec 16
  isPhysicalButtonDown : Bool
  supportsPressure : Bool
  currentCoordinates : TouchCoordinates
  previousCoordinates : TouchCoordinates
  deriving DecidableEq, Repr

def InputTransducer.zero : InputTransducer :=
  ⟨0, 0, 0, 0, false, 0, false, false, ⟨0, 0, 0, 0⟩, ⟨0, 0, 0, 0⟩⟩

-- Behind the array of transducers are other fields of the engine.
structure InputEvent where
  timestamp : BitVec 64
  contactCount : BitVec 8
  transducers : Nat → InputTransducer

inductive Message where
  | voodooInput (timestamp : BitVec 64) (contactCount : BitVec 8) (transducers : List InputTransducer)
  | relativePointer (dx dy : Int) (buttons : BitVec 16) (timestamp : BitVec 64)
  deriving DecidableEq, Repr

structure Engine (Client : Type) where
  message : InputEvent
  voodooInputInstance : Option Client
  forceClick : ForceClick
  stylusCheck : Nat
  references : Client → Int

variable (v : VoodooInput) (absolutetimeToNanoseconds : BitVec 64 → BitVec 64)

/-! The loop that fills the message. -/

/--
The arguments of `handleInterruptReport` with what `isForceClickEnabled` finds if it is called for
the contact with an index.
-/
structure Report where
  event : MultitouchEvent
  timestamp : BitVec 64
  readings : Nat → Reading

namespace Report

variable (report : Report)

/-- What the loop changes, and the indices of `message.transducers` that it accesses. -/
structure Fill where
  transducers : Nat → InputTransducer
  validTouchCount : Nat
  forceClick : ForceClick
  accesses : List Nat

def fingerType (i : Nat) (transducer : DigitiserTransducer) : Nat :=
  if transducer.confidence.value = 0 then
    v.fingerTypePalm
  else
    v.fingerTypeIndexFinger + i % 4

def inputTransducer (i : Nat) (transducer : DigitiserTransducer) : InputTransducer where
  timestamp := report.timestamp
  secondaryId := transducer.secondaryId
  type := if transducer.type = .finger then v.finger else v.stylus
  fingerType := fingerType v i transducer
  isValid := transducer.isValid
  isTransducerActive := transducer.tipSwitch.value
  isPhysicalButtonDown := !transducer.hasSecondaryButton && transducer.physicalButton.value != 0
  supportsPressure := false
  currentCoordinates :=
    ⟨transducer.x.value, transducer.y.value, transducer.tipPressure.value / 2,
      transducer.tipPressure.value⟩
  previousCoordinates :=
    ⟨transducer.x.last, transducer.y.last, transducer.tipPressure.last / 2,
      transducer.tipPressure.last⟩

def emulateForceTouch (slot : InputTransducer) : InputTransducer :=
  { slot with
    supportsPressure := true
    isPhysicalButtonDown := false
    currentCoordinates := { slot.currentCoordinates with pressure := 0xff, width := 10 } }

-- `isForceClickEnabled` is called only if the button of a trackpad with one button is down.
def forced (firstTransducer : DigitiserTransducer) (forceClick : ForceClick) (i : Nat) :
    Bool × ForceClick :=
  if !firstTransducer.hasSecondaryButton && firstTransducer.physicalButton.value != 0 then
    forceClick.isForceClickEnabled absolutetimeToNanoseconds (report.readings i)
  else
    (false, forceClick)

def slot (i : Nat) (transducer : DigitiserTransducer) (forced : Bool) : InputTransducer :=
  if forced then
    emulateForceTouch (report.inputTransducer v i transducer)
  else
    report.inputTransducer v i transducer

def store (transducers : Nat → InputTransducer) (i : Nat) (slot : InputTransducer) (j : Nat) :
    InputTransducer :=
  if j = i then slot else transducers j

def fillStep (firstTransducer : DigitiserTransducer) (stylusCheck : Nat) (fill : Fill) (i : Nat) :
    Fill :=
  match report.event.transducers[i + stylusCheck]? with
  | none => fill
  | some transducer =>
    let (forced, forceClick) := report.forced absolutetimeToNanoseconds firstTransducer
      fill.forceClick i
    { transducers := store fill.transducers i (report.slot v i transducer forced)
      validTouchCount := fill.validTouchCount + if transducer.isValid then 1 else 0
      forceClick := forceClick
      accesses := fill.accesses ++ [i] }

-- The first `n` iterations.
def fill (firstTransducer : DigitiserTransducer) (stylusCheck : Nat) (start : Fill) : Nat → Fill
  | 0 => start
  | n + 1 =>
    report.fillStep v absolutetimeToNanoseconds firstTransducer stylusCheck
      (fill firstTransducer stylusCheck start n) n

end Report

/-! The search for the thumb. -/

-- `y_max` and `thumb_index` after the first `n` iterations.
def thumbSearch (transducers : Nat → InputTransducer) : Nat → BitVec 32 × Nat
  | 0 => (0, 0)
  | n + 1 =>
    let (yMax, thumbIndex) := thumbSearch transducers n
    if (transducers n).isValid ∧ yMax ≤ (transducers n).currentCoordinates.y.setWidth 32 then
      ((transducers n).currentCoordinates.y.setWidth 32, n)
    else
      (yMax, thumbIndex)

def setThumb (transducers : Nat → InputTransducer) (n : Nat) : Nat → InputTransducer :=
  let thumbIndex := (thumbSearch transducers n).2
  Report.store transducers thumbIndex
    { transducers thumbIndex with fingerType := v.fingerTypeThumb }

namespace Engine

variable {Client : Type} (engine : Engine Client)

structure Outcome (Client : Type) where
  engine : Engine Client
  ret : MultitouchReturn
  messages : List Message
  accesses : List Nat

-- `memset` of the array
def clearTransducers (transducers : Nat → InputTransducer) (i : Nat) : InputTransducer :=
  if i < v.maxTransducers then .zero else transducers i

def checkStylus (firstTransducer : DigitiserTransducer) : Nat :=
  if firstTransducer.type = .stylus then 1 else engine.stylusCheck

def startFill : Report.Fill where
  transducers := clearTransducers v engine.message.transducers
  validTouchCount := 0
  forceClick := engine.forceClick
  accesses := []

def filled (report : Report) (firstTransducer : DigitiserTransducer) : Report.Fill :=
  report.fill v absolutetimeToNanoseconds firstTransducer (engine.checkStylus firstTransducer)
    (engine.startFill v) report.event.contactCount.toNat

def takesThumb (firstTransducer : DigitiserTransducer) (fill : Report.Fill) : Bool :=
  4 ≤ fill.validTouchCount || firstTransducer.physicalButton.value != 0

def sendMessages (report : Report) (firstTransducer : DigitiserTransducer)
    (transducers : Nat → InputTransducer) : List Message :=
  .voodooInput report.timestamp report.event.contactCount
      ((List.range v.maxTransducers).map transducers)
    :: if firstTransducer.hasSecondaryButton then
      [.relativePointer 0 0 firstTransducer.physicalButton.value report.timestamp]
    else
      []

def handleInterruptReport (report : Report) : Outcome Client :=
  if engine.voodooInputInstance.isNone then
    ⟨engine, multitouchReturnContinue, [], []⟩
  else
    match report.event.transducers[0]? with
    | none =>
      let message :=
        ⟨report.timestamp, report.event.contactCount,
          clearTransducers v engine.message.transducers⟩
      ⟨{ engine with message }, multitouchReturnBreak, [], []⟩
    | some firstTransducer =>
      let contactCount := report.event.contactCount.toNat
      let fill := engine.filled v absolutetimeToNanoseconds report firstTransducer
      let takesThumb := takesThumb firstTransducer fill
      let transducers :=
        if takesThumb then setThumb v fill.transducers contactCount else fill.transducers
      let thumbAccesses :=
        if takesThumb then
          List.range contactCount ++ [(thumbSearch fill.transducers contactCount).2]
        else
          []
      { engine :=
          { engine with
            message := ⟨report.timestamp, report.event.contactCount, transducers⟩
            forceClick := fill.forceClick
            stylusCheck := engine.checkStylus firstTransducer }
        ret := multitouchReturnBreak
        messages := sendMessages v report firstTransducer transducers
        accesses := fill.accesses ++ thumbAccesses }

def start : Engine Client :=
  { engine with voodooInputInstance := none, stylusCheck := 0 }

/-! The client. `identified` tells whether a client has the property `VOODOO_INPUT_IDENTIFIER`. -/

variable [DecidableEq Client] (identified : Client → Bool)

def addReference (client : Client) (n : Int) : Engine Client :=
  { engine with
    references := fun c => if c = client then engine.references c + n else engine.references c }

def handleOpen (forClient : Option Client) : Bool × Engine Client :=
  match forClient with
  | none => (false, engine)
  | some client =>
    if identified client then
      (true, { engine with voodooInputInstance := some client }.addReference client 1)
    else
      (false, engine)

def handleIsOpen (forClient : Option Client) : Bool :=
  engine.voodooInputInstance.isSome && forClient == engine.voodooInputInstance

def handleClose (forClient : Option Client) : Engine Client :=
  match engine.voodooInputInstance with
  | none => engine
  | some client =>
    if forClient = some client then
      { engine.addReference client (-1) with voodooInputInstance := none }
    else
      engine

/-! Runs of the engine. -/

inductive Call (Client : Type) where
  | handleOpen (forClient : Option Client)
  | handleClose (forClient : Option Client)
  | handleInterruptReport (report : Report)

def call (engine : Engine Client) : Call Client → Engine Client
  | .handleOpen forClient => (engine.handleOpen identified forClient).2
  | .handleClose forClient => engine.handleClose forClient
  | .handleInterruptReport report =>
    (engine.handleInterruptReport v absolutetimeToNanoseconds report).engine

def run (engine : Engine Client) (calls : List (Call Client)) : Engine Client :=
  calls.foldl (call v absolutetimeToNanoseconds identified) engine

end Engine

end NativeEngine

end VoodooI2C
