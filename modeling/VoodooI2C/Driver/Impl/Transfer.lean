import VoodooI2C.Driver.Basic

/-!
This module contains the functions of `VoodooI2CControllerDriver` that run on the thread of a caller
and hold `i2c_bus_lock`: the transfers, the changes of the power state and the part of `start` that
programs the controller.
-/

namespace VoodooI2C

def toggleBusState (enabled : VoodooI2CState) : Driver IOReturn :=
  go 1000
where
  go (timeout : Nat) : Driver IOReturn := do
    writeRegister enabled.toWord .enable
    let status ← readRegister .enableStatus
    if status &&& 1 = enabled.toWord then
      return .success
    else
      match timeout with
      | 0 => return .timeout
      | timeout + 1 => go timeout

def toggleInterrupts (enabled : VoodooI2CState) : Driver Unit :=
  match enabled with
  | .off => writeRegister 0 .intrMask
  | .on => do
    let _ ← readRegister .clrIntr
    writeRegister intrDefaultMask .intrMask

def waitBusNotBusyI2C : Driver IOReturn :=
  go (20 * 150)
where
  go (timeout : Nat) : Driver IOReturn := do
    let status ← readRegister .status
    if status &&& statusActivity ≠ 0 then
      match timeout with
      | 0 => return .busy
      | timeout + 1 => go timeout
    else
      return .success

def initialiseBus : Driver IOReturn := do
  if (← toggleBusState .off) ≠ .success then
    return .error
  else
    let d ← device
    writeRegister d.acpiConfig.ssHcnt .ssSclHcnt
    writeRegister d.acpiConfig.ssLcnt .ssSclLcnt
    writeRegister d.acpiConfig.fsHcnt .fsSclHcnt
    writeRegister d.acpiConfig.fsLcnt .fsSclLcnt
    writeSdaHold d
    writeRegister (d.transactionFifoDepth / 2) .txTl
    writeRegister 0 .rxTl
    writeRegister d.busConfig .con
    return .success
where
  writeSdaHold (d : BusDevice) : Driver Unit :=
    if d.acpiConfig.sdaHold ≠ 0 then writeRegister d.acpiConfig.sdaHold .sdaHold else pure ()

def requestTransferI2C : Driver Unit := do
  let d ← device
  let messages := d.messages
  let _ ← disable d.accessIntrMaskWorkaround
  let orig ← readRegister .con
  let d ← device
  let m ← message messages d.messageWriteIndex
  let i2cConfiguration :=
    if m.IsTen then orig ||| con10bitaddrMaster else orig &&& ~~~con10bitaddrMaster
  let i2cTarget := if m.IsTen then tar10bitaddrMaster else 0
  writeConfiguration orig i2cConfiguration
  let d ← device
  let m ← message messages d.messageWriteIndex
  writeRegister (m.address.setWidth 32 ||| i2cTarget) .tar
  toggleInterrupts .off
  let _ ← toggleBusState .on
  let _ ← readRegister .enableStatus
  toggleInterrupts .on
where
  disable (accessIntrMaskWorkaround : Bool) : Driver IOReturn :=
    if accessIntrMaskWorkaround then initialiseBus else toggleBusState .off
  writeConfiguration (orig i2cConfiguration : Word) : Driver Unit :=
    if i2cConfiguration ≠ orig then writeRegister i2cConfiguration .con else pure ()

def prepareTransferI2C (messages : Pointer) (number : Nat) : Driver IOReturn := do
  reach (.prepareTransferI2C messages)
  let ret ← go
  reach .prepareTransferI2CReturns
  return ret
where
  go : Driver IOReturn := do
    let d ← device
    if ¬ d.awake then
      return .busy
    else if (← waitBusNotBusyI2C) ≠ .success then
      return .busy
    else
      update fun d => { d with messages := messages }
      update fun d => { d with messageNumber := number }
      update fun d => { d with commandError := 0 }
      update fun d => { d with messageWriteIndex := 0 }
      update fun d => { d with messageReadIndex := 0 }
      update fun d => { d with messageError := 0 }
      update fun d => { d with status := statusIdle }
      update fun d => { d with abortSource := 0 }
      update fun d => { d with receiveOutstanding := 0 }
      requestTransferI2C
      let sleep ← commandSleep
      if sleep = .timedOut then
        let _ ← initialiseBus
        return .timeout
      else
        let _ ← toggleBusState .off
        result
  result : Driver IOReturn := do
    let d ← device
    if d.messageError ≠ 0 then
      return .error
    else
      let d ← device
      if d.commandError = 0 then
        return .success
      else
        let d ← device
        if d.commandError = errTxAbrt then
          return .error
        else
          return .notReady

def transferI2CGated (messages : Pointer) (number : Nat) : Driver IOReturn :=
  go 5
where
  /-- The argument is the number of tries that are left after this one. -/
  go : Nat → Driver IOReturn
    | 0 => prepareTransferI2C messages number
    | tries + 1 => do
      let ret ← prepareTransferI2C messages number
      if ret ≠ .notReady then
        return ret
      else
        go tries

def transferI2C (messages : Pointer) (number : Nat) : Driver IOReturn :=
  transferI2CGated messages number

def startI2CInterrupt : Driver IOReturn := do
  let d ← device
  if d.isInterruptRegistered then
    return .stillOpen
  else
    let ret ← Interaction.Prog.perform Op.registerInterrupt
    if ret = .success then
      enableInterrupt
      update fun d => { d with isInterruptRegistered := true }
      return ret
    else
      return ret

def stopI2CInterrupt : Driver Unit := do
  let d ← device
  if d.isInterruptRegistered then
    disableInterrupt
    Interaction.Prog.perform Op.unregisterInterrupt
    update fun d => { d with isInterruptRegistered := false }
  else
    pure ()

/--
`forThis` says whether `whatDevice` is the driver itself.
-/
def setPowerState (whichState : Nat) (forThis : Bool) : Driver IOReturn :=
  if ¬ forThis then
    return .ackImplied
  else do
    change whichState
    return .ackImplied
where
  change (whichState : Nat) : Driver Unit := do
    let d ← device
    if whichState = 0 then
      if d.awake then powerOff else pure ()
    else
      if ¬ d.awake then powerOn else pure ()
  powerOff : Driver Unit := do
    update fun d => { d with awake := false }
    let _ ← toggleBusState .off
    stopI2CInterrupt
  powerOn : Driver Unit := do
    let _ ← toggleBusState .on
    let _ ← initialiseBus
    toggleInterrupts .off
    update fun d => { d with awake := true }
    let _ ← startI2CInterrupt

/--
The part of `start` that comes after `getBusConfig` and that accesses the controller.
-/
def startController : Driver Bool := do
  update fun d =>
    { d with busConfig := conMaster ||| conSlaveDisable ||| conRestartEn ||| conSpeedFast }
  let con ← readRegister .con
  keepBusClear con
  if (← initialiseBus) ≠ .success then
    return false
  else
    toggleInterrupts .off
    if (← startI2CInterrupt) ≠ .success then
      return false
    else
      return true
where
  keepBusClear (con : Word) : Driver Unit :=
    if con &&& conBusClearCtrl ≠ 0 then
      update fun d => { d with busConfig := d.busConfig ||| conBusClearCtrl }
    else
      pure ()

/--
What happens to the driver between `start` and `stop`: calls of `transferI2C` with a list that lives
until the call returns, changes of the power state, and losses of all register contents while the
driver sleeps.
-/
inductive Call where
  | transferI2C (messages : Pointer) (list : List BusMessage)
  | setPowerState (whichState : Nat) (forThis : Bool)
  | losePower

def Call.run (c : Call) : Driver Unit :=
  match c with
  | .transferI2C messages list => do
    let _ ← Interaction.Prog.perform (Op.beginTransfer messages list)
    let _ ← VoodooI2C.transferI2C messages list.length
    Interaction.Prog.perform Op.endTransfer
  | .setPowerState whichState forThis => do
    let _ ← VoodooI2C.setPowerState whichState forThis
  | .losePower => do
    let d ← device
    if ¬ d.awake then
      let _ ← Interaction.Prog.perform Op.losePower

/--
`i2c_bus_lock` is taken by every call before it does anything, so the calls of any number of threads
are a sequence.
-/
def runCalls (calls : List Call) : Driver Unit :=
  match calls with
  | [] => pure ()
  | c :: calls => do
    c.run
    runCalls calls

end VoodooI2C
