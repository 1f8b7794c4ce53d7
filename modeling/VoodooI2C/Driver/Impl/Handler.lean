import VoodooI2C.Driver.Basic

/-!
This module contains the functions of `VoodooI2CControllerDriver` that run in interrupt context.
-/

namespace VoodooI2C

def clearInterrupt (stat bit : Word) (reg : Register) : Driver Unit := do
  if stat &&& bit ≠ 0 then
    let _ ← readRegister reg

def readClearInterruptBits : Driver Word := do
  let stat ← readRegister .intrStat
  clear stat
  return stat
where
  clear (stat : Word) : Driver Unit := do
    clearInterrupt stat intrRxUnder .clrRxUnder
    clearInterrupt stat intrRxOver .clrRxOver
    clearInterrupt stat intrTxOver .clrTxOver
    clearInterrupt stat intrRdReq .clrRdReq
    clearTxAbrt stat
    clearInterrupt stat intrRxDone .clrRxDone
    clearInterrupt stat intrActivity .clrActivity
    clearStopDet stat
    clearInterrupt stat intrStartDet .clrStartDet
    clearInterrupt stat intrGenCall .clrGenCall
  clearTxAbrt (stat : Word) : Driver Unit := do
    if stat &&& intrTxAbrt ≠ 0 then
      let source ← readRegister .txAbrtSource
      update fun d => { d with abortSource := source }
      let _ ← readRegister .clrTxAbrt
  clearStopDet (stat : Word) : Driver Unit := do
    let d ← device
    if stat &&& intrStopDet ≠ 0 ∧ (d.receiveOutstanding = 0 ∨ stat &&& intrRxFull ≠ 0) then
      let _ ← readRegister .clrStopDet

def readFromBus : Driver Unit := do
  reach .readFromBus
  let d ← device
  go d.messages (d.messageNumber - d.messageReadIndex)
where
  /-- The first argument bounds the iterations: each of them but the last increments
  `message_read_index`. -/
  go (messages : Pointer) : Nat → Driver Unit
    | 0 => pure ()
    | iterations + 1 => do
      let d ← device
      if d.messageReadIndex < d.messageNumber then
        let m ← message messages d.messageReadIndex
        if ¬ m.IsRead then
          update fun d => { d with messageReadIndex := d.messageReadIndex + 1 }
          go messages iterations
        else
          let length := if ¬ d.ReadInProgress then m.length.toNat else d.receiveBufferLength
          let buffer := if ¬ d.ReadInProgress then m.buffer else d.receiveBuffer
          let receiveValid ← readRegister .rxflr
          let (length, buffer) ← collect length buffer receiveValid.toInt
          if length > 0 then
            update fun d => { d with status := d.status ||| statusReadInProgress }
            update fun d => { d with receiveBufferLength := length }
            update fun d => { d with receiveBuffer := buffer }
          else
            update fun d => { d with status := d.status &&& ~~~statusReadInProgress }
            update fun d => { d with messageReadIndex := d.messageReadIndex + 1 }
            go messages iterations
      else
        pure ()
  collect : (length : Nat) → (buffer : Address) → (receiveValid : Int) → Driver (Nat × Address)
    | 0, buffer, _ => pure (0, buffer)
    | length + 1, buffer, receiveValid =>
      if receiveValid > 0 then do
        let value ← readRegister .dataCmd
        store buffer (value.setWidth 8)
        update fun d => { d with receiveOutstanding := d.receiveOutstanding - 1 }
        collect length (buffer + 1) (receiveValid - 1)
      else
        pure (length + 1, buffer)

def transferMessageToBus : Driver Unit := do
  reach .transferMessageToBus
  let d ← device
  let messages := d.messages
  let m ← message messages d.messageWriteIndex
  go messages m.address (d.messageNumber - d.messageWriteIndex) d.transactionBuffer
    d.transactionBufferLength false
  let d ← device
  let interruptMask :=
    if d.messageWriteIndex = d.messageNumber then intrDefaultMask &&& ~~~intrTxEmpty
    else intrDefaultMask
  let interruptMask := if d.messageError ≠ 0 then 0 else interruptMask
  writeRegister interruptMask .intrMask
where
  /-- As in `readFromBus`, the number bounds the iterations. -/
  go (messages : Pointer) (address : BitVec 16) :
      Nat → (buffer : Address) → (bufferLength : Nat) → (needRestart : Bool) → Driver Unit
    | 0, _, _, _ => pure ()
    | iterations + 1, buffer, bufferLength, needRestart => do
      let d ← device
      if d.messageWriteIndex < d.messageNumber then
        let m ← message messages d.messageWriteIndex
        if m.address ≠ address then
          update fun d => { d with messageError := -1 }
        else if m.length = 0 then
          update fun d => { d with messageError := -1 }
        else
          let buffer := if ¬ d.WriteInProgress then m.buffer else buffer
          let bufferLength := if ¬ d.WriteInProgress then m.length.toNat else bufferLength
          let needRestart :=
            if ¬ d.WriteInProgress ∧ d.busConfig &&& conRestartEn ≠ 0 ∧ d.messageWriteIndex > 0
            then true else needRestart
          let txflr ← readRegister .txflr
          let rxflr ← readRegister .rxflr
          let transactionLimit := (d.transactionFifoDepth - txflr).toInt
          let receiveLimit := (d.receiveFifoDepth - rxflr).toInt
          let (buffer, bufferLength, needRestart) ←
            issue messages bufferLength buffer needRestart transactionLimit receiveLimit
          update fun d => { d with transactionBuffer := buffer }
          update fun d => { d with transactionBufferLength := bufferLength }
          if bufferLength > 0 then
            update fun d => { d with status := d.status ||| statusWriteInProgress }
          else
            update fun d => { d with status := d.status &&& ~~~statusWriteInProgress }
            update fun d => { d with messageWriteIndex := d.messageWriteIndex + 1 }
            go messages address iterations buffer bufferLength needRestart
      else
        pure ()
  issue (messages : Pointer) : (bufferLength : Nat) → (buffer : Address) → (needRestart : Bool) →
      (transactionLimit receiveLimit : Int) → Driver (Address × Nat × Bool)
    | 0, buffer, needRestart, _, _ => pure (buffer, 0, needRestart)
    | bufferLength + 1, buffer, needRestart, transactionLimit, receiveLimit =>
      if transactionLimit > 0 ∧ receiveLimit > 0 then do
        let d ← device
        let command : Word :=
          if d.messageWriteIndex = d.messageNumber - 1 ∧ bufferLength + 1 = 1 then 0x200 else 0
        let command := if needRestart then command ||| 0x400 else command
        let m ← message messages d.messageWriteIndex
        if m.IsRead then
          if receiveLimit - d.receiveOutstanding ≤ 0 then
            -- the restart bit of the command that is not written gets lost here
            pure (buffer, bufferLength + 1, false)
          else
            writeRegister (command ||| 0x100) .dataCmd
            update fun d => { d with receiveOutstanding := d.receiveOutstanding + 1 }
            issue messages bufferLength buffer false (transactionLimit - 1) (receiveLimit - 1)
        else
          let byte ← load buffer
          writeRegister (command ||| byte.setWidth 32) .dataCmd
          issue messages bufferLength (buffer + 1) false (transactionLimit - 1) receiveLimit
      else
        pure (buffer, bufferLength + 1, needRestart)

/--
The part of `handleInterrupt` between the checks of the registers and the label `exit`.
-/
def serviceInterrupt : Driver Unit := do
  let status ← readClearInterruptBits
  if status &&& intrTxAbrt ≠ 0 then
    abort
    wakeup status
  else
    receive status
    send status
    wakeup status
where
  abort : Driver Unit := do
    update fun d => { d with commandError := d.commandError ||| errTxAbrt }
    update fun d => { d with status := statusIdle }
    update fun d => { d with receiveOutstanding := 0 }
    writeRegister 0 .intrMask
  receive (status : Word) : Driver Unit :=
    if status &&& intrRxFull ≠ 0 then readFromBus else pure ()
  send (status : Word) : Driver Unit :=
    if status &&& intrTxEmpty ≠ 0 then transferMessageToBus else pure ()
  wakeup (status : Word) : Driver Unit := do
    let d ← device
    if (status &&& (intrTxAbrt ||| intrStopDet) ≠ 0 ∨ d.messageError ≠ 0) ∧ d.receiveOutstanding = 0
    then
      commandWakeup
    else if d.accessIntrMaskWorkaround then
      let status ← readRegister .intrMask
      writeRegister 0 .intrMask
      writeRegister status .intrMask

def handleInterrupt : Driver Unit := do
  disableInterrupt
  body
  enableInterrupt
where
  /-- What comes before the label `exit`. -/
  body : Driver Unit := do
    let d ← device
    if d.awake then
      let enabled ← readRegister .enable
      let status ← readRegister .rawIntrStat
      if ¬ (enabled = 0 ∨ status &&& ~~~intrActivity = 0 ∨ status = 0xFFFFFFFF) then
        serviceInterrupt

end VoodooI2C
