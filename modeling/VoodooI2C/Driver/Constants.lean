/-!
This module contains the registers of the controller, the bits of their values that the driver uses
and the codes that the driver and IOKit return. The names are those of
`VoodooI2CControllerConstants.hpp` without their prefix `DW_IC_`.
-/

namespace VoodooI2C

abbrev Byte := BitVec 8

abbrev Word := BitVec 32

inductive Register where
  | con
  | tar
  | dataCmd
  | ssSclHcnt
  | ssSclLcnt
  | fsSclHcnt
  | fsSclLcnt
  | intrStat
  | intrMask
  | rawIntrStat
  | rxTl
  | txTl
  | clrIntr
  | clrRxUnder
  | clrRxOver
  | clrTxOver
  | clrRdReq
  | clrTxAbrt
  | clrRxDone
  | clrActivity
  | clrStopDet
  | clrStartDet
  | clrGenCall
  | enable
  | status
  | txflr
  | rxflr
  | sdaHold
  | txAbrtSource
  | enableStatus
  deriving DecidableEq, Repr

def intrRxUnder : Word := 0x1
def intrRxOver : Word := 0x2
def intrRxFull : Word := 0x4
def intrTxOver : Word := 0x8
def intrTxEmpty : Word := 0x10
def intrRdReq : Word := 0x20
def intrTxAbrt : Word := 0x40
def intrRxDone : Word := 0x80
def intrActivity : Word := 0x100
def intrStopDet : Word := 0x200
def intrStartDet : Word := 0x400
def intrGenCall : Word := 0x800

def intrDefaultMask : Word := intrRxFull ||| intrTxAbrt ||| intrStopDet ||| intrTxEmpty

def errTxAbrt : Word := 0x1

def statusIdle : Word := 0x0
def statusWriteInProgress : Word := 0x1
def statusReadInProgress : Word := 0x2

def statusActivity : Word := 0x1

def conMaster : Word := 0x1
def conSpeedFast : Word := 0x4
def con10bitaddrMaster : Word := 0x10
def conRestartEn : Word := 0x20
def conSlaveDisable : Word := 0x40
def conBusClearCtrl : Word := 0x800

def tar10bitaddrMaster : Word := 0x1000

def i2cMRd : BitVec 16 := 0x0001
def i2cMTen : BitVec 16 := 0x0010

inductive IOReturn where
  | success
  | error
  | busy
  | timeout
  | notReady
  | stillOpen
  | noInterrupt
  | noResources
  | notFound
  | unsupported
  | unsupportedMode
  | deviceError
  | ackImplied
  deriving DecidableEq, Repr

inductive SleepResult where
  | awakened
  | timedOut
  | interrupted
  deriving DecidableEq, Repr

inductive VoodooI2CState where
  | off
  | on
  deriving DecidableEq, Repr

def VoodooI2CState.toWord : VoodooI2CState → Word
  | .off => 0
  | .on => 1

end VoodooI2C
