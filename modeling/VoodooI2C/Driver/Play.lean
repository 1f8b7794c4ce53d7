import VoodooI2C.Hardware.Fifo
import VoodooI2C.Interaction.Play
import VoodooI2C.Driver.System
import VoodooI2C.Driver.Impl.Handler
import VoodooI2C.Driver.Impl.Transfer

/-!
This module contains a player for the driver of a controller with FIFOs and the state of the driver
after `start`.
-/

namespace VoodooI2C

open Interaction

def Memory.put (memory : Memory) (list : List BusMessage) : Memory :=
  { memory with message := fun _ i => list.getD i ⟨0, 0, 0, 0⟩ }

theorem Memory.put_message {memory : Memory} {list : List BusMessage} {p : Pointer} (i : Nat)
    (m : BusMessage) (h : list[i]? = some m) : (memory.put list).message p i = m := by
  unfold Memory.put
  dsimp only
  rw [List.getD_eq_getElem?_getD, h, Option.getD_some]

structure Script (H : Hardware) where
  answer : Register → H.State → Word
  move : H.State → Option H.State
  canRead_answer : ∀ reg h, H.canRead reg h (answer reg h)
  step_move : ∀ h h', move h = some h' → H.step h h'

/--
The next command is executed, every read command gets the byte `0x5A`.
-/
def Fifo.script (txDepth rxDepth : Word) : Script (fifo txDepth rxDepth) where
  answer := Fifo.answer
  move h := h.tx.head?.map fun c => Fifo.execute rxDepth.toNat c 0x5A h
  canRead_answer := Fifo.canRead_answer
  step_move h h' heq := by
    rcases Option.map_eq_some_iff.mp heq with ⟨c, hc, rfl⟩
    exact .execute hc

namespace Script

variable {H : Hardware} (script : Script H)

def prompt [RegisterFile H]
    (hstatus : ∀ h, script.answer .enableStatus h &&& 1 = RegisterFile.value h .enable &&& 1) :
    Script H.prompt where
  answer := script.answer
  move := script.move
  canRead_answer reg h := by
    refine ⟨script.canRead_answer reg h, ?_⟩
    rintro rfl
    apply hstatus
  step_move := script.step_move

/--
`sleep` is the result of a sleep that nothing has ended.
-/
def respond (sleep : SleepResult) (op : Op) (s : State H) : op.Ans :=
  match op with
  | .readRegister reg => script.answer reg s.hw
  | .device => s.device
  | .physicalDevice => s.physical
  | .getDeviceMemoryCount => 1
  | .mapDeviceMemory => true
  | .message messages i => s.memory.message messages i
  | .load a => s.memory.byte a
  | .leaveSleep => if s.sleeper = .woken then .awakened else sleep
  | .registerInterrupt => .success
  | .beginTransfer _ list => s.memory.put list
  | .losePower => fun _ => 0xFFFFFFFF
  | .writeRegister _ _ | .update _ | .store _ _ | .enterSleep | .commandWakeup | .disableInterrupt
  | .enableInterrupt | .unregisterInterrupt | .reach _ | .endTransfer | .updatePhysicalDevice _
  | .external _ => ()

theorem admits_respond {sleep : SleepResult} (hsleep : sleep ≠ .awakened) (op : Op) (s : State H) :
    State.admits op s (script.respond sleep op s) := by
  cases op with
  | readRegister reg => apply script.canRead_answer
  | leaveSleep =>
    unfold State.admits respond
    dsimp only
    split
    . simp [*]
    . simp [*]
  | beginTransfer messages list =>
    intro i m h
    apply Memory.put_message i m h
  | device | physicalDevice | message _ _ | load _ => rfl
  | _ => trivial

def player (sleep : SleepResult) (hsleep : sleep ≠ .awakened) : Player (system H) where
  answer op s := some (script.respond sleep op s)
  move s := (script.move s.hw).map fun hw => { s with hw := hw }
  admits_answer op s r h := by
    injection h with h
    rw [← h]
    apply script.admits_respond hsleep
  env_move s s' h := by
    rcases Option.map_eq_some_iff.mp h with ⟨hw, hhw, rfl⟩
    exact ⟨hw, script.step_move _ _ hhw, rfl⟩

end Script

theorem SleepResult.timedOut_ne : SleepResult.timedOut ≠ .awakened := by simp

theorem SleepResult.interrupted_ne : SleepResult.interrupted ≠ .awakened := by simp

def nextWrite {α : Type} (p : Driver α) : Option (Word × Register) :=
  match p with
  | .call (.writeRegister v reg) _ => some (v, reg)
  | _ => none

theorem call_of_nextWrite {α : Type} {p : Driver α} {v : Word} {reg : Register}
    (h : nextWrite p = some (v, reg)) : ∃ k, p = .call (.writeRegister v reg) k := by
  unfold nextWrite at h
  split at h
  . next k =>
    simp only [Option.some.injEq, Prod.mk.injEq] at h
    rcases h with ⟨rfl, rfl⟩
    exact ⟨k, rfl⟩
  . contradiction

/-! A controller with FIFOs of two entries. -/

abbrev smallFifo : Hardware := fifo 2 2

def smallScript : Script smallFifo := Fifo.script 2 2

def interruptedPlayer : Player (system smallFifo) := smallScript.player .interrupted SleepResult.interrupted_ne

def timeoutPlayer : Player (system smallFifo) := smallScript.player .timedOut SleepResult.timedOut_ne

def bootDevice : BusDevice where
  abortSource := 0
  acpiConfig := ⟨0x48, 0x13, 0x4F, 0x19, 0x9⟩
  awake := true
  busConfig := 0
  commandError := 0
  messages := 0
  messageError := 0
  messageNumber := 0
  messageReadIndex := 0
  messageWriteIndex := 0
  receiveBufferLength := 0
  receiveBuffer := 0
  receiveFifoDepth := 2
  receiveOutstanding := 0
  status := 0
  transactionBufferLength := 0
  transactionBuffer := 0
  transactionFifoDepth := 2
  accessIntrMaskWorkaround := false
  isInterruptRegistered := false

def bootState : State smallFifo where
  device := bootDevice
  memory := ⟨fun _ _ => ⟨0, 0, 0, 0⟩, fun a => BitVec.ofNat 8 a⟩
  live := none
  preparing := none
  sleeper := .running
  log := []
  hw :=
    { regs := fun _ => 0
      tx := []
      rx := []
      executed := []
      received := []
      active := false
      aborted := false
      stopDet := false
      txAbrt := false }

def readyState : State smallFifo := timeoutPlayer.final startController bootState

def pairList : List BusMessage := [⟨0x10, 0x41, 0, 2⟩, ⟨0x10, 0x80, 1, 3⟩]

def pairMemory : Memory := readyState.memory.put pairList

def pairState : State smallFifo := State.next (.beginTransfer 7 pairList) readyState pairMemory

def pairTurns : List Turn :=
  List.replicate 28 .main ++ (List.replicate 8 [.handler, .env, .env]).flatten

def pairRun : Config (system smallFifo) IOReturn :=
  timeoutPlayer.play handleInterrupt pairTurns
    ⟨pairState, transferI2C 7 pairList.length, none⟩

theorem reachable_pairRun :
    Reachable (system smallFifo) handleInterrupt pairState (transferI2C 7 pairList.length)
      pairRun := by
  apply timeoutPlayer.reachable_play

end VoodooI2C
