import VoodooI2C.Hardware.Basic
import VoodooI2C.Interaction.Interrupt
import Mathlib.Logic.Function.Basic

/-!
This module contains the world of the driver: `bus_device`, the memory of the callers, the thread
that sleeps on `command_complete` and the controller.
-/

namespace VoodooI2C

open Interaction

inductive Sleeper where
  | running
  | asleep
  | woken
  deriving DecidableEq, Repr

/-- What the driver did since the current call of `transferI2C` began. -/
inductive Event where
  | read (reg : Register) (v : Word)
  | write (v : Word) (reg : Register)
  | store (a : Address) (b : Byte)
  | enterSleep
  | sleep (r : SleepResult)
  | wakeup
  deriving DecidableEq, Repr

/--
`live` is the pointer to the list of the current call of `transferI2C` and the length of the list,
`preparing` the pointer that the current call of `prepareTransferI2C` got.
-/
structure State (H : Hardware) where
  device : BusDevice
  memory : Memory
  live : Option (Pointer × Nat)
  preparing : Option Pointer
  sleeper : Sleeper
  log : List Event
  hw : H.State
  physical : PhysicalDevice := ⟨true, true⟩

namespace State

variable {H : Hardware}

def admits (op : Op) (s : State H) (r : op.Ans) : Prop :=
  match op, r with
  | .readRegister reg, v => H.canRead reg s.hw v
  | .device, d => d = s.device
  | .physicalDevice, d => d = s.physical
  | .message messages i, m => m = s.memory.message messages i
  | .load a, b => b = s.memory.byte a
  | .leaveSleep, result => result = .awakened ↔ s.sleeper = .woken
  | .beginTransfer messages list, memory =>
    ∀ i m, list[i]? = some m → memory.message messages i = m
  | _, _ => True

def next (op : Op) (s : State H) (r : op.Ans) : State H :=
  match op, r with
  | .readRegister reg, v => { s with hw := H.read reg v s.hw, log := s.log ++ [.read reg v] }
  | .writeRegister v reg, _ => { s with hw := H.write v reg s.hw, log := s.log ++ [.write v reg] }
  | .update f, _ => { s with device := f s.device }
  | .store a b, _ =>
    { s with
      memory := { s.memory with byte := Function.update s.memory.byte a b }
      log := s.log ++ [.store a b] }
  | .enterSleep, _ => { s with sleeper := .asleep, log := s.log ++ [.enterSleep] }
  | .leaveSleep, result => { s with sleeper := .running, log := s.log ++ [.sleep result] }
  | .commandWakeup, _ =>
    { s with
      sleeper := if s.sleeper = .asleep then .woken else s.sleeper
      log := s.log ++ [.wakeup] }
  | .reach (.prepareTransferI2C messages), _ => { s with preparing := some messages }
  | .reach .prepareTransferI2CReturns, _ => { s with preparing := none }
  | .beginTransfer messages list, memory =>
    { s with memory := memory, live := some (messages, list.length), log := [] }
  | .endTransfer, _ => { s with live := none }
  | .losePower, f => { s with hw := H.reset f s.hw }
  | .updatePhysicalDevice f, _ => { s with physical := f s.physical }
  | _, _ => s

end State

abbrev system (H : Hardware) : World Op Op.Ans where
  State := State H
  admits := fun op s r => State.admits op s r
  next := fun op s r => State.next op s r
  env := fun s s' => ∃ hw, H.step s.hw hw ∧ s' = { s with hw := hw }

end VoodooI2C
