import VoodooI2C.Hardware.Fifo
import VoodooI2C.Interaction.Projection
import VoodooI2C.Transfer.Caller

/-!
This module contains a bus with devices that a controller with FIFOs is attached to, and what a list of
messages is meant to do to the devices on the bus and to the buffers of the caller.
-/

namespace VoodooI2C

open Interaction

/--
The devices on a bus. `send` and `receive` move one byte to or from the device with the address in
`target`. `restart` says that a repeated start comes before the byte, `last` that a stop comes after
it.
-/
structure Bus where
  State : Type
  send (target : Word) (restart last : Bool) (b : Byte) (bus : State) : State
  receive (target : Word) (restart last : Bool) (bus : State) : Byte × State

namespace Bus

variable (B : Bus)

/-! What a list of messages is meant to do, one message after the other and byte by byte. -/

abbrev Scene : Type := (Address → Byte) × B.State

def moveByte (target : Word) (m : BusMessage) (restart last : Bool) (k : Nat) (x : B.Scene) : B.Scene :=
  if m.IsRead then
    let r := B.receive target restart last x.2
    (Function.update x.1 (m.buffer + k) r.1, r.2)
  else
    (x.1, B.send target restart last (x.1 (m.buffer + k)) x.2)

def moveMessage (target : Word) (m : BusMessage) (restart last : Bool) (x : B.Scene) : B.Scene :=
  (List.range m.length.toNat).foldl
    (fun x k => B.moveByte target m (restart && k == 0) (last && k + 1 == m.length.toNat) k x) x

/--
Every message after the first one begins with a repeated start, the last one ends with a stop.
-/
def moveList (target : Word) (restart : Bool) (list : List BusMessage) (x : B.Scene) : B.Scene :=
  match list with
  | [] => x
  | m :: list => moveList target true list (B.moveMessage target m restart list.isEmpty x)

/--
The address of the first message is the one of all of them.
-/
def transact (list : List BusMessage) (x : B.Scene) : B.Scene :=
  match list with
  | [] => x
  | m :: _ => B.moveList m.target false list x

def Continuous : Prop :=
  (∀ target restart last b bus, B.send target restart last b bus = B.send target false last b bus)
    ∧ ∀ target restart last bus, B.receive target restart last bus = B.receive target false last bus

/-! What a controller does that executes commands. -/

def execute (target c : Word) (bus : B.State) : Byte × B.State :=
  if isRead c then
    B.receive target (c &&& 0x400 ≠ 0) (c &&& 0x200 ≠ 0) bus
  else
    (0, B.send target (c &&& 0x400 ≠ 0) (c &&& 0x200 ≠ 0) (c.setWidth 8) bus)

def play (target : Word) (commands : List Word) (bus : B.State) : List Byte × B.State :=
  match commands with
  | [] => ([], bus)
  | c :: commands =>
    let r := B.execute target c bus
    let rest := play target commands r.2
    (if isRead c then r.1 :: rest.1 else rest.1, rest.2)

/--
The controller `fifo txDepth rxDepth` executes a command at the target in `IC_TAR`.
-/
inductive Step (rxDepth : Nat) : Fifo × B.State → Fifo × B.State → Prop where
  | execute : h.tx.head? = some c →
      Step rxDepth (h, bus)
        (h.execute rxDepth c (B.execute (h.regs .tar) c bus).1, (B.execute (h.regs .tar) c bus).2)
  | abort : h.active = true → Step rxDepth (h, bus) (h.abort, bus)
  | stop : h.aborted = true → Step rxDepth (h, bus) (h.stop, bus)

def attach (txDepth rxDepth : Word) : Hardware where
  State := Fifo × B.State
  canRead reg h v := Fifo.CanRead reg h.1 v
  read reg _ h := (Fifo.read reg h.1, h.2)
  write v reg h := (Fifo.write txDepth.toNat v reg h.1, h.2)
  step := B.Step rxDepth.toNat
  reset f h := (Fifo.reset f h.1, h.2)

end Bus

/-! Without its bus the controller is `fifo txDepth rxDepth`. -/

theorem Bus.Step.fifo {B : Bus} {rxDepth : Nat} {h h' : Fifo × B.State} (hstep : B.Step rxDepth h h') :
    Fifo.Step rxDepth h.1 h'.1 := by
  cases hstep with
  | execute hc => exact .execute hc
  | abort hactive => exact .abort hactive
  | stop haborted => exact .stop haborted

def State.detach {B : Bus} {txDepth rxDepth : Word} (s : State (B.attach txDepth rxDepth)) :
    State (fifo txDepth rxDepth) :=
  { s with hw := s.hw.1 }

def detached (B : Bus) (txDepth rxDepth : Word) :
    Projection (system (B.attach txDepth rxDepth)) (system (fifo txDepth rxDepth)) where
  map := State.detach
  admits {op s r} hr := by
    cases op <;> exact hr
  next {op s r} := by
    cases op with
    | reach point => cases point <;> rfl
    | _ => rfl
  env {s s'} henv := by
    rcases henv with ⟨hw, hstep, rfl⟩
    exact ⟨hw.1, Bus.Step.fifo hstep, rfl⟩

end VoodooI2C
