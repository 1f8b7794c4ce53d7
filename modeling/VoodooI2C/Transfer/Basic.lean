import VoodooI2C.Driver.System
import VoodooI2C.Segments

/-!
This module contains what a transfer of a list of messages is meant to do: the words that go to
`IC_DATA_CMD` and the addresses that the received bytes go to.
-/

namespace VoodooI2C

/-! What the log of a transfer says about `IC_DATA_CMD` and about the buffers. -/

def words (log : List Event) : List Word :=
  log.filterMap fun
    | .write v .dataCmd => some v
    | _ => none

def pops (log : List Event) : List Byte :=
  log.filterMap fun
    | .read .dataCmd v => some (v.setWidth 8)
    | _ => none

def stores (log : List Event) : List (Address × Byte) :=
  log.filterMap fun
    | .store a b => some (a, b)
    | _ => none

def isRead (w : Word) : Bool := w &&& 0x100 ≠ 0

def readCommands (ws : List Word) : Nat := ws.countP isRead

def applyStores (byte : Address → Byte) (l : List (Address × Byte)) : Address → Byte :=
  l.foldl (fun byte (a, b) => Function.update byte a b) byte

/-! The words of a transfer. -/

structure Place where
  message : BusMessage
  offset : Nat
  last : Bool

/--
The word of a place without its restart bit.
-/
def Place.word (place : Place) (byte : Address → Byte) : Word :=
  (if place.message.IsRead then 0x100
    else (byte (place.message.buffer + place.offset)).setWidth 32)
    |||
  (if place.last then 0x200 else 0)

def BusMessage.places (m : BusMessage) (last : Bool) : List Place :=
  (List.range m.length.toNat).map fun k => ⟨m, k, last && k + 1 == m.length.toNat⟩

abbrev BusMessage.Good (m : BusMessage) (address : BitVec 16) : Prop :=
  m.length ≠ 0 ∧ m.address = address

/--
The places of the longest prefix of messages of non-zero length and with the address `address`.
-/
def goodSegments (address : BitVec 16) : List BusMessage → List (List Place)
  | [] => []
  | m :: list =>
    if m.Good address then m.places list.isEmpty :: goodSegments address list else []

def placeSegments (list : List BusMessage) : List (List Place) :=
  match list with
  | [] => []
  | m :: _ => goodSegments m.address list

def places (list : List BusMessage) : List Place := (placeSegments list).flatten

def stream (list : List BusMessage) (byte : Address → Byte) : List Word :=
  (places list).map fun place => place.word byte

/-! The addresses that received bytes go to. -/

def BusMessage.addresses (m : BusMessage) : List Address :=
  (List.range m.length.toNat).map fun k => m.buffer + k

theorem BusMessage.mem_addresses (m : BusMessage) {k : Nat} (h : k < m.length.toNat) :
    m.buffer + k ∈ m.addresses :=
  List.mem_map.mpr ⟨k, List.mem_range.mpr h, rfl⟩

def readSegments (list : List BusMessage) : List (List Address) :=
  list.map fun m => if m.IsRead then m.addresses else []

def readAddresses (list : List BusMessage) : List Address := (readSegments list).flatten

/--
No byte is received into a buffer that bytes are sent from.
-/
def Apart (list : List BusMessage) : Prop :=
  ∀ m ∈ list, ¬ m.IsRead → ∀ a ∈ m.addresses, a ∉ readAddresses list

end VoodooI2C
