import VoodooI2C.Driver.Lemmas.WP
import VoodooI2C.Transfer.Lemmas

/-!
This module contains what holds while a transfer of the list `list`, whose buffers had the contents
`byte₀` when it began, is in progress: how far the two loops of the driver got, what the log says
about that and which accesses are allowed.
-/

namespace VoodooI2C

open Segments

variable {H : Hardware}

structure Silent (t : List Event) : Prop where
  words : words t = []
  pops : pops t = []
  stores : stores t = []

namespace Silent

variable {t t' : List Event} {reg : Register} {v : Word}

theorem nil : Silent [] := by
  constructor <;> rfl

theorem append (h : Silent t) (h' : Silent t') : Silent (t ++ t') := by
  constructor
  . rw [words_append, h.words, h'.words, List.append_nil]
  . rw [pops_append, h.pops, h'.pops, List.append_nil]
  . rw [stores_append, h.stores, h'.stores, List.append_nil]

theorem read (hreg : reg ≠ .dataCmd) : Silent [.read reg v] := by
  constructor <;> simp [hreg]

theorem write (hreg : reg ≠ .dataCmd) : Silent [.write v reg] := by
  constructor <;> simp [hreg]

theorem enterSleep : Silent [.enterSleep] := by
  constructor <;> simp

theorem sleep {r : SleepResult} : Silent [.sleep r] := by
  constructor <;> simp

theorem wakeup : Silent [.wakeup] := by
  constructor <;> simp

end Silent

/--
The word `v` is the one of the next place, with the byte that the buffer holds now. What was stored
so far went to the buffers of the read messages.
-/
def Expected (list : List BusMessage) (byte₀ : Address → Byte) (before : List Event) (v : Word) :
    Prop :=
  (∃ place, (places list)[(words before).length]? = some place
    ∧ v &&& ~~~0x400 = place.word (applyStores byte₀ (stores before)))
    ∧ ∀ e ∈ stores before, e.1 ∈ readAddresses list

def Sent (list : List BusMessage) (byte₀ : Address → Byte) (log : List Event) : Prop :=
  ∀ before v after, log = before ++ .write v .dataCmd :: after → Expected list byte₀ before v

def Stored (list : List BusMessage) (byte₀ byte : Address → Byte) (log : List Event) : Prop :=
  byte = applyStores byte₀ (stores log)
    ∧ stores log = (readAddresses list).zip (pops log)
    ∧ (pops log).length ≤ (readAddresses list).length

def Outstanding (d : BusDevice) (log : List Event) : Prop :=
  d.receiveOutstanding = (readCommands (words log) : Int) - (pops log).length

def Complete (list : List BusMessage) (d : BusDevice) (log : List Event) : Prop :=
  d.messageWriteIndex = d.messageNumber → d.messageError = 0 →
    (words log).length = (places list).length

def Settled (list : List BusMessage) (byte₀ : Address → Byte) (s : State H) : Prop :=
  Stored list byte₀ s.memory.byte s.log
    ∧ Complete list s.device s.log
    ∧ (s.device.commandError = 0 → Outstanding s.device s.log)

def WriteSide (list : List BusMessage) (d : BusDevice) (n : Nat) : Prop :=
  d.messageWriteIndex ≤ list.length
    ∧ GoodBefore list d.messageWriteIndex
    ∧ if d.WriteInProgress then
        ∃ m, list[d.messageWriteIndex]? = some m
          ∧ GoodBefore list (d.messageWriteIndex + 1)
          ∧ 0 < d.transactionBufferLength
          ∧ d.transactionBufferLength ≤ m.length.toNat
          ∧ (¬ m.IsRead →
              d.transactionBuffer = m.buffer + (m.length.toNat - d.transactionBufferLength))
          ∧ At (placeSegments list) n d.messageWriteIndex d.transactionBufferLength
      else
        Before (placeSegments list) n d.messageWriteIndex

def ReadSide (list : List BusMessage) (d : BusDevice) (n : Nat) : Prop :=
  d.messageReadIndex ≤ list.length
    ∧ if d.ReadInProgress then
        ∃ m, list[d.messageReadIndex]? = some m
          ∧ m.IsRead
          ∧ 0 < d.receiveBufferLength
          ∧ d.receiveBufferLength ≤ m.length.toNat
          ∧ d.receiveBuffer = m.buffer + (m.length.toNat - d.receiveBufferLength)
          ∧ At (readSegments list) n d.messageReadIndex d.receiveBufferLength
      else
        Before (readSegments list) n d.messageReadIndex

/--
The interrupts that `transferMessageToBus` leaves enabled. While `TX_EMPTY` is one of them, the
message at the current index is the first one or was begun.
-/
def MaskFits (d : BusDevice) (mask : Word) : Prop :=
  if d.messageError ≠ 0 then
    mask = 0
  else if d.messageWriteIndex = d.messageNumber then
    mask = intrDefaultMask &&& ~~~intrTxEmpty ∨ mask = intrDefaultMask ∧ d.messageNumber = 0
  else
    mask = intrDefaultMask ∧ (d.messageWriteIndex = 0 ∨ d.WriteInProgress)

def Session (p : Pointer) (list : List BusMessage) (s : State H) : Prop :=
  s.live = some (p, list.length)
    ∧ s.preparing = some p
    ∧ s.device.messages = p
    ∧ s.device.messageNumber = list.length
    ∧ ∀ i m, list[i]? = some m → s.memory.message p i = m

/--
The accesses of the transfer: to messages of the list and to their bytes only, to `IC_DATA_CMD` only if
there is a place or an address left. The words and bytes are as they should be at every access to a
register.
-/
def Guard (p : Pointer) (list : List BusMessage) (byte₀ : Address → Byte) (op : Op) (s : State H) :
    Prop :=
  match op with
  | .message q i =>
    s.live = some (p, list.length) ∧ s.preparing = some p ∧ s.device.messages = p
      ∧ s.device.messageNumber = list.length ∧ q = p ∧ (list ≠ [] → i < list.length)
  | .reach .readFromBus | .reach .transferMessageToBus =>
    s.live = some (p, list.length) ∧ s.preparing = some p ∧ s.device.messages = p
  | .readRegister reg =>
    Settled list byte₀ s ∧ (reg = .dataCmd → (pops s.log).length < (readAddresses list).length)
  | .writeRegister v reg =>
    Settled list byte₀ s
      ∧ (reg = .dataCmd →
          ∃ place, (places list)[(words s.log).length]? = some place
            ∧ v &&& ~~~0x400 = place.word s.memory.byte)
  | .load a => Session p list s ∧ ∃ m ∈ list, ¬ m.IsRead ∧ a ∈ m.addresses
  | .store a _ => Session p list s ∧ ∃ m ∈ list, m.IsRead ∧ a ∈ m.addresses
  | _ => True

instance {p : Pointer} {list : List BusMessage} {byte₀ : Address → Byte} :
    Lenient (Guard (H := H) p list byte₀) where
  device _ := trivial
  update _ _ := trivial
  commandWakeup _ := trivial

theorem Settled.append {list : List BusMessage} {byte₀ : Address → Byte} {s : State H} {hw : H.State}
    {t : List Event} (h : Settled list byte₀ s) (ht : Silent t) :
    Settled list byte₀ { s with hw := hw, log := s.log ++ t } := by
  unfold Settled Stored Complete Outstanding at *
  simpa [ht.words, ht.pops, ht.stores] using h

theorem Settled.read {list : List BusMessage} {byte₀ : Address → Byte} {s : State H} {hw : H.State}
    {reg : Register} {v : Word} (h : Settled list byte₀ s) (hreg : reg ≠ .dataCmd) :
    Settled list byte₀ { s with hw := hw, log := s.log ++ [.read reg v] } := by
  apply h.append (.read hreg)

theorem Settled.write {list : List BusMessage} {byte₀ : Address → Byte} {s : State H} {hw : H.State}
    {reg : Register} {v : Word} (h : Settled list byte₀ s) (hreg : reg ≠ .dataCmd) :
    Settled list byte₀ { s with hw := hw, log := s.log ++ [.write v reg] } := by
  apply h.append (.write hreg)

end VoodooI2C
