import VoodooI2C.Interaction.Pair
import VoodooI2C.Driver.Lemmas.Bits
import VoodooI2C.Transfer.Calls

/-!
This module contains what two runs of a transfer of the same list have in common that start in
different states: only what earlier transfers have left behind differs, and what is left behind is
not looked at before it is set.
-/

namespace VoodooI2C

open Interaction

def SameAnswer (op : Op) (r : op.Ans) (op' : Op) (r' : op'.Ans) : Prop :=
  match op, r, op', r' with
  | .readRegister reg, v, .readRegister reg', v' => reg = reg' → v = v'
  | .leaveSleep, result, .leaveSleep, result' => result = result'
  | _, _, _, _ => True

instance (op : Op) (r : op.Ans) (op' : Op) (r' : op'.Ans) : Decidable (SameAnswer op r op' r') := by
  unfold SameAnswer
  split <;> infer_instance

/--
The fields that `prepareTransferI2C` finds set and uses.
-/
structure SameConfiguration (d d' : BusDevice) : Prop where
  acpiConfig : d'.acpiConfig = d.acpiConfig
  busConfig : d'.busConfig = d.busConfig
  receiveFifoDepth : d'.receiveFifoDepth = d.receiveFifoDepth
  transactionFifoDepth : d'.transactionFifoDepth = d.transactionFifoDepth
  accessIntrMaskWorkaround : d'.accessIntrMaskWorkaround = d.accessIntrMaskWorkaround
  awake : d'.awake = d.awake

/--
The list at `p` is the same, and so are the bytes that it sends. The first message of an empty list
is what the driver takes for it.
-/
structure SameMessages (p : Pointer) (number : Nat) (memory memory' : Memory) : Prop where
  message : ∀ i, i < number ∨ i = 0 → memory'.message p i = memory.message p i
  byte : ∀ i < number, ¬ (memory.message p i).IsRead → ∀ a ∈ (memory.message p i).addresses,
    memory'.byte a = memory.byte a

namespace SameMessages

variable {p : Pointer} {number i : Nat} {memory memory' : Memory}

theorem store (h : SameMessages p number memory memory') (a : Address) (b : Byte) :
    SameMessages p number { memory with byte := Function.update memory.byte a b }
      { memory' with byte := Function.update memory'.byte a b } where
  message := h.message
  byte i hi hwrite a' ha' := by
    by_cases heq : a' = a
    . simp only [heq, Function.update_self]
    . simp only [Function.update_of_ne heq]
      apply h.byte i hi hwrite a' ha'

end SameMessages

namespace Isolation

/--
What `prepareTransferI2C` does not set and what earlier transfers leave behind.
-/
structure Leftover where
  receiveBufferLength : Nat
  receiveBuffer : Address
  transactionBufferLength : Nat
  transactionBuffer : Address
  isInterruptRegistered : Bool

def withLeftover (d : BusDevice) (l : Leftover) : BusDevice :=
  { d with
    receiveBufferLength := l.receiveBufferLength
    receiveBuffer := l.receiveBuffer
    transactionBufferLength := l.transactionBufferLength
    transactionBuffer := l.transactionBuffer
    isInterruptRegistered := l.isInterruptRegistered }

/--
Two devices that are the same but for leftovers that are not in use, `sending` says whether
`transaction_buffer` is in use.
-/
def Alike (sending : Prop) (d d' : BusDevice) : Prop :=
  ∃ l, d' = withLeftover d l
    ∧ (sending →
        l.transactionBuffer = d.transactionBuffer
          ∧ l.transactionBufferLength = d.transactionBufferLength)
    ∧ (d.ReadInProgress →
        l.receiveBuffer = d.receiveBuffer ∧ l.receiveBufferLength = d.receiveBufferLength)

theorem Alike.weaken {sending : Prop} {d d' : BusDevice} (h : Alike sending d d') :
    Alike False d d' := by
  rcases h with ⟨l, heq, _, hread⟩
  exact ⟨l, heq, False.elim, hread⟩

theorem Alike.sameConfiguration {sending : Prop} {d d' : BusDevice} (h : Alike sending d d') :
    SameConfiguration d d' := by
  rcases h with ⟨l, rfl, _⟩
  constructor <;> rfl

theorem alike_setup {d d' : BusDevice} (h : SameConfiguration d d') (p : Pointer) (number : Nat) :
    Alike (d.setup p number).WriteInProgress (d.setup p number) (d'.setup p number) := by
  refine ⟨⟨d'.receiveBufferLength, d'.receiveBuffer, d'.transactionBufferLength,
    d'.transactionBuffer, d'.isInterruptRegistered⟩, ?_, ?_, ?_⟩
  . unfold BusDevice.setup withLeftover
    simp only [h.acpiConfig, h.busConfig, h.receiveFifoDepth, h.transactionFifoDepth,
      h.accessIntrMaskWorkaround, h.awake]
  . intro hwrite
    apply absurd _ hwrite
    exact BitVec.zero_and
  . intro hread
    apply absurd _ hread
    exact BitVec.zero_and

/--
The last `length` bytes of the message at the index `i` are left to be sent, they start at `buffer`.
-/
def Cursor (p : Pointer) (number : Nat) (memory : Memory) (i : Nat) (buffer : Address)
    (length : Nat) : Prop :=
  i < number
    ∧ (¬ (memory.message p i).IsRead →
        ∃ k, k + length = (memory.message p i).length.toNat
          ∧ buffer = (memory.message p i).buffer + k)

section Cursor

variable {p : Pointer} {number i : Nat} {memory memory' : Memory} {buffer : Address} {length : Nat}

theorem Cursor.start (hi : i < number) :
    Cursor p number memory i (memory.message p i).buffer (memory.message p i).length.toNat :=
  ⟨hi, fun _ => ⟨0, Nat.zero_add _, rfl⟩⟩

theorem Cursor.load (h : Cursor p number memory i buffer (length + 1))
    (hmemory : SameMessages p number memory memory') (hwrite : ¬ (memory.message p i).IsRead) :
    memory'.byte buffer = memory.byte buffer := by
  rcases h.2 hwrite with ⟨k, hk, rfl⟩
  apply hmemory.byte i h.1 hwrite
  unfold BusMessage.addresses
  apply List.mem_map_of_mem
  rw [List.mem_range]
  omega

theorem Cursor.next (h : Cursor p number memory i buffer (length + 1)) :
    Cursor p number memory i (buffer + 1) length := by
  refine ⟨h.1, ?_⟩
  intro hwrite
  rcases h.2 hwrite with ⟨k, hk, rfl⟩
  refine ⟨k + 1, ?_, Nat.add_assoc _ _ _⟩
  omega

theorem Cursor.read {buffer' : Address} {length' : Nat} (h : Cursor p number memory i buffer length)
    (hread : (memory.message p i).IsRead) : Cursor p number memory i buffer' length' :=
  ⟨h.1, fun hwrite => absurd hread hwrite⟩

end Cursor

variable {H : Hardware}

/--
Two states in the middle of a transfer, `sending` says whether `transaction_buffer` is in use.
-/
structure Near (p : Pointer) (number : Nat) (sending : Prop) (s t : State H) : Prop where
  log : t.log = s.log
  memory : SameMessages p number s.memory t.memory
  messages : s.device.messages = p
  messageNumber : s.device.messageNumber = number
  device : Alike sending s.device t.device

structure Twin (p : Pointer) (number : Nat) (s t : State H) : Prop
    extends Near p number s.device.WriteInProgress s t where
  cursor : s.device.WriteInProgress →
    Cursor p number s.memory s.device.messageWriteIndex s.device.transactionBuffer
      s.device.transactionBufferLength

end Isolation

end VoodooI2C
