import VoodooI2C.Nub.Address
import VoodooI2C.Transaction.Levels

/-!
This module contains what a nub does for its client: the bytes go to the device that the firmware
describes and come from it.
-/

namespace VoodooI2C

open Interaction

variable {B : Bus} {txDepth rxDepth : Word}

/-! What a request is meant to do. -/

def loadBytes (byte : Address → Byte) (a : Address) (n : Nat) : List Byte :=
  (List.range' a n).map byte

def storeBytes (byte : Address → Byte) (a : Address) (bytes : List Byte) : Address → Byte :=
  match bytes with
  | [] => byte
  | b :: bytes => storeBytes (Function.update byte a b) (a + 1) bytes

namespace Bus

variable (B)

/--
The device gets the bytes. `stop` says that a stop comes after the last one.
-/
def sends (target : Word) (stop : Bool) (bytes : List Byte) (bus : B.State) : B.State :=
  match bytes with
  | [] => bus
  | b :: bytes => sends target stop bytes (B.send target false (stop && bytes.isEmpty) b bus)

/--
The device gives `n` bytes and then gets a stop.
-/
def receives (target : Word) (restart : Bool) (n : Nat) (bus : B.State) : List Byte × B.State :=
  match n with
  | 0 => ([], bus)
  | n + 1 =>
    let r := B.receive target restart (n == 0) bus
    let rest := receives target false n r.2
    (r.1 :: rest.1, rest.2)

def serve (target : Word) (request : NubRequest) (x : B.Scene) : B.Scene :=
  match request with
  | .readI2C values length =>
    let r := B.receives target false length.toNat x.2
    (storeBytes x.1 values r.1, r.2)
  | .writeI2C values length => (x.1, B.sends target true (loadBytes x.1 values length.toNat) x.2)
  | .writeReadI2C writeBuffer writeLength readBuffer readLength =>
    let bus := B.sends target false (loadBytes x.1 writeBuffer writeLength.toNat) x.2
    let r := B.receives target true readLength.toNat bus
    (storeBytes x.1 readBuffer r.1, r.2)

variable {B} {target : Word} {m : BusMessage} {restart stop : Bool}

theorem foldl_moveByte_write (hread : ¬ m.IsRead) {n i : Nat} (h : i + n = m.length.toNat)
    (x : B.Scene) :
    (List.range' i n).foldl
        (fun x k => B.moveByte target m (false && k == 0) (stop && k + 1 == m.length.toNat) k x) x
      = (x.1, B.sends target stop (loadBytes x.1 (m.buffer + i) n) x.2) := by
  induction n generalizing i x with
  | zero => rfl
  | succ n ih =>
    have hlast : (i + 1 == m.length.toNat) = (loadBytes x.1 (m.buffer + i + 1) n).isEmpty := by
      unfold loadBytes
      rw [List.isEmpty_map, Bool.eq_iff_iff, beq_iff_eq, List.isEmpty_iff, List.range'_eq_nil_iff]
      omega
    rw [List.range'_succ, List.foldl_cons, ih (by omega)]
    unfold moveByte loadBytes
    rw [if_neg hread, List.range'_succ, List.map_cons, hlast]
    rfl

theorem foldl_moveByte_read (hread : m.IsRead) {n i : Nat} (h : i + n = m.length.toNat)
    (x : B.Scene) :
    (List.range' i n).foldl
        (fun x k => B.moveByte target m (restart && k == 0) (true && k + 1 == m.length.toNat) k x) x
      = (storeBytes x.1 (m.buffer + i) (B.receives target (restart && i == 0) n x.2).1,
        (B.receives target (restart && i == 0) n x.2).2) := by
  induction n generalizing i x with
  | zero => rfl
  | succ n ih =>
    have hlast : (true && i + 1 == m.length.toNat) = (n == 0) := by
      rw [Bool.true_and, Bool.eq_iff_iff, beq_iff_eq, beq_iff_eq]
      omega
    have hnext : (restart && i + 1 == 0) = false := by simp
    rw [List.range'_succ, List.foldl_cons, ih (by omega), hnext]
    unfold moveByte
    rw [if_pos hread, hlast]
    rfl

theorem moveMessage_write (hread : ¬ m.IsRead) (x : B.Scene) :
    B.moveMessage target m false stop x
      = (x.1, B.sends target stop (loadBytes x.1 m.buffer m.length.toNat) x.2) := by
  unfold moveMessage
  rw [List.range_eq_range', foldl_moveByte_write hread (Nat.zero_add _)]
  rfl

theorem moveMessage_read (hread : m.IsRead) (x : B.Scene) :
    B.moveMessage target m restart true x
      = (storeBytes x.1 m.buffer (B.receives target restart m.length.toNat x.2).1,
        (B.receives target restart m.length.toNat x.2).2) := by
  unfold moveMessage
  rw [List.range_eq_range', foldl_moveByte_read hread (Nat.zero_add _)]
  simp only [Nat.add_zero, beq_self_eq_true, Bool.and_true]

end Bus

/-! The messages of the request. -/

namespace NubRequest

def Separate (request : NubRequest) : Prop :=
  match request with
  | .writeReadI2C writeBuffer writeLength readBuffer readLength =>
    ∀ j < writeLength.toNat, ∀ k < readLength.toNat, writeBuffer + j ≠ readBuffer + k
  | _ => True

def Short (txDepth : Word) (request : NubRequest) : Prop :=
  match request with
  | .writeReadI2C _ writeLength _ _ => writeLength.toNat < txDepth.toNat
  | _ => True

end NubRequest

namespace DeviceNub

variable (nub : DeviceNub) (request : NubRequest)

def target : Word :=
  (nub.i2cAddress.setWidth 16).setWidth 32
    ||| if nub.use10bitAddressing then tar10bitaddrMaster else 0

theorem read_isRead (ten : Bool) :
    (if ten then i2cMRd ||| i2cMTen else i2cMRd) &&& i2cMRd ≠ 0 := by
  revert ten
  decide

theorem write_not_isRead (ten : Bool) : ¬ (if ten then i2cMTen else 0) &&& i2cMRd ≠ 0 := by
  revert ten
  decide

theorem transact_messages (x : B.Scene) :
    B.transact (nub.messages request) x = B.serve nub.target request x := by
  rcases nub.target_messages request with ⟨m, hm, htarget⟩
  have htransact : B.transact (nub.messages request) x
      = B.moveList nub.target false (nub.messages request) x := by
    unfold target
    rw [← htarget]
    cases request <;> cases hm <;> rfl
  rw [htransact]
  cases request with
  | readI2C values length =>
    unfold messages readI2CGated Bus.moveList
    rw [List.isEmpty_nil, Bus.moveMessage_read (read_isRead _)]
    rfl
  | writeI2C values length =>
    unfold messages writeI2CGated Bus.moveList
    rw [List.isEmpty_nil, Bus.moveMessage_write (write_not_isRead _)]
    rfl
  | writeReadI2C writeBuffer writeLength readBuffer readLength =>
    unfold messages writeReadI2CGated Bus.moveList Bus.moveList
    rw [Bus.moveMessage_write (write_not_isRead _), List.isEmpty_nil,
      Bus.moveMessage_read (read_isRead _)]
    rfl

theorem apart_messages (h : request.Separate) : Apart (nub.messages request) := by
  cases request with
  | readI2C values length =>
    intro m hm hread
    rw [List.mem_singleton.mp hm] at hread
    exact absurd (read_isRead _) hread
  | writeI2C values length =>
    intro m hm hread a ha
    unfold messages writeI2CGated readAddresses readSegments
    dsimp only
    rw [List.map_singleton, if_neg (write_not_isRead _)]
    simp
  | writeReadI2C writeBuffer writeLength readBuffer readLength =>
    intro m hm hread a ha
    rcases List.mem_pair.mp hm with rfl | rfl
    . unfold messages writeReadI2CGated readAddresses readSegments
      dsimp only
      rw [List.map_cons, List.map_singleton, if_neg (write_not_isRead _),
        if_pos (read_isRead _)]
      unfold BusMessage.addresses at *
      rcases List.mem_map.mp ha with ⟨j, hj, rfl⟩
      simp only [List.flatten_cons, List.nil_append, List.flatten_nil, List.append_nil,
        List.mem_map, List.mem_range, not_exists, not_and]
      intro k hk heq
      exact h j (List.mem_range.mp hj) k hk heq.symm
    . exact absurd (read_isRead _) hread

theorem fitting_messages {rxDepth : Word} (h : request.Short txDepth) (hrx : 0 < rxDepth.toNat) :
    Fitting txDepth rxDepth (nub.messages request) := by
  intro i hpos hlt
  cases request with
  | readI2C values length | writeI2C values length =>
    have hlength : i < 1 := hlt
    omega
  | writeReadI2C writeBuffer writeLength readBuffer readLength =>
    have hlength : i < 2 := hlt
    obtain rfl : i = 1 := by omega
    unfold messages writeReadI2CGated firstWord readAddresses readSegments
    dsimp only
    rw [List.take_succ_cons, List.take_zero, List.map_singleton, List.map_singleton,
      List.sum_singleton, if_neg (write_not_isRead _)]
    exact ⟨h, hrx⟩

end DeviceNub

section Serves

variable {depth : Nat} {device : ACPIDevice} {crsParser dsmParser : ACPIResourcesParser}
  {forcePolling : Bool} {nub₀ nub : DeviceNub} {s : State (B.attach txDepth rxDepth)}

/--
A request that succeeds is done by the device at the address that the firmware declares, if that address
has at most 8 bits.
-/
theorem nub_serves (hcrs : crsParser.Fresh) (hdsm : dsmParser.Fresh)
    (h : device.getDeviceResources depth crsParser dsmParser forcePolling nub₀
      = some (.success, nub))
    (hdepths : Depths txDepth rxDepth s.device) (htx : txDepth.toNat ≤ 256)
    (hrx : 0 < rxDepth.toNat ∧ rxDepth.toNat ≤ 256) (h₀ : Between s) :
    ∃ info, device.selected depth = some info ∧
      (info.address < 0x100 →
        ∀ (request : NubRequest) (memory : Memory) (messages : Pointer)
          (c : Config (system (B.attach txDepth rxDepth)) IOReturn),
        request.Separate → B.Continuous ∨ request.Short txDepth →
        (∀ i m, (nub.messages request)[i]? = some m → memory.message messages i = m) →
        Reachable (system (B.attach txDepth rxDepth)) handleInterrupt
          (State.next (.beginTransfer messages (nub.messages request)) s memory)
          (transferI2C messages (nub.messages request).length) c →
        c.handler = none → c.main = .ret .success →
        (.sleep .interrupted ∈ c.state.log → .wakeup ∈ c.state.log) →
        (c.state.memory.byte, c.state.hw.2) = B.serve info.target request (memory.byte, s.hw.2)) := by
  rcases ACPIDevice.getDeviceResources_selected hcrs hdsm h with ⟨info, hselected, haddress, hten⟩
  refine ⟨info, hselected, ?_⟩
  intro hsmall request memory messages c hseparate hrestart hmessage hc hnone hret hwoken
  have hc' := (detached B txDepth rxDepth).reachable hc
  have hawake := awake_of_success hc hnone hret
  have hapart := nub.apart_messages request hseparate
  rcases moved_of_success h₀.detach hdepths hmessage hc' hnone hret hwoken with ⟨hmoved, hended⟩
  have htraced := traced_of_between h₀ hdepths hmessage hawake hc
  have htarget : nub.target = info.target := by
    unfold DeviceNub.target
    rw [haddress, hten]
    apply info.target_of_lt hsmall
  rw [← htarget, ← nub.transact_messages request]
  apply transact_of_moved hapart _ hmoved hended htraced
  . apply hrestart.imp_right
    intro hshort
    apply restarted_of_fitting h₀ hdepths htx hrx.2 hapart hmoved.whole
      (nub.fitting_messages request hshort hrx.1) hmessage hawake hc
  . intro m hm
    rw [hmessage 0 m hm]

end Serves

/-! A client of a device with registers selects a register and reads it. -/

def registerRequest : NubRequest := .writeReadI2C 0x41 1 0x80 1

abbrev registerMessages : List BusMessage := (nubAt 0x2c false).messages registerRequest

def servedRun : Config (system registerFifo) IOReturn :=
  registerPlayer.play handleInterrupt
    (List.replicate 28 .main ++ (List.replicate 4 [.handler, .env, .env]).flatten
      ++ List.replicate 20 .main)
    ⟨State.next (.beginTransfer 7 registerMessages) registerState
        (registerState.memory.put registerMessages),
      transferI2C 7 registerMessages.length, none⟩

theorem nub_serves_register :
    servedRun.main = .ret .success
      ∧ ∃ info, (serialBusDevice 0 0x2c 0).selected 3 = some info ∧ info.target = 0x2c
        ∧ (servedRun.state.memory.byte, servedRun.state.hw.2)
          = registerBus.serve info.target registerRequest
              ((registerState.memory.put registerMessages).byte, registerState.hw.2) := by
  have hresources : (serialBusDevice 0 0x2c 0).getDeviceResources 3 freshParser freshParser true
      (nubAt 0 false) = some (.success, nubAt 0x2c false) := by
    decide +kernel
  have hdepths : Depths 2 2 registerState.device := ⟨by decide +kernel, by decide +kernel⟩
  have hret : servedRun.main = .ret .success := by rfl
  refine ⟨hret, ?_⟩
  rcases nub_serves (B := registerBus) freshParser_fresh freshParser_fresh hresources hdepths
    (by decide) (by decide) between_registerState with ⟨info, hselected, hserves⟩
  have hinfo : (serialBusDevice 0 0x2c 0).selected 3 = some ⟨true, false, false, 400000, 0x2c⟩ := by
    decide +kernel
  obtain rfl : info = ⟨true, false, false, 400000, 0x2c⟩ := by
    apply Option.some.inj
    rw [← hselected, hinfo]
  refine ⟨_, hselected, by decide, ?_⟩
  have hseparate : registerRequest.Separate := by
    unfold NubRequest.Separate registerRequest
    decide
  have hshort : registerRequest.Short 2 := by
    unfold NubRequest.Short registerRequest
    decide
  have hserved := hserves (by decide) registerRequest _ 7 servedRun hseparate (.inr hshort)
    Memory.put_message
    (registerPlayer.reachable_play handleInterrupt _) rfl hret (by decide +kernel)
  with_reducible exact hserved

end VoodooI2C
