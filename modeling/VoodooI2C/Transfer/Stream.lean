import VoodooI2C.Transfer.Calls
import Mathlib.Data.List.Induction

/-!
This module contains the order of the words and of the bytes of a call of `transferI2C`, whatever
happened before this call.
-/

namespace VoodooI2C

open Interaction RegisterFile

variable {list : List BusMessage} {byte byte₀ : Address → Byte} {log : List Event} {place : Place}

theorem mem_goodSegments {address : BitVec 16} {segment : List Place}
    (h : segment ∈ goodSegments address list) (hplace : place ∈ segment) :
    place.message ∈ list ∧ place.offset < place.message.length.toNat := by
  induction list with
  | nil => simp [goodSegments] at h
  | cons m list ih =>
    rw [goodSegments] at h
    split at h
    . rw [List.mem_cons] at h
      rcases h with rfl | h
      . simp only [BusMessage.places, List.mem_map, List.mem_range] at hplace
        rcases hplace with ⟨k, hk, rfl⟩
        exact ⟨List.mem_cons_self, hk⟩
      . have := ih h
        exact ⟨List.mem_cons_of_mem _ this.1, this.2⟩
    . simp at h

theorem mem_places (h : place ∈ places list) :
    place.message ∈ list ∧ place.offset < place.message.length.toNat := by
  unfold places at h
  rw [List.mem_flatten] at h
  rcases h with ⟨segment, hsegment, hplace⟩
  cases list with
  | nil => simp [placeSegments] at hsegment
  | cons m list => apply mem_goodSegments hsegment hplace

theorem Place.word_applyStores {l : List (Address × Byte)} (hapart : Apart list)
    (hplace : place ∈ places list) (hl : ∀ e ∈ l, e.1 ∈ readAddresses list) :
    place.word (applyStores byte l) = place.word byte := by
  unfold Place.word
  by_cases hread : place.message.IsRead
  . rw [if_pos hread, if_pos hread]
  . rcases mem_places hplace with ⟨hmem, hlt⟩
    rw [if_neg hread, if_neg hread, applyStores_of_not_mem]
    rw [List.mem_map]
    rintro ⟨e, he, heq⟩
    apply hapart _ hmem hread (place.message.buffer + place.offset)
    . rw [BusMessage.addresses, List.mem_map]
      exact ⟨place.offset, List.mem_range.mpr hlt, rfl⟩
    . rw [← heq]
      apply hl e he

theorem concat_prefix {α : Type} {l m : List α} {a : α} (h : l <+: m) (ha : m[l.length]? = some a) :
    l ++ [a] <+: m := by
  rcases h with ⟨t, rfl⟩
  rw [List.getElem?_append_right (Nat.le_refl _), Nat.sub_self] at ha
  cases t with
  | nil => simp at ha
  | cons b t =>
    simp only [List.getElem?_cons_zero, Option.some.injEq] at ha
    subst ha
    simp

theorem map_fst_zip_eq_take {α β : Type} (as : List α) (bs : List β) :
    (as.zip bs).map Prod.fst = as.take bs.length := by
  induction as generalizing bs with
  | nil => simp
  | cons a as ih =>
    cases bs with
    | nil => simp
    | cons b bs => simp [ih]

theorem Sent.prefix (hapart : Apart list) (h : Sent list byte₀ log) :
    (words log).map (fun v => v &&& ~~~0x400) <+: stream list byte₀ := by
  induction log using List.reverseRecOn with
  | nil => apply List.nil_prefix
  | append_singleton log e ih =>
    have hlog : Sent list byte₀ log := by
      intro before v after heq
      apply h before v (after ++ [e])
      rw [heq]
      simp
    by_cases he : ∃ v, e = .write v .dataCmd
    . rcases he with ⟨v, rfl⟩
      rcases h log v [] rfl with ⟨⟨place, hplace, hword⟩, hstores⟩
      rw [words_append, words_write_dataCmd, words_nil, List.map_append, List.map_singleton]
      apply concat_prefix (ih hlog)
      rw [List.length_map, stream, List.getElem?_map, hplace, Option.map_some, hword]
      rw [Place.word_applyStores hapart (List.mem_of_getElem? hplace) hstores]
    . have : words (log ++ [e]) = words log := by
        rw [words_append]
        cases e with
        | write v reg =>
          have hreg : reg ≠ .dataCmd := by
            intro heq
            apply he
            exact ⟨v, by rw [heq]⟩
          simp [hreg]
        | _ => simp
      rw [this]
      apply ih hlog

section Balance

variable {H : Hardware} {s : State H}

def Balance (total : Int) (s : State H) : Prop :=
  s.device.receiveOutstanding + (pops s.log).length = total

theorem readFromBus.collect_balance {length : Nat} {buffer : Address} {receiveValid total : Int}
    (h : Balance total s) :
    wp (system H) (fun _ _ => True) (collect length buffer receiveValid)
      (fun _ s' => Balance total s') s := by
  induction length generalizing s buffer receiveValid with
  | zero =>
    unfold collect
    apply wp_done
    intro _ _
    apply h
  | succ length ih =>
    unfold collect
    split
    . apply wp_readRegister
      intro hw _
      refine ⟨trivial, ?_⟩
      intro v _
      apply wp_store fun _ _ => trivial
      apply wp_update
      apply ih
      unfold Balance at *
      simp
      omega
    . apply wp_done
      intro _ _
      apply h

theorem readFromBus.go_balance {messages : Pointer} {iterations : Nat} {total : Int}
    (h : Balance total s) :
    wp (system H) (fun _ _ => True) (go messages iterations) (fun _ s' => Balance total s') s := by
  induction iterations generalizing s with
  | zero =>
    unfold go
    apply wp_done
    intro _ _
    apply h
  | succ iterations ih =>
    unfold go
    apply wp_device
    split
    . apply wp_message
      . intro _ _
        trivial
      . split
        . -- a message to be written is passed over
          apply wp_update
          apply ih
          apply h
        . apply wp_readRegister
          intro hw _
          refine ⟨trivial, ?_⟩
          intro receiveValid _
          have h₁ : Balance total
              { s with
                hw := H.read .rxflr receiveValid hw
                log := s.log ++ [.read .rxflr receiveValid] } := by
            unfold Balance at *
            simpa using h
          rw [wp_bind]
          apply wp_post
          . apply collect_balance h₁
          . rintro ⟨length, buffer⟩ s' h'
            dsimp only
            split
            . apply wp_update
              apply wp_update
              apply wp_tail
              apply wp_update
              apply wp_done
              intro _ _
              apply h'
            . apply wp_update
              apply wp_update
              apply ih
              apply h'
    . apply wp_done
      intro _ _
      apply h

theorem readFromBus_balance {s' : State H} (hexec : Exec (system H) readFromBus s () s') :
    Balance (s.device.receiveOutstanding + (pops s.log).length) s' := by
  have hwp : wp (system H) (fun _ _ => True) readFromBus
      (fun _ s' => Balance (s.device.receiveOutstanding + (pops s.log).length) s') s := by
    unfold readFromBus
    apply wp_reach
    . intro _ _
      trivial
    . apply wp_device
      apply readFromBus.go_balance
      rfl
  apply hexec.wp hwp

end Balance

section Call

variable {H : Hardware} [RegisterFile H] {s₀ : State H} {p : Pointer} {memory : Memory}
  {cfg : Config (system H) IOReturn} (h₀ : Between s₀)
  (hmessage : ∀ i m, list[i]? = some m → memory.message p i = m)
  (hc : Reachable (system H) handleInterrupt (State.next (.beginTransfer p list) s₀ memory)
    (transferI2C p list.length) cfg)
include h₀ hmessage hc

theorem reachable_watched :
    (Sent list memory.byte cfg.state.log
        ∧ (Begun cfg.state.log → Settled list memory.byte cfg.state))
      ∨
    ∃ op k, cfg.handler = some (.call op k) ∧ Watched p list memory.byte op cfg.state := by
  have hresting := (h₀.atRest Calm.true).resting Calm.true hmessage
  rcases Contract.reachable_cases (fun _ h => orderContract_wp_handleInterrupt h) ⟨_, hresting⟩ hc
    with h | h
  . left
    apply orderContract_phase h
  . right
    apply h

theorem reachable_handler {op : Op} {k : op.Ans → Driver Unit} (hhd : cfg.handler = some (.call op k)) :
    Watched p list memory.byte op cfg.state := by
  have hresting := (h₀.atRest Calm.true).resting Calm.true hmessage
  apply Contract.reachable_handler (fun _ h => orderContract_wp_handleInterrupt h) ⟨_, hresting⟩ hc
    hhd

theorem reachable_sent : Sent list memory.byte cfg.state.log := by
  rcases reachable_watched h₀ hmessage hc with ⟨hsent, _⟩ | ⟨op, k, _, h⟩
  . apply hsent
  . apply h.1

theorem reachable_settled (haccess : AtAccess cfg) (hbegun : Begun cfg.state.log) :
    Settled list memory.byte cfg.state := by
  rcases reachable_watched h₀ hmessage hc with ⟨_, h⟩ | ⟨op, k, hhd, _, h⟩
  . apply h hbegun
  . unfold AtAccess at haccess
    rw [hhd] at haccess
    cases op with
    | readRegister reg => apply h.1 hbegun
    | writeRegister v reg => apply h hbegun
    | _ => contradiction

theorem transferI2C_sends :
    Sent list memory.byte cfg.state.log
      ∧ (Apart list →
          (words cfg.state.log).map (fun v => v &&& ~~~0x400) <+: stream list memory.byte)
      ∧ (AtAccess cfg → Begun cfg.state.log →
          cfg.state.device.messageWriteIndex = cfg.state.device.messageNumber →
          cfg.state.device.messageError = 0 →
          (words cfg.state.log).length = (stream list memory.byte).length) := by
  have hsent := reachable_sent h₀ hmessage hc
  refine ⟨hsent, fun hapart => hsent.prefix hapart, ?_⟩
  intro haccess hbegun
  rw [stream, List.length_map]
  apply (reachable_settled h₀ hmessage hc haccess hbegun).2.1

end Call

theorem transferI2C_sends_pair :
    words pairRun.state.log = [0x41, 0x42, 0x100, 0x100, 0x300]
      ∧ Sent pairList pairMemory.byte pairRun.state.log := by
  constructor
  . decide +kernel
  . apply (transferI2C_sends between_readyState Memory.put_message reachable_pairRun).1

section Call

variable {H : Hardware} [RegisterFile H] {s₀ : State H} {p : Pointer} {memory : Memory}
  {cfg : Config (system H) IOReturn} (h₀ : Between s₀)
  (hmessage : ∀ i m, list[i]? = some m → memory.message p i = m)
  (hc : Reachable (system H) handleInterrupt (State.next (.beginTransfer p list) s₀ memory)
    (transferI2C p list.length) cfg)
include h₀ hmessage hc

/--
Every popped byte is at the position it belongs to and no other position has changed.
-/
theorem transferI2C_receives (hnodup : (readAddresses list).Nodup) :
    (AtAccess cfg → Begun cfg.state.log →
      (pops cfg.state.log).length ≤ (readAddresses list).length
        ∧ (∀ (k : Nat) a b, (readAddresses list)[k]? = some a → (pops cfg.state.log)[k]? = some b →
            cfg.state.memory.byte a = b)
        ∧ (∀ a, a ∉ (readAddresses list).take (pops cfg.state.log).length →
            cfg.state.memory.byte a = memory.byte a)
        ∧ (cfg.state.device.commandError = 0 →
            cfg.state.device.receiveOutstanding
              = (readCommands (words cfg.state.log) : Int) - (pops cfg.state.log).length))
      ∧ (∀ s', Exec (system H) readFromBus cfg.state () s' →
          s'.device.receiveOutstanding + (pops s'.log).length
            = cfg.state.device.receiveOutstanding + (pops cfg.state.log).length)
      ∧ (∀ v cfg', Step (system H) handleInterrupt cfg (.handler (.readRegister .dataCmd) v) cfg' →
          (pops cfg.state.log).length < (readAddresses list).length)
      ∧ ∀ v cfg', ¬ Step (system H) handleInterrupt cfg (.main (.readRegister .dataCmd) v) cfg' := by
  refine ⟨?_, fun _ => readFromBus_balance, ?_, ?_⟩
  . intro haccess hbegun
    rcases reachable_settled h₀ hmessage hc haccess hbegun with
      ⟨⟨hbyte, hstores, hle⟩, _, houtstanding⟩
    refine ⟨hle, ?_, ?_, houtstanding⟩
    . intro k a b ha hb
      rw [hbyte, hstores]
      apply applyStores_zip hnodup ha hb
    . intro a ha
      rw [hbyte, hstores]
      apply applyStores_of_not_mem
      rw [map_fst_zip_eq_take]
      apply ha
  . intro v cfg' hstep
    rcases hstep.handler_call with ⟨k, hhd⟩
    apply (reachable_handler h₀ hmessage hc hhd).2.2
    rfl
  . intro v cfg' hstep
    rcases hstep.main_call with ⟨hnone, k, hmain⟩
    have hresting := (h₀.atRest Calm.true).resting Calm.true hmessage
    have hguard := Contract.reachable_main (fun _ h => orderContract_wp_handleInterrupt h)
      ⟨_, hresting⟩ hc hnone hmain
    apply hguard.2
    rfl

end Call

theorem transferI2C_receives_pair :
    (pops pairRun.state.log).length = 3
      ∧ (AtAccess pairRun → Begun pairRun.state.log →
          ∀ a, a ∉ (readAddresses pairList).take (pops pairRun.state.log).length →
            pairRun.state.memory.byte a = pairMemory.byte a) := by
  constructor
  . decide +kernel
  . intro haccess hbegun
    have := transferI2C_receives between_readyState Memory.put_message reachable_pairRun
      (by decide : (readAddresses pairList).Nodup)
    apply (this.1 haccess hbegun).2.2.1

end VoodooI2C
