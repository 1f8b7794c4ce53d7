import VoodooI2C.Completion.Basic
import VoodooI2C.Restart.Basic
import VoodooI2C.Transaction.Basic
import VoodooI2C.Transfer.Stream
import Mathlib.Data.List.Forall2

/-!
This module contains that the words of a transfer do to the bus and the buffers what the list of
messages is meant to do.
-/

namespace VoodooI2C

variable {B : Bus} {list : List BusMessage} {byte₀ : Address → Byte} {target v : Word}
  {ws : List Word} {bus : B.State}

def Place.address (place : Place) : Address := place.message.buffer + place.offset

/--
All bytes of the messages in their order, each with what `moveByte` gets as `restart`.
-/
def moves (restart : Bool) (list : List BusMessage) : List (Bool × Place) :=
  match list with
  | [] => []
  | m :: list =>
    (m.places list.isEmpty).map (fun place => (restart && place.offset == 0, place)) ++ moves true list

def readPlaces (l : List (Bool × Place)) : List Address :=
  l.filterMap fun e => if e.2.message.IsRead then some e.2.address else none

namespace Bus

def move (B : Bus) (target : Word) (x : B.Scene) (e : Bool × Place) : B.Scene :=
  B.moveByte target e.2.message e.1 e.2.last e.2.offset x

theorem moveList_eq (restart : Bool) (x : B.Scene) :
    B.moveList target restart list x = (moves restart list).foldl (B.move target) x := by
  induction list generalizing restart x with
  | nil => rfl
  | cons m list ih =>
    unfold moveList moves
    rw [ih, List.foldl_append, List.foldl_map]
    congr 1
    unfold BusMessage.places
    rw [List.foldl_map]
    rfl

theorem play_cons (c : Word) (commands : List Word) (bus : B.State) :
    B.play target (c :: commands) bus
      = (if isRead c then
            (B.execute target c bus).1 :: (B.play target commands (B.execute target c bus).2).1
          else
            (B.play target commands (B.execute target c bus).2).1,
        (B.play target commands (B.execute target c bus).2).2) :=
  rfl

theorem length_play (commands : List Word) (bus : B.State) :
    (B.play target commands bus).1.length = readCommands commands := by
  induction commands generalizing bus with
  | nil => rfl
  | cons c commands ih =>
    rw [play_cons]
    unfold readCommands at *
    rw [List.countP_cons]
    split
    . rw [List.length_cons, ih]
    . apply ih

theorem play_concat (commands : List Word) (c : Word) (bus : B.State) :
    B.play target (commands ++ [c]) bus
      = ((B.play target commands bus).1
          ++ (if isRead c then [(B.execute target c (B.play target commands bus).2).1] else []),
        (B.execute target c (B.play target commands bus).2).2) := by
  induction commands generalizing bus with
  | nil => rfl
  | cons c' commands ih =>
    rw [List.cons_append, play_cons, play_cons, ih]
    split <;> rfl

/--
The word `v` is the one of the place, and its restart bit is right if anyone looks at it.
-/
def Matches (B : Bus) (byte₀ : Address → Byte) (v : Word) (e : Bool × Place) : Prop :=
  v &&& ~~~0x400 = e.2.word byte₀ ∧ (B.Continuous ∨ (v &&& 0x400 ≠ 0 ↔ e.1 = true))

namespace Matches

variable {e : Bool × Place}

theorem isRead (h : B.Matches byte₀ v e) : isRead v = decide e.2.message.IsRead := by
  rw [← word_and_read e.2 byte₀, ← h.1]
  unfold VoodooI2C.isRead
  rw [and_not_and_of_disjoint (by decide)]

theorem last (h : B.Matches byte₀ v e) : decide (v &&& 0x200 ≠ 0) = e.2.last := by
  rw [Bool.eq_iff_iff, decide_eq_true_iff, ← word_and_stop e.2 byte₀, ← h.1,
    and_not_and_of_disjoint (by decide)]

theorem byte (h : B.Matches byte₀ v e) (hread : ¬ e.2.message.IsRead) :
    v.setWidth 8 = byte₀ e.2.address := by
  have hword : v.setWidth 8 = (e.2.word byte₀).setWidth 8 := by
    have hones : (~~~0x400 : Word).setWidth 8 = BitVec.allOnes 8 := by decide
    rw [← h.1, BitVec.setWidth_and, hones, BitVec.and_allOnes]
  rw [hword]
  unfold Place.word
  rw [if_neg hread, BitVec.setWidth_or, BitVec.setWidth_setWidth_of_le _ (by decide),
    BitVec.setWidth_eq]
  have hlast : (if e.2.last = true then (0x200 : Word) else 0).setWidth 8 = 0#8 := by
    split <;> decide
  rw [hlast, BitVec.or_zero]
  rfl

theorem move_read (h : B.Matches byte₀ v e) (hread : e.2.message.IsRead) (x : B.Scene) :
    B.move target x e
      = (Function.update x.1 e.2.address (B.execute target v x.2).1, (B.execute target v x.2).2) := by
  have hexecute : B.execute target v x.2 = B.receive target e.1 e.2.last x.2 := by
    unfold execute
    rw [if_pos (by rw [h.isRead, decide_eq_true hread]), h.last]
    rcases h.2 with hcontinuous | hrestart
    . rw [hcontinuous.2, hcontinuous.2 target e.1]
    . rw [Bool.eq_iff_iff.mpr (decide_eq_true_iff.trans hrestart)]
  unfold move moveByte
  rw [if_pos hread, hexecute]
  rfl

theorem move_write (h : B.Matches byte₀ v e) (hread : ¬ e.2.message.IsRead) (x : B.Scene)
    (hbyte : x.1 e.2.address = byte₀ e.2.address) :
    B.move target x e = (x.1, (B.execute target v x.2).2) := by
  have hexecute : (B.execute target v x.2).2
      = B.send target e.1 e.2.last (x.1 e.2.address) x.2 := by
    unfold execute
    rw [if_neg (by rw [h.isRead, decide_eq_false hread]; simp), h.last, h.byte hread, hbyte]
    rcases h.2 with hcontinuous | hrestart
    . rw [hcontinuous.1, hcontinuous.1 target e.1]
    . rw [Bool.eq_iff_iff.mpr (decide_eq_true_iff.trans hrestart)]
  unfold move moveByte
  rw [if_neg hread, hexecute]
  rfl

end Matches

/--
The commands are executed one after the other, so the bytes that they receive are stored in the order
of the read places.
-/
theorem foldl_move {l : List (Bool × Place)} (h : List.Forall₂ (B.Matches byte₀) ws l) {x : B.Scene}
    (hbyte : ∀ e ∈ l, ¬ e.2.message.IsRead → x.1 e.2.address = byte₀ e.2.address)
    (hapart : ∀ e ∈ l, ¬ e.2.message.IsRead → e.2.address ∉ readPlaces l) :
    l.foldl (B.move target) x
      = (applyStores x.1 ((readPlaces l).zip (B.play target ws x.2).1), (B.play target ws x.2).2) := by
  induction h generalizing x with
  | nil => rfl
  | @cons v e ws l hmatches _ ih =>
    rw [List.foldl_cons]
    rw [List.forall_mem_cons] at hbyte hapart
    rw [play_cons]
    unfold readPlaces at *
    rw [List.filterMap_cons] at *
    by_cases hread : e.2.message.IsRead
    . have hword : isRead v = true := by rw [hmatches.isRead, decide_eq_true hread]
      simp only [if_pos hread, if_pos hword] at *
      rw [hmatches.move_read hread, ih]
      . rfl
      . intro e' he' hread'
        dsimp only
        rw [Function.update_of_ne]
        . apply hbyte.2 e' he' hread'
        . intro heq
          apply hapart.2 e' he' hread'
          rw [heq]
          apply List.mem_cons_self
      . intro e' he' hread' hmem
        apply hapart.2 e' he' hread'
        apply List.mem_cons_of_mem _ hmem
    . have hword : ¬ isRead v = true := by
        rw [hmatches.isRead, decide_eq_false hread]
        simp
      simp only [if_neg hread, if_neg hword] at *
      rw [hmatches.move_write hread x (hbyte.1 hread), ih]
      . apply hbyte.2
      . apply hapart.2

end Bus

/-! The bytes of a whole list. -/

theorem map_snd_moves {a : BitVec 16} (restart : Bool) (hgood : ∀ m ∈ list, m.Good a) :
    (moves restart list).map Prod.snd = (goodSegments a list).flatten := by
  induction list generalizing restart with
  | nil => rfl
  | cons m list ih =>
    rw [List.forall_mem_cons] at hgood
    unfold moves goodSegments
    rw [if_pos hgood.1, List.flatten_cons, List.map_append, ih true hgood.2, List.map_map]
    congr 1
    apply List.map_id

theorem Whole.map_snd_moves (hwhole : Whole list) :
    (moves false list).map Prod.snd = VoodooI2C.places list := by
  cases list with
  | nil => rfl
  | cons m list =>
    apply VoodooI2C.map_snd_moves
    intro m' hm'
    apply hwhole m' hm' m rfl

theorem readPlaces_moves (restart : Bool) : readPlaces (moves restart list) = readAddresses list := by
  unfold readAddresses readSegments
  induction list generalizing restart with
  | nil => rfl
  | cons m list ih =>
    unfold readPlaces at *
    unfold moves
    rw [List.filterMap_append, ih true, List.map_cons, List.flatten_cons]
    congr 1
    unfold BusMessage.places
    rw [List.filterMap_map, List.filterMap_map]
    by_cases hread : m.IsRead
    . rw [if_pos hread]
      unfold BusMessage.addresses
      rw [← List.filterMap_eq_map]
      congr 1
      funext k
      simp only [Function.comp_apply]
      rw [if_pos hread]
      rfl
    . rw [if_neg hread, List.filterMap_eq_nil_iff]
      intro k _
      simp only [Function.comp_apply]
      rw [if_neg hread]

theorem length_moves (restart : Bool) (m : BusMessage) :
    ((m.places list.isEmpty).map fun place => ((restart && place.offset == 0, place) : Bool × Place)).length
      = m.length.toNat := by
  rw [List.length_map, BusMessage.length_places]

theorem startsMessage_cons {m : BusMessage} {n : Nat} :
    StartsMessage (m :: list) n
      ↔ m.length.toNat ≤ n
        ∧ (n - m.length.toNat = 0 ∧ list ≠ [] ∨ StartsMessage list (n - m.length.toNat)) := by
  have hfirst : ∀ i, firstWord (m :: list) (i + 1) = m.length.toNat + firstWord list i := by
    intro i
    unfold firstWord
    rw [List.take_succ_cons, List.map_cons, List.sum_cons]
  constructor
  . rintro ⟨i, hpos, hlt, rfl⟩
    cases i with
    | zero => contradiction
    | succ i =>
      rw [hfirst]
      rw [List.length_cons] at hlt
      refine ⟨Nat.le_add_right _ _, ?_⟩
      rw [Nat.add_sub_cancel_left]
      cases i with
      | zero =>
        left
        refine ⟨rfl, ?_⟩
        rintro rfl
        simp at hlt
      | succ i =>
        right
        exact ⟨i + 1, Nat.succ_pos _, by omega, rfl⟩
  . rintro ⟨hle, ⟨hzero, hne⟩ | ⟨i, hpos, hlt, heq⟩⟩
    . refine ⟨1, Nat.one_pos, ?_, ?_⟩
      . rw [List.length_cons]
        have := List.length_pos_iff.mpr hne
        omega
      . rw [hfirst 0]
        unfold firstWord
        simp
        omega
    . refine ⟨i + 1, Nat.succ_pos _, ?_, ?_⟩
      . rw [List.length_cons]
        omega
      . rw [hfirst, ← heq]
        omega

theorem restart_iff {restart : Bool} {n : Nat} {e : Bool × Place} (hlist : ∀ m ∈ list, m.length ≠ 0)
    (he : (moves restart list)[n]? = some e) :
    e.1 = true ↔ restart = true ∧ n = 0 ∨ StartsMessage list n := by
  induction list generalizing restart n with
  | nil => simp [moves] at he
  | cons m list ih =>
    rw [List.forall_mem_cons] at hlist
    have hpos : 0 < m.length.toNat := by
      have := hlist.1
      bv_omega
    rw [startsMessage_cons]
    unfold moves at he
    rw [List.getElem?_append] at he
    split at he
    . next hlt =>
      rw [length_moves] at hlt
      unfold BusMessage.places at he
      rw [List.map_map, List.getElem?_map, List.getElem?_range hlt, Option.map_some,
        Option.some.injEq] at he
      subst he
      simp only [Function.comp_apply, Bool.and_eq_true, beq_iff_eq]
      constructor
      . intro h
        exact .inl h
      . rintro (h | ⟨hle, _⟩)
        . apply h
        . omega
    . next hge =>
      rw [length_moves] at hge he
      rw [ih hlist.2 he]
      have hne : list ≠ [] := by
        rintro rfl
        simp [moves] at he
      constructor
      . rintro (h | h)
        . exact .inr ⟨by omega, .inl ⟨h.2, hne⟩⟩
        . exact .inr ⟨by omega, .inr h⟩
      . rintro (h | ⟨_, h | h⟩)
        . omega
        . exact .inl ⟨rfl, h.1⟩
        . exact .inr h

theorem Whole.readCommands_eq (hwhole : Whole list)
    (hws : ws.map (fun v => v &&& ~~~0x400) = stream list byte₀) :
    readCommands ws = (readAddresses list).length := by
  have hmask : readCommands ws = (ws.map fun v => v &&& ~~~0x400).countP isRead := by
    unfold readCommands
    rw [List.countP_map]
    congr 1
    funext v
    unfold isRead
    rw [Function.comp_apply, and_not_and_of_disjoint (by decide)]
  rw [hmask, hws, ← hwhole.countP_places]
  unfold stream
  rw [List.countP_map]
  congr 1
  funext place
  apply word_and_read

theorem forall₂_moves (hwhole : Whole list)
    (hws : ws.map (fun v => v &&& ~~~0x400) = stream list byte₀)
    (hrestart : B.Continuous ∨ WordsRestarted list ws) :
    List.Forall₂ (B.Matches byte₀) ws (moves false list) := by
  have hlist : ∀ m ∈ list, m.length ≠ 0 := by
    intro m hm
    cases list with
    | nil => contradiction
    | cons m₀ list => apply (hwhole m hm m₀ rfl).1
  unfold stream at hws
  rw [← hwhole.map_snd_moves, List.map_map] at hws
  have hlength := congrArg List.length hws
  rw [List.length_map, List.length_map] at hlength
  rw [List.forall₂_iff_get]
  refine ⟨hlength, fun i hi hi' => ⟨?_, hrestart.imp_right fun h => ?_⟩⟩
  . have hget := congrArg (fun l => l[i]?) hws
    simp only [List.getElem?_map, List.getElem?_eq_getElem hi, List.getElem?_eq_getElem hi',
      Option.map_some, Option.some.injEq, Function.comp_apply] at hget
    apply hget
  . rw [List.get_eq_getElem, List.get_eq_getElem, restart_iff hlist (List.getElem?_eq_getElem hi')]
    simp only [Bool.false_eq_true, false_and, false_or]
    apply h ⟨i, hi⟩

theorem Bus.transact_eq {m : BusMessage} (hwhole : Whole list) (hapart : Apart list)
    (hws : ws.map (fun v => v &&& ~~~0x400) = stream list byte₀)
    (hrestart : B.Continuous ∨ WordsRestarted list ws) (hm : list[0]? = some m) :
    B.transact list (byte₀, bus)
      = (applyStores byte₀ ((readAddresses list).zip (B.play m.target ws bus).1),
        (B.play m.target ws bus).2) := by
  have htransact : B.transact list (byte₀, bus) = B.moveList m.target false list (byte₀, bus) := by
    cases list with
    | nil => contradiction
    | cons m' list =>
      rw [List.getElem?_cons_zero, Option.some.injEq] at hm
      rw [hm]
      rfl
  rw [htransact, moveList_eq, foldl_move (forall₂_moves hwhole hws hrestart), readPlaces_moves]
  . intro _ _ _
    rfl
  . intro e he hread
    rw [readPlaces_moves]
    have hplace : e.2 ∈ places list := by
      rw [← hwhole.map_snd_moves]
      apply List.mem_map_of_mem he
    rcases mem_places hplace with ⟨hmem, hlt⟩
    apply hapart _ hmem hread
    rw [BusMessage.addresses, List.mem_map]
    exact ⟨e.2.offset, List.mem_range.mpr hlt, rfl⟩

end VoodooI2C
