import VoodooI2C.Flow.Run

/-!
This module contains how the commands that the controller has executed relate to the words that the
driver has written, and which of them ends the transfer.
-/

namespace VoodooI2C

variable {list : List BusMessage} {a : BitVec 16} {n : Nat} {place : Place} {v c : Word} {b : Byte}
  {e₀ ws : List Word} {h h' : Fifo} {reg : Register}

def Whole (list : List BusMessage) : Prop :=
  ∀ m ∈ list, ∀ m₀, list[0]? = some m₀ → m.Good m₀.address

theorem last_iff_goodSegments (hplace : (goodSegments a list).flatten[n]? = some place) :
    place.last = true
      ↔ (∀ m ∈ list, m.Good a) ∧ n + 1 = (goodSegments a list).flatten.length := by
  induction list generalizing n with
  | nil => simp [goodSegments] at hplace
  | cons m list ih =>
    rw [goodSegments] at hplace ⊢
    split at hplace
    . next hgood =>
      rw [List.flatten_cons, List.getElem?_append] at hplace
      rw [if_pos hgood, List.flatten_cons, List.length_append, List.forall_mem_cons]
      split at hplace
      . next hlt =>
        rw [List.getElem?_eq_getElem hlt, BusMessage.getElem_places, Option.some.injEq] at hplace
        rw [BusMessage.length_places] at hlt ⊢
        rw [← hplace]
        cases list with
        | nil =>
          simp only [List.isEmpty_nil, Bool.true_and, beq_iff_eq, List.not_mem_nil, IsEmpty.forall_iff,
            implies_true, and_true, goodSegments, List.flatten_nil, List.length_nil, Nat.add_zero,
            iff_and_self]
          intro _
          exact hgood
        | cons m' list =>
          simp only [List.isEmpty_cons, Bool.false_and, Bool.false_eq_true, false_iff, not_and]
          intro hall
          rw [goodSegments, if_pos (hall.2 m' List.mem_cons_self), List.flatten_cons,
            List.length_append, BusMessage.length_places]
          have hlength := (hall.2 m' List.mem_cons_self).1
          have hpos : m'.length.toNat ≠ 0 := by
            intro hzero
            apply hlength
            apply BitVec.eq_of_toNat_eq hzero
          omega
      . next hge =>
        rw [ih hplace]
        constructor
        . rintro ⟨hall, hn⟩
          refine ⟨⟨hgood, hall⟩, ?_⟩
          omega
        . rintro ⟨⟨_, hall⟩, hn⟩
          refine ⟨hall, ?_⟩
          omega
    . simp at hplace

theorem last_iff (hplace : (places list)[n]? = some place) :
    place.last = true ↔ Whole list ∧ n + 1 = (places list).length := by
  cases list with
  | nil => simp [places, placeSegments] at hplace
  | cons m list =>
    apply (last_iff_goodSegments hplace).trans
    unfold Whole places placeSegments
    simp

theorem word_and_stop (place : Place) (byte : Address → Byte) :
    place.word byte &&& 0x200 ≠ 0 ↔ place.last = true := by
  unfold Place.word
  rw [BitVec.and_or_distrib_right]
  have hfirst : (if place.message.IsRead then (0x100 : Word)
      else (byte (place.message.buffer + place.offset)).setWidth 32) &&& 0x200 = 0 := by
    split
    . decide
    . apply setWidth_and_stop
  rw [hfirst]
  cases place.last <;> simp

theorem word_and_read (place : Place) (byte : Address → Byte) :
    isRead (place.word byte) = decide place.message.IsRead := by
  unfold Place.word isRead
  rw [BitVec.and_or_distrib_right]
  have hlast : (if place.last = true then (0x200 : Word) else 0) &&& 0x100 = 0#32 := by
    split <;> decide
  rw [hlast, BitVec.or_zero]
  split
  . next hread =>
    rw [decide_eq_true hread]
    decide
  . next hread =>
    rw [decide_eq_false hread, setWidth_and_read]
    decide

/--
The words with the bit `0x200` are those that end the transfer, the read commands are those of the
bytes of read messages.
-/
structure Marked (list : List BusMessage) (ws : List Word) : Prop where
  le : ws.length ≤ (places list).length
  stop : ∀ i w, ws[i]? = some w →
    (w &&& 0x200 ≠ 0 ↔ Whole list ∧ i + 1 = (places list).length)
  reads : ws.map isRead
    = ((places list).take ws.length).map fun place => decide place.message.IsRead

theorem Marked.nil : Marked list [] where
  le := Nat.zero_le _
  stop := by simp
  reads := by simp

theorem Marked.concat {byte : Address → Byte} (hmarked : Marked list ws)
    (hplace : (places list)[ws.length]? = some place) (hv : v &&& ~~~0x400 = place.word byte) :
    Marked list (ws ++ [v]) := by
  rcases List.getElem?_eq_some_iff.mp hplace with ⟨hlt, _⟩
  constructor
  . rw [List.length_append, List.length_singleton]
    apply hlt
  . intro i w hw
    rw [List.getElem?_append] at hw
    split at hw
    . apply hmarked.stop i w hw
    . next hge =>
      have hi : i = ws.length := by
        by_contra hne
        rw [List.getElem?_eq_none (by simp; omega)] at hw
        contradiction
      subst hi
      rw [Nat.sub_self, List.getElem?_cons_zero, Option.some.injEq] at hw
      subst hw
      rw [← last_iff hplace, ← word_and_stop place byte, ← hv, and_not_and_of_disjoint (by decide)]
  . have hread : isRead v = decide place.message.IsRead := by
      rw [← word_and_read place byte, ← hv]
      unfold isRead
      rw [and_not_and_of_disjoint (by decide)]
    rw [List.map_append, List.map_singleton, List.length_append, List.length_singleton,
      List.take_add_one, hplace, Option.toList_some, List.map_append, List.map_singleton, hmarked.reads,
      hread]

theorem BusMessage.countP_places {m : BusMessage} {final : Bool} :
    (m.places final).countP (fun place => decide place.message.IsRead)
      = (if m.IsRead then m.addresses else []).length := by
  unfold BusMessage.places
  rw [List.countP_map]
  by_cases hread : m.IsRead
  . rw [if_pos hread, BusMessage.length_addresses, List.countP_eq_length.mpr, List.length_range]
    intro _ _
    apply decide_eq_true hread
  . rw [if_neg hread, List.length_nil, List.countP_eq_zero]
    intro _ _
    rw [Function.comp_apply, decide_eq_true_iff]
    apply hread

theorem countP_goodSegments (hgood : ∀ m ∈ list, m.Good a) :
    (goodSegments a list).flatten.countP (fun place => decide place.message.IsRead)
      = (readAddresses list).length := by
  unfold readAddresses readSegments
  induction list with
  | nil => rfl
  | cons m list ih =>
    rw [List.forall_mem_cons] at hgood
    rw [goodSegments, if_pos hgood.1, List.flatten_cons, List.countP_append, ih hgood.2, List.map_cons,
      List.flatten_cons, List.length_append, BusMessage.countP_places]

theorem countP_goodSegments_le (a : BitVec 16) (list : List BusMessage) :
    (goodSegments a list).flatten.countP (fun place => decide place.message.IsRead)
      ≤ (readAddresses list).length := by
  unfold readAddresses readSegments
  induction list with
  | nil => apply Nat.le_refl
  | cons m list ih =>
    rw [goodSegments]
    split
    . rw [List.flatten_cons, List.countP_append, List.map_cons, List.flatten_cons, List.length_append,
        BusMessage.countP_places]
      apply Nat.add_le_add_left ih
    . apply Nat.zero_le

theorem Whole.countP_places (hwhole : Whole list) :
    (places list).countP (fun place => decide place.message.IsRead) = (readAddresses list).length := by
  cases list with
  | nil => rfl
  | cons m list =>
    apply countP_goodSegments
    intro m' hm'
    apply hwhole m' hm' m rfl

theorem Marked.readCommands_eq_countP (hmarked : Marked list ws) :
    readCommands ws
      = ((places list).take ws.length).countP fun place => decide place.message.IsRead := by
  have hreads := congrArg (List.count true) hmarked.reads
  rw [List.count_eq_countP, List.count_eq_countP, List.countP_map, List.countP_map] at hreads
  have heq : ∀ {α : Type} (f : α → Bool), ((fun b => b == true) ∘ f) = f := by
    intro α f
    funext a
    simp
  rw [heq, heq] at hreads
  apply hreads

theorem Marked.readCommands_eq (hmarked : Marked list ws) (hwhole : Whole list)
    (hcount : ws.length = (places list).length) : readCommands ws = (readAddresses list).length := by
  rw [hmarked.readCommands_eq_countP, hcount, List.take_length, hwhole.countP_places]

theorem Marked.readCommands_le (hmarked : Marked list ws) :
    readCommands ws ≤ (readAddresses list).length := by
  have htake : readCommands ws
      ≤ (places list).countP fun place => decide place.message.IsRead := by
    rw [hmarked.readCommands_eq_countP]
    apply (List.take_sublist _ _).countP_le
  cases list with
  | nil => apply htake
  | cons m list => exact Nat.le_trans htake (countP_goodSegments_le m.address (m :: list))

/--
All words have been written and executed, `e₀` is what was executed before. The bytes that were not
popped yet are in the receive FIFO.
-/
structure Finished (e₀ : List Word) (list : List BusMessage) (ws : List Word) (n : Nat) (h : Fifo) :
    Prop where
  whole : Whole list
  count : ws.length = (places list).length
  commands : readCommands ws = (readAddresses list).length
  executed : h.executed = e₀ ++ ws
  tx : h.tx = []
  received : h.rx.length + n = readCommands ws
  small : h.rx.length < 0x80000000

/--
As long as the controller has aborted nothing it has executed the first words, has the others in its
transmit FIFO and has every byte that was not popped in its receive FIFO. Then `STOP_DET` says that
it has executed all words.
-/
structure Tracked (e₀ : List Word) (list : List BusMessage) (ws : List Word) (n : Nat) (h : Fifo) :
    Prop where
  marked : Marked list ws
  sequence : h.aborted = false →
    ∃ done, h.executed = e₀ ++ done ∧ done ++ h.tx = ws ∧ h.rx.length + n = readCommands done
  small : h.aborted = false → h.owed < 0x80000000
  stop : h.aborted = false → h.stopDet = true → Finished e₀ list ws n h

namespace Finished

theorem step {depth : Nat} (hfinished : Finished e₀ list ws n h) (hstep : Fifo.Step depth h h') :
    Finished e₀ list ws n h' := by
  cases hstep with
  | execute hc =>
    rw [hfinished.tx] at hc
    contradiction
  | abort _ => exact { hfinished with tx := rfl }
  | stop _ => exact { hfinished with }

theorem read (hfinished : Finished e₀ list ws n h) (hreg : reg ≠ .dataCmd) :
    Finished e₀ list ws n (h.read reg) := by
  cases reg with
  | dataCmd => contradiction
  | clrIntr | clrTxAbrt | clrStopDet => exact { hfinished with }
  | _ => apply hfinished

theorem pop (hfinished : Finished e₀ list ws n h) (hrx : h.rx ≠ []) :
    Finished e₀ list ws (n + 1) (h.read .dataCmd) := by
  have hpos := List.length_pos_iff.mpr hrx
  have hreceived := hfinished.received
  have hsmall := hfinished.small
  exact
    { hfinished with
      received := by
        show h.rx.tail.length + (n + 1) = _
        rw [List.length_tail]
        omega
      small := by
        show h.rx.tail.length < _
        rw [List.length_tail]
        omega }

theorem write_intrMask {depth : Nat} (hfinished : Finished e₀ list ws n h) :
    Finished e₀ list ws n (h.write depth v .intrMask) :=
  { hfinished with }

theorem rx_eq_nil_iff (hfinished : Finished e₀ list ws n h) :
    h.rx = [] ↔ n = (readAddresses list).length := by
  have hreceived := hfinished.received
  have hcommands := hfinished.commands
  rw [← List.length_eq_zero_iff]
  omega

end Finished

namespace Tracked

theorem sequence_execute {txDepth depth : Nat} (htracked : Tracked e₀ list ws n h)
    (hfits : Fits txDepth depth h) (haborted : h.aborted = false) (hc : h.tx.head? = some c) :
    ∃ done, (h.execute depth c b).executed = e₀ ++ done
      ∧ done ++ (h.execute depth c b).tx = ws
      ∧ (h.execute depth c b).rx.length + n = readCommands done := by
  rcases htracked.sequence haborted with ⟨done, hexecuted, hws, hreceived⟩
  rcases List.head?_eq_some_iff.mp hc with ⟨tx, htx⟩
  refine ⟨done ++ [c], ?_, ?_, ?_⟩
  . unfold Fifo.execute
    dsimp only
    rw [hexecuted, List.append_assoc]
  . unfold Fifo.execute
    dsimp only
    rw [← hws, htx, List.tail_cons, List.append_assoc, List.singleton_append]
  . unfold Fifo.execute
    dsimp only
    rw [readCommands_append, ← hreceived]
    unfold readCommands
    by_cases hread : isRead c
    . rw [if_pos ⟨hread, hfits.room hc hread⟩, List.length_append, List.length_singleton,
        List.countP_singleton, if_pos hread]
      omega
    . rw [if_neg (fun h => hread h.1), List.countP_singleton, if_neg hread]
      rfl

theorem finished_execute {txDepth depth : Nat} (htracked : Tracked e₀ list ws n h)
    (hfits : Fits txDepth depth h) (haborted : h.aborted = false) (hc : h.tx.head? = some c)
    (hstop : c &&& 0x200 ≠ 0) : Finished e₀ list ws n (h.execute depth c b) := by
  rcases htracked.sequence_execute (b := b) hfits haborted hc with ⟨done, hexecuted, hws, hreceived⟩
  have hsmall := htracked.small haborted
  rw [← hfits.owed_execute (b := b) hc] at hsmall
  rcases htracked.sequence haborted with ⟨done', hexecuted', hws', _⟩
  rcases List.head?_eq_some_iff.mp hc with ⟨tx, htx⟩
  have hget : ws[done'.length]? = some c := by
    rw [← hws', htx, List.getElem?_append_right (Nat.le_refl _), Nat.sub_self,
      List.getElem?_cons_zero]
  rcases (htracked.marked.stop _ _ hget).mp hstop with ⟨hwhole, hlast⟩
  have hlength : done'.length + (tx.length + 1) = ws.length := by
    rw [← hws', htx, List.length_append, List.length_cons]
  have hle := htracked.marked.le
  have hnil : (h.execute depth c b).tx = [] := by
    unfold Fifo.execute
    dsimp only
    rw [htx, List.tail_cons, ← List.length_eq_zero_iff]
    omega
  rw [hnil, List.append_nil] at hws
  subst hws
  have hcount : done.length = (places list).length := by omega
  refine ⟨hwhole, hcount, htracked.marked.readCommands_eq hwhole hcount, hexecuted, hnil, hreceived,
    ?_⟩
  unfold Fifo.owed at hsmall
  omega

theorem step {txDepth depth : Nat} (htracked : Tracked e₀ list ws n h)
    (hfits : Fits txDepth depth h) (hstep : Fifo.Step depth h h') : Tracked e₀ list ws n h' := by
  cases hstep with
  | execute hc =>
    refine { htracked with sequence := ?_, small := ?_, stop := ?_ }
    . intro haborted
      apply htracked.sequence_execute hfits haborted hc
    . intro haborted
      rw [hfits.owed_execute hc]
      apply htracked.small haborted
    . intro haborted hstop
      unfold Fifo.execute at hstop
      dsimp only at hstop
      split at hstop
      . next hbit => apply htracked.finished_execute hfits haborted hc hbit
      . have := (htracked.stop haborted hstop).tx
        rw [this] at hc
        contradiction
  | abort _ =>
    exact
      { htracked with
        sequence := fun h => by contradiction
        small := fun h => by contradiction
        stop := fun h => by contradiction }
  | stop haborted =>
    refine { htracked with stop := ?_ }
    intro hfalse
    have := hfalse.symm.trans haborted
    contradiction

theorem read (htracked : Tracked e₀ list ws n h) (hreg : reg ≠ .dataCmd) :
    Tracked e₀ list ws n (h.read reg) := by
  cases reg with
  | dataCmd => contradiction
  | clrIntr | clrStopDet => exact { htracked with stop := fun _ h => by contradiction }
  | clrTxAbrt =>
    refine { htracked with stop := ?_ }
    intro haborted hstop
    exact { htracked.stop haborted hstop with }
  | _ => apply htracked

theorem pop (htracked : Tracked e₀ list ws n h) (hrx : h.rx ≠ []) :
    Tracked e₀ list ws (n + 1) (h.read .dataCmd) where
  marked := htracked.marked
  sequence haborted := by
    rcases htracked.sequence haborted with ⟨done, hexecuted, hws, hreceived⟩
    have hpos := List.length_pos_iff.mpr hrx
    refine ⟨done, hexecuted, hws, ?_⟩
    show h.rx.tail.length + (n + 1) = _
    rw [List.length_tail]
    omega
  small haborted := by
    have hsmall := htracked.small haborted
    unfold Fifo.owed at *
    show h.rx.tail.length + h.tx.countP isRead < _
    rw [List.length_tail]
    omega
  stop haborted hstop := (htracked.stop haborted hstop).pop hrx

theorem write_intrMask {depth : Nat} (htracked : Tracked e₀ list ws n h) :
    Tracked e₀ list ws n (h.write depth v .intrMask) := by
  refine { htracked with stop := ?_ }
  intro haborted hstop
  apply (htracked.stop haborted hstop).write_intrMask

theorem push {txDepth : Nat} {byte : Address → Byte} (htracked : Tracked e₀ list ws n h)
    (hwrite : h.aborted = false →
      h.write txDepth v .dataCmd = { h with tx := h.tx ++ [v], active := true })
    (hplace : (places list)[ws.length]? = some place) (hv : v &&& ~~~0x400 = place.word byte)
    (hroom : h.aborted = false → isRead v → h.owed + 1 < 0x80000000) :
    Tracked e₀ list (ws ++ [v]) n (h.write txDepth v .dataCmd) := by
  have haborted' : (h.write txDepth v .dataCmd).aborted = h.aborted := by
    apply Fifo.aborted_write
    simp
  constructor
  . apply htracked.marked.concat hplace hv
  . rw [haborted']
    intro haborted
    rcases htracked.sequence haborted with ⟨done, hexecuted, hws, hreceived⟩
    rw [hwrite haborted]
    refine ⟨done, hexecuted, ?_, hreceived⟩
    rw [← hws, List.append_assoc]
  . rw [haborted']
    intro haborted
    have hsmall := htracked.small haborted
    have hroom := hroom haborted
    rw [hwrite haborted]
    unfold Fifo.owed at *
    dsimp only
    rw [List.countP_append, List.countP_singleton]
    split
    . next hread =>
      have := hroom hread
      omega
    . omega
  . rw [haborted']
    intro haborted hstop
    rw [hwrite haborted] at hstop
    rcases List.getElem?_eq_some_iff.mp hplace with ⟨hlt, _⟩
    have := (htracked.stop haborted hstop).count
    omega

end Tracked

/--
Once all words have been executed `STOP_DET` is raised, unless it was cleared already, which is what `E`
says.
-/
def Raised (list : List BusMessage) (E : Prop) (ws : List Word) (h : Fifo) : Prop :=
  h.aborted = false → Whole list → ws ≠ [] → ws.length = (places list).length → h.tx = [] →
    h.stopDet = true ∨ E

namespace Raised

variable {E E' : Prop}

theorem weaken (hraised : Raised list E ws h) (hE : E → E') : Raised list E' ws h :=
  fun haborted hwhole hsome hcount htx =>
    (hraised haborted hwhole hsome hcount htx).imp_right hE

theorem of_step {depth : Nat} (htracked : Tracked e₀ list ws n h) (hstep : Fifo.Step depth h h') :
    Raised list E ws h' := by
  cases hstep with
  | @execute c _ b hc =>
    intro haborted hwhole hsome hcount htx
    rcases htracked.sequence haborted with ⟨done, _, hws, _⟩
    rcases List.head?_eq_some_iff.mp hc with ⟨tx, htx'⟩
    have hnil : tx = [] := by
      unfold Fifo.execute at htx
      dsimp only at htx
      rw [htx', List.tail_cons] at htx
      apply htx
    have hlength : done.length + 1 = ws.length := by
      rw [← hws, htx', hnil, List.length_append, List.length_singleton]
    have hget : ws[done.length]? = some c := by
      rw [← hws, htx', List.getElem?_append_right (Nat.le_refl _), Nat.sub_self,
        List.getElem?_cons_zero]
    have hstop := (htracked.marked.stop _ _ hget).mpr ⟨hwhole, hlength.trans hcount⟩
    left
    unfold Fifo.execute
    dsimp only
    rw [if_pos hstop]
  | abort _ =>
    intro haborted
    contradiction
  | stop _ =>
    intro _ _ _ _ _
    left
    rfl

theorem read (hraised : Raised list E ws h) (hintr : reg ≠ .clrIntr) (hstop : reg = .clrStopDet → E) :
    Raised list E ws (h.read reg) := by
  cases reg with
  | clrIntr => contradiction
  | clrStopDet =>
    intro _ _ _ _ _
    right
    apply hstop rfl
  | _ => apply hraised

theorem write_intrMask {depth : Nat} (hraised : Raised list E ws h) :
    Raised list E ws (h.write depth v .intrMask) := by
  apply hraised

theorem push {txDepth : Nat} (hwrite : h.aborted = false →
      h.write txDepth v .dataCmd = { h with tx := h.tx ++ [v], active := true }) :
    Raised list E (ws ++ [v]) (h.write txDepth v .dataCmd) := by
  intro haborted _ _ _ htx
  rw [Fifo.aborted_write _ (by simp)] at haborted
  rw [hwrite haborted] at htx
  simp at htx

end Raised

end VoodooI2C
