import VoodooI2C.NativeEngine.Fill

/-!
This module contains what a message depends on: the event it is made of, and whether a stylus has been
seen before.
-/

namespace VoodooI2C

namespace NativeEngine

variable {v : VoodooInput} {absolutetimeToNanoseconds : BitVec 64 → BitVec 64} {report : Report}
  {firstTransducer : DigitiserTransducer} {n i : Nat}

theorem thumbSearch_congr {transducers transducers' : Nat → InputTransducer}
    (h : ∀ i < n, transducers i = transducers' i) :
    thumbSearch transducers n = thumbSearch transducers' n := by
  induction n with
  | zero => rfl
  | succ n ih =>
    unfold thumbSearch
    rw [ih (fun i hi => h i (Nat.lt_succ_of_lt hi)), h n (Nat.lt_succ_self n)]

theorem setThumb_congr {transducers transducers' : Nat → InputTransducer} {max : Nat}
    (hpos : 0 < max) (hn : n ≤ max) (h : ∀ i < max, transducers i = transducers' i) (hi : i < max) :
    setThumb v transducers n i = setThumb v transducers' n i := by
  have hsearch : thumbSearch transducers n = thumbSearch transducers' n :=
    thumbSearch_congr (fun i hi => h i (Nat.lt_of_lt_of_le hi hn))
  have hthumb : (thumbSearch transducers' n).2 < max := by
    rcases thumbSearch_lt transducers' n with hlt | hzero
    . exact Nat.lt_of_lt_of_le hlt hn
    . rw [hzero]
      exact hpos
  unfold setThumb
  dsimp only
  rw [hsearch]
  unfold Report.store
  rw [h _ hthumb, h i hi]

/-! What a slot says of the transducer at its index. -/

structure Position where
  secondaryId : BitVec 16
  type : Nat
  isValid : Bool
  x : BitVec 16
  y : BitVec 16
  previousX : BitVec 16
  previousY : BitVec 16
  deriving DecidableEq, Repr

def InputTransducer.position (slot : InputTransducer) : Position :=
  ⟨slot.secondaryId, slot.type, slot.isValid, slot.currentCoordinates.x, slot.currentCoordinates.y,
    slot.previousCoordinates.x, slot.previousCoordinates.y⟩

def positionOf (v : VoodooInput) (transducer : Option DigitiserTransducer) : Position :=
  match transducer with
  | none => ⟨0, 0, false, 0, 0, 0, 0⟩
  | some transducer =>
    ⟨transducer.secondaryId, if transducer.type = .finger then v.finger else v.stylus,
      transducer.isValid, transducer.x.value, transducer.y.value, transducer.x.last, transducer.y.last⟩

theorem setThumb_position (transducers : Nat → InputTransducer) :
    (setThumb v transducers n i).position = (transducers i).position := by
  unfold setThumb Report.store
  dsimp only
  split
  . next heq =>
    rw [heq]
    rfl
  . rfl

theorem Report.slot_position (transducer : DigitiserTransducer) (forced : Bool) :
    (report.slot v i transducer forced).position = positionOf v (some transducer) := by
  cases forced <;> rfl

namespace Engine

variable {Client : Type} {engine engine' : Engine Client}

def forcedAt (v : VoodooInput) (absolutetimeToNanoseconds : BitVec 64 → BitVec 64)
    (engine : Engine Client) (report : Report) (firstTransducer : DigitiserTransducer) (i : Nat) :
    Bool :=
  report.forcedAt v absolutetimeToNanoseconds firstTransducer (engine.checkStylus firstTransducer)
    (engine.startFill v) i

theorem filled_slot (hi : i < v.maxTransducers) :
    (engine.filled v absolutetimeToNanoseconds report firstTransducer).transducers i
      = if i < report.event.contactCount.toNat then
          match report.contact (engine.checkStylus firstTransducer) i with
          | none => .zero
          | some transducer => report.slot v i transducer
            (engine.forcedAt v absolutetimeToNanoseconds report firstTransducer i)
        else
          .zero := by
  have hstart : (engine.startFill v).transducers i = .zero := if_pos hi
  unfold filled
  rw [Report.fill_transducers, hstart]
  rfl

theorem slots_position (hi : i < v.maxTransducers) (hcontact : i < report.event.contactCount.toNat) :
    (engine.slots v absolutetimeToNanoseconds report firstTransducer i).position
      = positionOf v (report.contact (engine.checkStylus firstTransducer) i) := by
  have hfilled : ((engine.filled v absolutetimeToNanoseconds report firstTransducer).transducers
      i).position = positionOf v (report.contact (engine.checkStylus firstTransducer) i) := by
    rw [filled_slot hi, if_pos hcontact]
    split
    . next hnone =>
      rw [hnone]
      rfl
    . next transducer hsome =>
      rw [hsome]
      apply Report.slot_position
  unfold slots
  split
  . rw [setThumb_position, hfilled]
  . exact hfilled

theorem takesThumb_congr
    (hshift : engine.checkStylus firstTransducer = engine'.checkStylus firstTransducer) :
    takesThumb firstTransducer (engine.filled v absolutetimeToNanoseconds report firstTransducer)
      = takesThumb firstTransducer
        (engine'.filled v absolutetimeToNanoseconds report firstTransducer) := by
  rw [Bool.eq_iff_iff, takesThumb_iff, takesThumb_iff]
  unfold SearchesThumb
  rw [hshift]

theorem slots_congr (hcount : report.event.contactCount.toNat ≤ v.maxTransducers)
    (hshift : engine.checkStylus firstTransducer = engine'.checkStylus firstTransducer)
    (hforced : ∀ j < report.event.contactCount.toNat,
      engine.forcedAt v absolutetimeToNanoseconds report firstTransducer j
        = engine'.forcedAt v absolutetimeToNanoseconds report firstTransducer j)
    (hi : i < v.maxTransducers) :
    engine.slots v absolutetimeToNanoseconds report firstTransducer i
      = engine'.slots v absolutetimeToNanoseconds report firstTransducer i := by
  have hfilled : ∀ j < v.maxTransducers,
      (engine.filled v absolutetimeToNanoseconds report firstTransducer).transducers j
        = (engine'.filled v absolutetimeToNanoseconds report firstTransducer).transducers j := by
    intro j hj
    rw [filled_slot hj, filled_slot hj, hshift]
    split
    . next hlt => rw [hforced j hlt]
    . rfl
  unfold slots
  rw [takesThumb_congr hshift]
  split
  . exact setThumb_congr v.maxTransducers_pos hcount hfilled hi
  . exact hfilled i hi

/-! Runs. -/

variable [DecidableEq Client]

/--
An event of the run has a stylus as its first transducer, and a client was open then.
-/
def StylusSeen (v : VoodooInput) (absolutetimeToNanoseconds : BitVec 64 → BitVec 64)
    (identified : Client → Bool) (engine : Engine Client) (calls : List (Call Client)) : Prop :=
  ∃ before report firstTransducer after, calls = before ++ .handleInterruptReport report :: after
    ∧ (engine.run v absolutetimeToNanoseconds identified before).voodooInputInstance.isSome
    ∧ report.event.transducers[0]? = some firstTransducer ∧ firstTransducer.type = .stylus

variable {identified : Client → Bool} {calls : List (Call Client)} {c : Call Client}

theorem StylusSeen.cons
    (h : StylusSeen v absolutetimeToNanoseconds identified
      (engine.call v absolutetimeToNanoseconds identified c) calls) :
    StylusSeen v absolutetimeToNanoseconds identified engine (c :: calls) := by
  rcases h with ⟨before, report, firstTransducer, after, rfl, hopen, hfirst, hstylus⟩
  exact ⟨c :: before, report, firstTransducer, after, rfl, hopen, hfirst, hstylus⟩

theorem call_stylusCheck
    (h : ¬ StylusSeen v absolutetimeToNanoseconds identified engine (c :: calls)) :
    (engine.call v absolutetimeToNanoseconds identified c).stylusCheck = engine.stylusCheck := by
  cases c with
  | handleOpen forClient =>
    change (engine.handleOpen identified forClient).2.stylusCheck = _
    unfold handleOpen
    split
    . rfl
    . split <;> rfl
  | handleClose forClient =>
    change (engine.handleClose forClient).stylusCheck = _
    unfold handleClose
    split
    . rfl
    . split <;> rfl
  | handleInterruptReport report =>
    change (engine.handleInterruptReport v absolutetimeToNanoseconds report).engine.stylusCheck = _
    cases hclient : engine.voodooInputInstance with
    | none => rw [handleInterruptReport_closed hclient]
    | some client =>
      have hopen : engine.voodooInputInstance.isSome := by
        rw [hclient]
        rfl
      cases hfirst : report.event.transducers[0]? with
      | none => rw [handleInterruptReport_empty hopen hfirst]
      | some firstTransducer =>
        rw [handleInterruptReport_sends hopen hfirst]
        have hstylus : firstTransducer.type ≠ .stylus := by
          intro hstylus
          exact h ⟨[], report, firstTransducer, calls, rfl, hopen, hfirst, hstylus⟩
        exact if_neg hstylus

theorem run_stylusCheck (h : ¬ StylusSeen v absolutetimeToNanoseconds identified engine calls) :
    (engine.run v absolutetimeToNanoseconds identified calls).stylusCheck = engine.stylusCheck := by
  induction calls generalizing engine with
  | nil => rfl
  | cons c calls ih =>
    change ((engine.call v absolutetimeToNanoseconds identified c).run v absolutetimeToNanoseconds
      identified calls).stylusCheck = _
    rw [ih (fun hseen => h hseen.cons), call_stylusCheck h]

def Unshifted (v : VoodooInput) (absolutetimeToNanoseconds : BitVec 64 → BitVec 64)
    (identified : Client → Bool) (engine : Engine Client) (calls : List (Call Client))
    (firstTransducer : DigitiserTransducer) : Prop :=
  firstTransducer.type = .stylus
    ∨ ¬ StylusSeen v absolutetimeToNanoseconds identified engine.start calls

theorem Unshifted.checkStylus
    (h : Unshifted v absolutetimeToNanoseconds identified engine calls firstTransducer) :
    (engine.start.run v absolutetimeToNanoseconds identified calls).checkStylus firstTransducer
      = ownShift firstTransducer := by
  unfold Engine.checkStylus ownShift
  rcases h with hstylus | hseen
  . rw [if_pos hstylus, if_pos hstylus]
  . rw [run_stylusCheck hseen]
    rfl

/--
In a run in which an event has a stylus first if an earlier one had, a message depends on its own event
and on the preference about force clicks only.
-/
theorem handleInterruptReport_own {timestamp : BitVec 64} {contactCount : BitVec 8}
    {sent : List InputTransducer}
    (hcount : report.event.contactCount.toNat ≤ v.maxTransducers)
    (hfirst : report.event.transducers[0]? = some firstTransducer)
    (hclear : Unshifted v absolutetimeToNanoseconds identified engine calls firstTransducer)
    (hsent : .voodooInput timestamp contactCount sent
      ∈ ((engine.start.run v absolutetimeToNanoseconds identified calls).handleInterruptReport v
        absolutetimeToNanoseconds report).messages) :
    (∀ i < report.event.contactCount.toNat, ∃ slot, sent[i]? = some slot
        ∧ slot.position
          = positionOf v (report.event.transducers[i + ownShift firstTransducer]?))
      ∧
    ∀ (engine' : Engine Client) (calls' : List (Call Client)),
      Unshifted v absolutetimeToNanoseconds identified engine' calls' firstTransducer →
      (engine'.start.run v absolutetimeToNanoseconds identified calls').voodooInputInstance.isSome →
      (∀ i < report.event.contactCount.toNat,
        (engine.start.run v absolutetimeToNanoseconds identified calls).forcedAt v
            absolutetimeToNanoseconds report firstTransducer i
          = (engine'.start.run v absolutetimeToNanoseconds identified calls').forcedAt v
            absolutetimeToNanoseconds report firstTransducer i) →
      ((engine'.start.run v absolutetimeToNanoseconds identified calls').handleInterruptReport v
          absolutetimeToNanoseconds report).messages
        = ((engine.start.run v absolutetimeToNanoseconds identified calls).handleInterruptReport v
          absolutetimeToNanoseconds report).messages := by
  rcases sent_slots hsent with ⟨first, hopen, hfirst', rfl⟩
  rw [hfirst] at hfirst'
  injection hfirst' with hfirst'
  subst hfirst'
  constructor
  . intro i hi
    have hlt : i < v.maxTransducers := Nat.lt_of_lt_of_le hi hcount
    refine ⟨_, Report.sent_eq_some.mpr ⟨hlt, rfl⟩, ?_⟩
    rw [slots_position hlt hi, hclear.checkStylus]
    rfl
  . intro engine' calls' hclear' hopen' hforced
    have hshift : (engine'.start.run v absolutetimeToNanoseconds identified calls').checkStylus
          firstTransducer
        = (engine.start.run v absolutetimeToNanoseconds identified calls).checkStylus
          firstTransducer := by
      rw [hclear.checkStylus, hclear'.checkStylus]
    rw [handleInterruptReport_sends hopen' hfirst, handleInterruptReport_sends hopen hfirst]
    dsimp only
    unfold sendMessages
    rw [List.map_congr_left (fun i hi => slots_congr hcount hshift
      (fun j hj => (hforced j hj).symm) (List.mem_range.mp hi))]

def transducerAt (type : DigitiserTransducerType) (x : BitVec 16) : DigitiserTransducer :=
  { DigitiserTransducer.resting with type, x := ⟨x, x⟩ }

def reportOf (transducers : List DigitiserTransducer) : Report where
  event := ⟨1, transducers⟩
  timestamp := 0
  readings _ := ⟨0, none, false⟩

def stylusCalls : List (Call Nat) :=
  [.handleOpen (some 0),
    .handleInterruptReport (reportOf [transducerAt .stylus 1, transducerAt .finger 2])]

def afterOpen : Engine Nat := opened.start.run .ten id (fun _ => true) [.handleOpen (some 0)]

def afterStylus : Engine Nat := opened.start.run .ten id (fun _ => true) stylusCalls

def twoOf (type : DigitiserTransducerType) : Report :=
  reportOf [transducerAt type 3, transducerAt .finger 4]

theorem afterStylus_sends (type : DigitiserTransducerType) :
    .voodooInput 0 1 ((List.range VoodooInput.ten.maxTransducers).map
        (afterStylus.slots .ten id (twoOf type) (transducerAt type 3)))
      ∈ (afterStylus.handleInterruptReport .ten id (twoOf type)).messages := by
  rw [handleInterruptReport_sends rfl rfl]
  apply List.mem_cons_self

theorem handleInterruptReport_own_stylus :
    (afterOpen.handleInterruptReport .ten id (twoOf .stylus)).messages
      = (afterStylus.handleInterruptReport .ten id (twoOf .stylus)).messages := by
  apply (handleInterruptReport_own (by decide) rfl (.inl rfl) (afterStylus_sends .stylus)).2
  . exact .inl rfl
  . rfl
  . intro i hi
    rfl

/--
An event without a stylus after one with a stylus: the finger at index 0 is not in the message.
-/
theorem handleInterruptReport_not_own :
    (∃ sent, .voodooInput 0 1 sent
        ∈ (afterStylus.handleInterruptReport .ten id (twoOf .finger)).messages
      ∧ ∀ slot, sent[0]? = some slot →
        slot.position ≠ positionOf .ten (some (transducerAt .finger 3)))
      ∧ (afterOpen.handleInterruptReport .ten id (twoOf .finger)).messages
        ≠ (afterStylus.handleInterruptReport .ten id (twoOf .finger)).messages := by
  constructor
  . refine ⟨_, afterStylus_sends .finger, ?_⟩
    intro slot hslot
    rcases Report.sent_eq_some.mp hslot with ⟨_, rfl⟩
    decide +kernel
  . decide +kernel

end Engine

end NativeEngine

end VoodooI2C
