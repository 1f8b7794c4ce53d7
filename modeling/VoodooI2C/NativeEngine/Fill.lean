import VoodooI2C.NativeEngine.Basic

/-!
This module contains what the loop of `handleInterruptReport` leaves in the message, and which parts of
the message are accessed.
-/

namespace VoodooI2C

namespace NativeEngine

variable {v : VoodooInput} {absolutetimeToNanoseconds : BitVec 64 → BitVec 64} {report : Report}
  {firstTransducer : DigitiserTransducer} {stylusCheck : Nat} {start : Report.Fill} {n i : Nat}

namespace Report

@[simp]
theorem store_self (transducers : Nat → InputTransducer) (i : Nat) (slot : InputTransducer) :
    store transducers i slot i = slot := if_pos rfl

@[simp]
theorem store_ne (transducers : Nat → InputTransducer) {i j : Nat} (slot : InputTransducer)
    (h : j ≠ i) : store transducers i slot j = transducers j := if_neg h

-- The fields that the emulation of force touch does not change.
@[simp]
theorem slot_fingerType (transducer : DigitiserTransducer) (forced : Bool) :
    (report.slot v i transducer forced).fingerType = fingerType v i transducer := by
  cases forced <;> rfl

@[simp]
theorem slot_isValid (transducer : DigitiserTransducer) (forced : Bool) :
    (report.slot v i transducer forced).isValid = transducer.isValid := by
  cases forced <;> rfl

@[simp]
theorem slot_y (transducer : DigitiserTransducer) (forced : Bool) :
    (report.slot v i transducer forced).currentCoordinates.y = transducer.y.value := by
  cases forced <;> rfl

def forcedAt (v : VoodooInput) (absolutetimeToNanoseconds : BitVec 64 → BitVec 64) (report : Report)
    (firstTransducer : DigitiserTransducer) (stylusCheck : Nat) (start : Fill) (i : Nat) : Bool :=
  (report.forced absolutetimeToNanoseconds firstTransducer
    (report.fill v absolutetimeToNanoseconds firstTransducer stylusCheck start i).forceClick i).1

def contact (report : Report) (stylusCheck : Nat) (i : Nat) : Option DigitiserTransducer :=
  report.event.transducers[i + stylusCheck]?

theorem fill_none (h : report.contact stylusCheck n = none) :
    report.fill v absolutetimeToNanoseconds firstTransducer stylusCheck start (n + 1)
      = report.fill v absolutetimeToNanoseconds firstTransducer stylusCheck start n := by
  unfold contact at h
  rw [fill]
  unfold fillStep
  rw [h]

theorem fill_some {transducer : DigitiserTransducer} (h : report.contact stylusCheck n = some transducer) :
    let fill := report.fill v absolutetimeToNanoseconds firstTransducer stylusCheck start n
    let fill' := report.fill v absolutetimeToNanoseconds firstTransducer stylusCheck start (n + 1)
    fill'.transducers = store fill.transducers n (report.slot v n transducer
        (report.forcedAt v absolutetimeToNanoseconds firstTransducer stylusCheck start n))
      ∧ fill'.validTouchCount = fill.validTouchCount + (if transducer.isValid then 1 else 0)
      ∧ fill'.accesses = fill.accesses ++ [n] := by
  unfold contact at h
  intro fill fill'
  have hfill' : fill' = report.fillStep v absolutetimeToNanoseconds firstTransducer stylusCheck fill n :=
    rfl
  rw [hfill']
  unfold fillStep
  rw [h]
  exact ⟨rfl, rfl, rfl⟩

theorem fill_transducers :
    (report.fill v absolutetimeToNanoseconds firstTransducer stylusCheck start n).transducers i
      = if i < n then
          match report.contact stylusCheck i with
          | none => start.transducers i
          | some transducer => report.slot v i transducer
            (report.forcedAt v absolutetimeToNanoseconds firstTransducer stylusCheck start i)
        else
          start.transducers i := by
  induction n with
  | zero => rfl
  | succ n ih =>
    cases hcontact : report.contact stylusCheck n with
    | none =>
      rw [fill_none hcontact, ih]
      by_cases hi : i = n
      . subst hi
        rw [if_neg (Nat.lt_irrefl _), if_pos (Nat.lt_succ_self _), hcontact]
      . have hlt : i < n ↔ i < n + 1 := by omega
        simp only [hlt]
    | some transducer =>
      rw [(fill_some hcontact).1]
      by_cases hi : i = n
      . subst hi
        rw [store_self, if_pos (Nat.lt_succ_self _), hcontact]
      . have hlt : i < n ↔ i < n + 1 := by omega
        rw [store_ne _ _ hi, ih]
        simp only [hlt]

theorem mem_fill_accesses (hstart : start.accesses = []) :
    i ∈ (report.fill v absolutetimeToNanoseconds firstTransducer stylusCheck start n).accesses
      ↔ i < n ∧ (report.contact stylusCheck i).isSome := by
  induction n with
  | zero => simp [fill, hstart]
  | succ n ih =>
    cases hcontact : report.contact stylusCheck n with
    | none =>
      rw [fill_none hcontact, ih]
      constructor
      . intro ⟨hlt, hsome⟩
        exact ⟨by omega, hsome⟩
      . intro ⟨hlt, hsome⟩
        have hne : i ≠ n := by
          rintro rfl
          rw [hcontact] at hsome
          contradiction
        exact ⟨by omega, hsome⟩
    | some transducer =>
      rw [(fill_some hcontact).2.2, List.mem_append, List.mem_singleton, ih]
      constructor
      . rintro (⟨hlt, hsome⟩ | rfl)
        . exact ⟨by omega, hsome⟩
        . exact ⟨by omega, by rw [hcontact]; rfl⟩
      . intro ⟨hlt, hsome⟩
        by_cases hi : i = n
        . exact .inr hi
        . exact .inl ⟨by omega, hsome⟩

def valid (report : Report) (stylusCheck : Nat) (i : Nat) : Bool :=
  (report.contact stylusCheck i).any (·.isValid)

theorem fill_validTouchCount (hstart : start.validTouchCount = 0) :
    (report.fill v absolutetimeToNanoseconds firstTransducer stylusCheck start n).validTouchCount
      = ((List.range n).filter (report.valid stylusCheck)).length := by
  induction n with
  | zero => exact hstart
  | succ n ih =>
    rw [List.range_succ, List.filter_append, List.length_append, ← ih]
    cases hcontact : report.contact stylusCheck n with
    | none =>
      have hvalid : report.valid stylusCheck n = false := by
        unfold valid
        rw [hcontact]
        rfl
      rw [fill_none hcontact]
      simp [hvalid]
    | some transducer =>
      have hvalid : report.valid stylusCheck n = transducer.isValid := by
        unfold valid
        rw [hcontact]
        rfl
      rw [(fill_some hcontact).2.1, List.filter_singleton, hvalid]
      cases transducer.isValid <;> rfl

theorem sent_eq_some {transducers : Nat → InputTransducer} {slot : InputTransducer} :
    ((List.range n).map transducers)[i]? = some slot ↔ i < n ∧ transducers i = slot := by
  rw [List.getElem?_map, Option.map_eq_some_iff]
  constructor
  . rintro ⟨j, hj, heq⟩
    rcases List.getElem?_eq_some_iff.mp hj with ⟨hlt, rfl⟩
    rw [List.length_range] at hlt
    rw [List.getElem_range] at heq
    exact ⟨hlt, heq⟩
  . intro ⟨hlt, heq⟩
    exact ⟨i, List.getElem?_range hlt, heq⟩

def validCount (report : Report) (stylusCheck : Nat) : Nat :=
  ((List.range report.event.contactCount.toNat).filter (report.valid stylusCheck)).length

end Report

theorem thumbSearch_lt (transducers : Nat → InputTransducer) (n : Nat) :
    (thumbSearch transducers n).2 < n ∨ (thumbSearch transducers n).2 = 0 := by
  induction n with
  | zero => exact .inr rfl
  | succ n ih =>
    unfold thumbSearch
    dsimp only
    split
    . exact .inl (Nat.lt_succ_self n)
    . dsimp only
      omega

/-! Values for examples. -/

theorem VoodooInput.ten_values :
    0 < 10 ∧ 10 < 255 ∧ 1 ≠ 0 ∧ 1 ≠ 6 ∧ ∀ i < 4, 1 ≠ 2 + i := by
  refine ⟨by decide, by decide, by decide, by decide, ?_⟩
  intro i _
  omega

def VoodooInput.ten : VoodooInput where
  maxTransducers := 10
  finger := 1
  stylus := 2
  fingerTypeIndexFinger := 2
  fingerTypeThumb := 1
  fingerTypePalm := 6
  maxTransducers_pos := ten_values.1
  maxTransducers_lt := ten_values.2.1
  thumb_ne_zero := ten_values.2.2.1
  thumb_ne_palm := ten_values.2.2.2.1
  thumb_ne_finger := ten_values.2.2.2.2

def DigitiserTransducer.resting : DigitiserTransducer where
  type := .finger
  secondaryId := 0
  isValid := true
  hasSecondaryButton := false
  physicalButton := ⟨0, 0⟩
  confidence := ⟨1, 1⟩
  tipSwitch := ⟨1, 1⟩
  tipPressure := ⟨0, 0⟩
  x := ⟨100, 100⟩
  y := ⟨100, 100⟩

namespace Engine

variable {Client : Type} {engine : Engine Client}

/-- `stylus_check` of an engine that has seen no other event. -/
def ownShift (firstTransducer : DigitiserTransducer) : Nat :=
  if firstTransducer.type = .stylus then 1 else 0

def SearchesThumb (engine : Engine Client) (report : Report)
    (firstTransducer : DigitiserTransducer) : Prop :=
  4 ≤ report.validCount (engine.checkStylus firstTransducer)
    ∨ firstTransducer.physicalButton.value ≠ 0

theorem takesThumb_iff (v : VoodooInput) (absolutetimeToNanoseconds : BitVec 64 → BitVec 64) :
    takesThumb firstTransducer (engine.filled v absolutetimeToNanoseconds report firstTransducer) = true
      ↔ engine.SearchesThumb report firstTransducer := by
  have hcount : (engine.filled v absolutetimeToNanoseconds report firstTransducer).validTouchCount
      = report.validCount (engine.checkStylus firstTransducer) :=
    Report.fill_validTouchCount rfl
  unfold takesThumb SearchesThumb
  rw [hcount, Bool.or_eq_true, decide_eq_true_eq, bne_iff_ne]

def slots (v : VoodooInput) (absolutetimeToNanoseconds : BitVec 64 → BitVec 64)
    (engine : Engine Client) (report : Report) (firstTransducer : DigitiserTransducer) :
    Nat → InputTransducer :=
  let fill := engine.filled v absolutetimeToNanoseconds report firstTransducer
  if takesThumb firstTransducer fill then
    setThumb v fill.transducers report.event.contactCount.toNat
  else
    fill.transducers

def thumbAccesses (v : VoodooInput) (absolutetimeToNanoseconds : BitVec 64 → BitVec 64)
    (engine : Engine Client) (report : Report) (firstTransducer : DigitiserTransducer) : List Nat :=
  let fill := engine.filled v absolutetimeToNanoseconds report firstTransducer
  if takesThumb firstTransducer fill then
    List.range report.event.contactCount.toNat
      ++ [(thumbSearch fill.transducers report.event.contactCount.toNat).2]
  else
    []

theorem not_isNone (hopen : engine.voodooInputInstance.isSome) :
    ¬ engine.voodooInputInstance.isNone = true := by
  rw [Option.isNone_iff_eq_none]
  intro hnone
  rw [hnone] at hopen
  contradiction

theorem handleInterruptReport_closed (hclosed : engine.voodooInputInstance = none) :
    engine.handleInterruptReport v absolutetimeToNanoseconds report
      = ⟨engine, multitouchReturnContinue, [], []⟩ := by
  unfold handleInterruptReport
  rw [hclosed]
  rfl

theorem handleInterruptReport_empty (hopen : engine.voodooInputInstance.isSome)
    (hfirst : report.event.transducers[0]? = none) :
    engine.handleInterruptReport v absolutetimeToNanoseconds report
      = ⟨{ engine with
            message := ⟨report.timestamp, report.event.contactCount,
              clearTransducers v engine.message.transducers⟩ },
          multitouchReturnBreak, [], []⟩ := by
  unfold handleInterruptReport
  rw [if_neg (not_isNone hopen), hfirst]

theorem handleInterruptReport_sends (hopen : engine.voodooInputInstance.isSome)
    (hfirst : report.event.transducers[0]? = some firstTransducer) :
    engine.handleInterruptReport v absolutetimeToNanoseconds report
      = { engine :=
            { engine with
              message := ⟨report.timestamp, report.event.contactCount,
                engine.slots v absolutetimeToNanoseconds report firstTransducer⟩
              forceClick :=
                (engine.filled v absolutetimeToNanoseconds report firstTransducer).forceClick
              stylusCheck := engine.checkStylus firstTransducer }
          ret := multitouchReturnBreak
          messages := sendMessages v report firstTransducer
            (engine.slots v absolutetimeToNanoseconds report firstTransducer)
          accesses :=
            (engine.filled v absolutetimeToNanoseconds report firstTransducer).accesses
              ++ engine.thumbAccesses v absolutetimeToNanoseconds report firstTransducer } := by
  unfold handleInterruptReport
  rw [if_neg (not_isNone hopen), hfirst]
  rfl

theorem sent_slots {timestamp : BitVec 64} {contactCount : BitVec 8} {sent : List InputTransducer}
    (hsent : .voodooInput timestamp contactCount sent
      ∈ (engine.handleInterruptReport v absolutetimeToNanoseconds report).messages) :
    ∃ firstTransducer, engine.voodooInputInstance.isSome
      ∧ report.event.transducers[0]? = some firstTransducer
      ∧ sent = (List.range v.maxTransducers).map
        (engine.slots v absolutetimeToNanoseconds report firstTransducer) := by
  cases hclient : engine.voodooInputInstance with
  | none =>
    rw [handleInterruptReport_closed hclient] at hsent
    contradiction
  | some client =>
    have hopen : engine.voodooInputInstance.isSome := by
      rw [hclient]
      rfl
    cases hfirst : report.event.transducers[0]? with
    | none =>
      rw [handleInterruptReport_empty hopen hfirst] at hsent
      contradiction
    | some firstTransducer =>
      rw [handleInterruptReport_sends hopen hfirst] at hsent
      refine ⟨firstTransducer, rfl, rfl, ?_⟩
      unfold sendMessages at hsent
      rcases List.mem_cons.mp hsent with heq | hpointer
      . injection heq
      . split at hpointer
        . have := List.mem_singleton.mp hpointer
          contradiction
        . contradiction

theorem mem_filled_accesses :
    i ∈ (engine.filled v absolutetimeToNanoseconds report firstTransducer).accesses
      ↔ i < report.event.contactCount.toNat
        ∧ i + engine.checkStylus firstTransducer < report.event.transducers.length := by
  unfold filled
  rw [Report.mem_fill_accesses rfl]
  unfold Report.contact
  rw [Option.isSome_iff_ne_none, ne_eq, List.getElem?_eq_none_iff, Nat.not_le]

/--
The message has a slot for every contact, or the contacts that have none are not in the array of
transducers and no thumb is searched among them.
-/
def Fits (v : VoodooInput) (engine : Engine Client) (report : Report)
    (firstTransducer : DigitiserTransducer) : Prop :=
  report.event.contactCount.toNat ≤ v.maxTransducers
    ∨ report.event.transducers.length ≤ v.maxTransducers + engine.checkStylus firstTransducer
      ∧ ¬ engine.SearchesThumb report firstTransducer

theorem sends_inBounds :
    (∀ i ∈ (engine.filled v absolutetimeToNanoseconds report firstTransducer).accesses
        ++ engine.thumbAccesses v absolutetimeToNanoseconds report firstTransducer,
      i < v.maxTransducers)
      ↔ engine.Fits v report firstTransducer := by
  unfold thumbAccesses Fits
  dsimp only
  rw [← takesThumb_iff v absolutetimeToNanoseconds]
  have hpos := v.maxTransducers_pos
  constructor
  . intro h
    by_cases hcount : report.event.contactCount.toNat ≤ v.maxTransducers
    . exact .inl hcount
    . right
      constructor
      . apply Nat.le_of_not_lt
        intro hlength
        have hmem : v.maxTransducers
            ∈ (engine.filled v absolutetimeToNanoseconds report firstTransducer).accesses := by
          apply mem_filled_accesses.mpr
          omega
        have := h _ (List.mem_append_left _ hmem)
        omega
      . intro hthumb
        have hmem : v.maxTransducers ∈ List.range report.event.contactCount.toNat := by
          rw [List.mem_range]
          omega
        rw [if_pos hthumb] at h
        have := h _ (List.mem_append_right _ (List.mem_append_left _ hmem))
        omega
  . intro hfits i hi
    rw [List.mem_append] at hi
    rcases hfits with hcount | ⟨hlength, hthumb⟩
    . rcases hi with hi | hi
      . have := mem_filled_accesses.mp hi
        omega
      . split at hi
        . rw [List.mem_append, List.mem_range, List.mem_singleton] at hi
          rcases hi with hi | rfl
          . omega
          . have := thumbSearch_lt
              (engine.filled v absolutetimeToNanoseconds report firstTransducer).transducers
              report.event.contactCount.toNat
            omega
        . contradiction
    . rw [if_neg hthumb] at hi
      rcases hi with hi | hi
      . have := mem_filled_accesses.mp hi
        omega
      . contradiction

/--
The accesses are inside of the array exactly if there is nothing to send or the message fits.
-/
theorem handleInterruptReport_inBounds (v : VoodooInput)
    (absolutetimeToNanoseconds : BitVec 64 → BitVec 64) (engine : Engine Client) (report : Report) :
    (∀ i ∈ (engine.handleInterruptReport v absolutetimeToNanoseconds report).accesses,
      i < v.maxTransducers)
      ↔
    ∀ client firstTransducer, engine.voodooInputInstance = some client →
      report.event.transducers[0]? = some firstTransducer →
      engine.Fits v report firstTransducer := by
  cases hclient : engine.voodooInputInstance with
  | none =>
    rw [handleInterruptReport_closed hclient]
    simp
  | some client =>
    have hopen : engine.voodooInputInstance.isSome := by
      rw [hclient]
      rfl
    cases hfirst : report.event.transducers[0]? with
    | none =>
      rw [handleInterruptReport_empty hopen hfirst]
      simp
    | some firstTransducer =>
      rw [handleInterruptReport_sends hopen hfirst]
      dsimp only
      rw [sends_inBounds]
      simp

def opened : Engine Nat where
  message := ⟨0, 0, fun _ => .zero⟩
  voodooInputInstance := some 0
  forceClick := .allocated
  stylusCheck := 0
  references c := if c = 0 then 1 else 0

theorem handleInterruptReport_not_inBounds :
    ¬ ∀ i ∈ (opened.handleInterruptReport .ten id
        ⟨⟨11, List.replicate 11 .resting⟩, 0, fun _ => ⟨0, none, false⟩⟩).accesses,
      i < VoodooInput.ten.maxTransducers := by
  intro h
  have hmem : 10 ∈ (opened.handleInterruptReport .ten id
      ⟨⟨11, List.replicate 11 .resting⟩, 0, fun _ => ⟨0, none, false⟩⟩).accesses := by
    decide +kernel
  have := h 10 hmem
  revert this
  decide

end Engine

end NativeEngine

end VoodooI2C
