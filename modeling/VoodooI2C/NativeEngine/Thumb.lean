import VoodooI2C.NativeEngine.Fill

/-!
This module contains which slots of a message are marked as palm and as thumb.
-/

namespace VoodooI2C

namespace NativeEngine

variable {v : VoodooInput} {absolutetimeToNanoseconds : BitVec 64 → BitVec 64} {report : Report}
  {firstTransducer transducer : DigitiserTransducer} {n k i : Nat}

/--
The last one of the valid slots that have the largest `y`.
-/
structure Lowest (transducers : Nat → InputTransducer) (n k : Nat) : Prop where
  lt : k < n
  valid : (transducers k).isValid = true
  le : ∀ j < n, (transducers j).isValid = true →
    (transducers j).currentCoordinates.y ≤ (transducers k).currentCoordinates.y
  last : ∀ j < n, k < j → (transducers j).isValid = true →
    (transducers j).currentCoordinates.y < (transducers k).currentCoordinates.y

theorem setWidth_le_iff (a b : BitVec 16) : a.setWidth 32 ≤ b.setWidth 32 ↔ a ≤ b := by
  bv_omega

structure Found (transducers : Nat → InputTransducer) (n : Nat) (found : BitVec 32 × Nat) : Prop where
  lowest : Lowest transducers n found.2
  yMax : found.1 = (transducers found.2).currentCoordinates.y.setWidth 32

theorem Found.step {transducers : Nat → InputTransducer} {found : BitVec 32 × Nat}
    (h : Found transducers n found) :
    Found transducers (n + 1)
      (if (transducers n).isValid ∧ found.1 ≤ (transducers n).currentCoordinates.y.setWidth 32 then
        ((transducers n).currentCoordinates.y.setWidth 32, n)
      else
        found) := by
  have hcases : ∀ j < n + 1, j = n ∨ j < n := by omega
  split
  . next hn =>
    rw [h.yMax, setWidth_le_iff] at hn
    refine ⟨⟨Nat.lt_succ_self n, hn.1, ?_, ?_⟩, rfl⟩
    . intro j hj hvalid
      rcases hcases j hj with rfl | hlt
      . apply BitVec.le_refl
      . exact BitVec.le_trans (h.lowest.le j hlt hvalid) hn.2
    . intro j hj hlt
      omega
  . next hn =>
    rw [h.yMax, setWidth_le_iff] at hn
    have hlt : (transducers n).isValid = true →
        (transducers n).currentCoordinates.y < (transducers found.2).currentCoordinates.y := by
      intro hvalid
      apply BitVec.not_le.mp
      intro hle
      exact hn ⟨hvalid, hle⟩
    refine ⟨⟨Nat.lt_succ_of_lt h.lowest.lt, h.lowest.valid, ?_, ?_⟩, h.yMax⟩
    . intro j hj hvalid
      rcases hcases j hj with rfl | hj
      . exact BitVec.le_of_lt (hlt hvalid)
      . exact h.lowest.le j hj hvalid
    . intro j hj hk hvalid
      rcases hcases j hj with rfl | hj
      . exact hlt hvalid
      . exact h.lowest.last j hj hk hvalid

theorem found_first {transducers : Nat → InputTransducer}
    (hnone : ∀ j < n, (transducers j).isValid = false) (hvalid : (transducers n).isValid = true) :
    Found transducers (n + 1) ((transducers n).currentCoordinates.y.setWidth 32, n) := by
  refine ⟨⟨Nat.lt_succ_self n, hvalid, ?_, ?_⟩, rfl⟩
  . intro j hj hj'
    have hn : j = n := by
      apply Nat.eq_of_lt_succ_of_not_lt hj
      intro hlt
      rw [hnone j hlt] at hj'
      contradiction
    rw [hn]
    apply BitVec.le_refl
  . intro j hj hlt
    dsimp only at hlt
    omega

theorem thumbSearch_found (transducers : Nat → InputTransducer) (n : Nat) :
    (∀ j < n, (transducers j).isValid = false) ∧ thumbSearch transducers n = (0, 0)
      ∨ Found transducers n (thumbSearch transducers n) := by
  induction n with
  | zero => exact .inl ⟨fun j hj => absurd hj (Nat.not_lt_zero j), rfl⟩
  | succ n ih =>
    have hstep : thumbSearch transducers (n + 1)
        = if (transducers n).isValid
            ∧ (thumbSearch transducers n).1 ≤ (transducers n).currentCoordinates.y.setWidth 32 then
          ((transducers n).currentCoordinates.y.setWidth 32, n)
        else
          thumbSearch transducers n :=
      rfl
    rw [hstep]
    rcases ih with ⟨hnone, hzero⟩ | hfound
    . rw [hzero]
      cases hvalid : (transducers n).isValid with
      | true =>
        right
        rw [if_pos ⟨rfl, Nat.zero_le _⟩]
        apply found_first hnone hvalid
      | false =>
        left
        rw [if_neg (fun h => Bool.false_ne_true h.1)]
        refine ⟨?_, rfl⟩
        intro j hj
        rcases Nat.lt_succ_iff_lt_or_eq.mp hj with hlt | rfl
        . exact hnone j hlt
        . exact hvalid
    . exact .inr hfound.step

/-! The contacts of an event and the slots that they get. -/

structure VoodooInput.PalmApart (v : VoodooInput) : Prop where
  ne_zero : v.fingerTypePalm ≠ 0
  ne_finger : ∀ i < 4, v.fingerTypePalm ≠ v.fingerTypeIndexFinger + i

theorem VoodooInput.ten_palmApart : VoodooInput.ten.PalmApart where
  ne_zero := by decide
  ne_finger i _ := by
    show 6 ≠ 2 + i
    omega

namespace Report

def HasContact (report : Report) (stylusCheck i : Nat) (transducer : DigitiserTransducer) : Prop :=
  i < report.event.contactCount.toNat ∧ report.contact stylusCheck i = some transducer

structure Thumb (report : Report) (stylusCheck k : Nat) (transducer : DigitiserTransducer) :
    Prop where
  contact : report.HasContact stylusCheck k transducer
  valid : transducer.isValid = true
  le : ∀ j other, report.HasContact stylusCheck j other → other.isValid = true →
    other.y.value ≤ transducer.y.value
  last : ∀ j other, report.HasContact stylusCheck j other → k < j → other.isValid = true →
    other.y.value < transducer.y.value

theorem Thumb.unique {stylusCheck j : Nat} {other : DigitiserTransducer}
    (h : report.Thumb stylusCheck k transducer) (h' : report.Thumb stylusCheck j other) : j = k := by
  rcases Nat.lt_trichotomy j k with hlt | heq | hlt
  . have hlast := h'.last k transducer h.contact hlt h.valid
    exact absurd (h.le j other h'.contact h'.valid) (BitVec.not_le.mpr hlast)
  . exact heq
  . have hlast := h.last j other h'.contact hlt h'.valid
    exact absurd (h'.le k transducer h.contact h.valid) (BitVec.not_le.mpr hlast)

structure Shows (v : VoodooInput) (report : Report) (stylusCheck : Nat)
    (transducers : Nat → InputTransducer) : Prop where
  contact : ∀ i transducer, report.HasContact stylusCheck i transducer →
    (transducers i).fingerType = fingerType v i transducer
      ∧ (transducers i).isValid = transducer.isValid
      ∧ (transducers i).currentCoordinates.y = transducer.y.value
  zero : ∀ i < v.maxTransducers, (∀ transducer, ¬ report.HasContact stylusCheck i transducer) →
    transducers i = .zero

theorem fingerType_ne_thumb (v : VoodooInput) (i : Nat) (transducer : DigitiserTransducer) :
    fingerType v i transducer ≠ v.fingerTypeThumb := by
  unfold fingerType
  split
  . exact v.thumb_ne_palm.symm
  . exact (v.thumb_ne_finger (i % 4) (Nat.mod_lt i (by decide))).symm

variable {stylusCheck : Nat} {transducers : Nat → InputTransducer}

theorem Shows.contact_of_valid (h : report.Shows v stylusCheck transducers) (hi : i < v.maxTransducers)
    (hvalid : (transducers i).isValid = true) :
    ∃ transducer, report.HasContact stylusCheck i transducer := by
  apply Classical.byContradiction
  intro hnone
  rw [h.zero i hi (fun transducer hcontact => hnone ⟨transducer, hcontact⟩)] at hvalid
  contradiction

theorem Shows.ne_thumb (h : report.Shows v stylusCheck transducers) (hi : i < v.maxTransducers) :
    (transducers i).fingerType ≠ v.fingerTypeThumb := by
  by_cases hcontact : ∃ transducer, report.HasContact stylusCheck i transducer
  . rcases hcontact with ⟨transducer, hcontact⟩
    rw [(h.contact i transducer hcontact).1]
    apply fingerType_ne_thumb
  . rw [h.zero i hi (fun transducer hcontact' => hcontact ⟨transducer, hcontact'⟩)]
    exact v.thumb_ne_zero.symm

theorem Shows.thumb (h : report.Shows v stylusCheck transducers)
    (hcount : report.event.contactCount.toNat ≤ v.maxTransducers)
    (hlowest : Lowest transducers report.event.contactCount.toNat k) :
    ∃ transducer, report.Thumb stylusCheck k transducer := by
  rcases h.contact_of_valid (Nat.lt_of_lt_of_le hlowest.lt hcount) hlowest.valid
    with ⟨transducer, hcontact⟩
  rcases h.contact k transducer hcontact with ⟨_, hvalid, hy⟩
  refine ⟨transducer, hcontact, hvalid ▸ hlowest.valid, ?_, ?_⟩
  . intro j other hother hother'
    rcases h.contact j other hother with ⟨_, hvalid', hy'⟩
    rw [← hy, ← hy']
    exact hlowest.le j hother.1 (hvalid'.trans hother')
  . intro j other hother hlt hother'
    rcases h.contact j other hother with ⟨_, hvalid', hy'⟩
    rw [← hy, ← hy']
    exact hlowest.last j hother.1 hlt (hvalid'.trans hother')

def LowestFinger (report : Report) (stylusCheck k : Nat) : Prop :=
  ∃ transducer, report.HasContact stylusCheck k transducer ∧ transducer.isValid = true
    ∧ transducer.confidence.value ≠ 0
    ∧ ∀ j other, report.HasContact stylusCheck j other → other.isValid = true →
      other.confidence.value ≠ 0 → other.y.value ≤ transducer.y.value

/--
Contacts without confidence are palms, and the thumb is a finger at least as low as all others.
-/
structure Marked (v : VoodooInput) (report : Report) (stylusCheck : Nat)
    (sent : List InputTransducer) : Prop where
  palm : ∀ i transducer, report.HasContact stylusCheck i transducer →
    transducer.confidence.value = 0 →
    ∃ slot, sent[i]? = some slot ∧ slot.fingerType = v.fingerTypePalm
  one : ∀ (i j : Nat) (slot slot' : InputTransducer), sent[i]? = some slot → sent[j]? = some slot' →
    slot.fingerType = v.fingerTypeThumb → slot'.fingerType = v.fingerTypeThumb → i = j
  thumb : ∀ (i : Nat) (slot : InputTransducer), sent[i]? = some slot →
    slot.fingerType = v.fingerTypeThumb → report.LowestFinger stylusCheck i

/-! The contacts `own` of an event, and the slots that are filled with another shift. -/

variable {own : Nat}

def PalmsKept (report : Report) (own stylusCheck : Nat) : Prop :=
  ∀ i transducer, report.HasContact own i transducer → transducer.confidence.value = 0 →
    ∃ shown, report.HasContact stylusCheck i shown ∧ shown.confidence.value = 0

theorem palmsKept_self (report : Report) (own : Nat) : report.PalmsKept own own :=
  fun _ transducer hcontact hpalm => ⟨transducer, hcontact, hpalm⟩

theorem Shows.palm_iff (h : report.Shows v stylusCheck transducers) (hpalm : v.PalmApart)
    (hi : i < v.maxTransducers) :
    (transducers i).fingerType = v.fingerTypePalm
      ↔ ∃ shown, report.HasContact stylusCheck i shown ∧ shown.confidence.value = 0 := by
  constructor
  . intro hmarked
    by_cases hcontact : ∃ shown, report.HasContact stylusCheck i shown
    . rcases hcontact with ⟨shown, hcontact⟩
      refine ⟨shown, hcontact, ?_⟩
      rw [(h.contact i shown hcontact).1] at hmarked
      unfold fingerType at hmarked
      split at hmarked
      . assumption
      . exact absurd hmarked.symm (hpalm.ne_finger (i % 4) (Nat.mod_lt i (by decide)))
    . rw [h.zero i hi (fun shown hcontact' => hcontact ⟨shown, hcontact'⟩)] at hmarked
      exact absurd hmarked.symm hpalm.ne_zero
  . rintro ⟨shown, hcontact, hconfidence⟩
    rw [(h.contact i shown hcontact).1]
    unfold fingerType
    rw [if_pos hconfidence]

theorem Shows.marked_iff (h : report.Shows v stylusCheck transducers) (hpalm : v.PalmApart)
    (hcount : report.event.contactCount.toNat ≤ v.maxTransducers) :
    Marked v report own ((List.range v.maxTransducers).map transducers)
      ↔ report.PalmsKept own stylusCheck := by
  constructor
  . intro hmarked i transducer hcontact hconfidence
    rcases hmarked.palm i transducer hcontact hconfidence with ⟨slot, hslot, htype⟩
    rcases sent_eq_some.mp hslot with ⟨hi, rfl⟩
    exact (h.palm_iff hpalm hi).mp htype
  . intro hkept
    refine ⟨?_, ?_, ?_⟩
    . intro i transducer hcontact hconfidence
      have hi : i < v.maxTransducers := Nat.lt_of_lt_of_le hcontact.1 hcount
      exact ⟨transducers i, sent_eq_some.mpr ⟨hi, rfl⟩,
        (h.palm_iff hpalm hi).mpr (hkept i transducer hcontact hconfidence)⟩
    . intro i j slot slot' hslot _ hthumb _
      rcases sent_eq_some.mp hslot with ⟨hi, rfl⟩
      exact absurd hthumb (h.ne_thumb hi)
    . intro i slot hslot hthumb
      rcases sent_eq_some.mp hslot with ⟨hi, rfl⟩
      exact absurd hthumb (h.ne_thumb hi)

def withThumb (v : VoodooInput) (transducers : Nat → InputTransducer) (k : Nat) :
    Nat → InputTransducer :=
  store transducers k { transducers k with fingerType := v.fingerTypeThumb }

theorem withThumb_self (v : VoodooInput) (transducers : Nat → InputTransducer) (k : Nat) :
    (withThumb v transducers k k).fingerType = v.fingerTypeThumb := by
  unfold withThumb
  rw [store_self]

theorem Shows.eq_of_thumb (h : report.Shows v stylusCheck transducers) (hi : i < v.maxTransducers)
    (hthumb : (withThumb v transducers k i).fingerType = v.fingerTypeThumb) : i = k := by
  apply Classical.byContradiction
  intro hne
  unfold withThumb at hthumb
  rw [store_ne _ _ hne] at hthumb
  exact h.ne_thumb hi hthumb

theorem Shows.marked_withThumb_iff (h : report.Shows v stylusCheck transducers)
    (hpalm : v.PalmApart) (hcount : report.event.contactCount.toNat ≤ v.maxTransducers)
    (hk : k < v.maxTransducers) :
    Marked v report own ((List.range v.maxTransducers).map (withThumb v transducers k))
      ↔ report.PalmsKept own stylusCheck ∧ report.LowestFinger own k := by
  constructor
  . intro hmarked
    have hlowest := hmarked.thumb k _ (sent_eq_some.mpr ⟨hk, rfl⟩) (withThumb_self v transducers k)
    refine ⟨?_, hlowest⟩
    intro i transducer hcontact hconfidence
    rcases hmarked.palm i transducer hcontact hconfidence with ⟨slot, hslot, htype⟩
    rcases sent_eq_some.mp hslot with ⟨hi, rfl⟩
    have hne : i ≠ k := by
      rintro rfl
      rw [withThumb_self] at htype
      exact v.thumb_ne_palm htype
    unfold withThumb at htype
    rw [store_ne _ _ hne] at htype
    exact (h.palm_iff hpalm hi).mp htype
  . rintro ⟨hkept, hlowest⟩
    refine ⟨?_, ?_, ?_⟩
    . intro i other hcontact hconfidence
      have hi : i < v.maxTransducers := Nat.lt_of_lt_of_le hcontact.1 hcount
      refine ⟨_, sent_eq_some.mpr ⟨hi, rfl⟩, ?_⟩
      have hne : i ≠ k := by
        rintro rfl
        rcases hlowest with ⟨transducer, hcontact', _, hconfidence', _⟩
        have heq := hcontact.2.symm.trans hcontact'.2
        injection heq with heq
        rw [heq] at hconfidence
        exact hconfidence' hconfidence
      unfold withThumb
      rw [store_ne _ _ hne]
      exact (h.palm_iff hpalm hi).mpr (hkept i other hcontact hconfidence)
    . intro i j slot slot' hslot hslot' hi hj
      rcases sent_eq_some.mp hslot with ⟨hlt, rfl⟩
      rcases sent_eq_some.mp hslot' with ⟨hlt', rfl⟩
      exact (h.eq_of_thumb hlt hi).trans (h.eq_of_thumb hlt' hj).symm
    . intro i slot hslot hi
      rcases sent_eq_some.mp hslot with ⟨hlt, rfl⟩
      rw [h.eq_of_thumb hlt hi]
      exact hlowest

/--
The index that the search ends with: it stays 0 if no contact is valid.
-/
def ThumbAt (report : Report) (stylusCheck k : Nat) : Prop :=
  (∃ transducer, report.Thumb stylusCheck k transducer)
    ∨ k = 0 ∧ ∀ j other, report.HasContact stylusCheck j other → other.isValid = false

theorem ThumbAt.unique {j : Nat} (h : report.ThumbAt stylusCheck k)
    (h' : report.ThumbAt stylusCheck j) : j = k := by
  rcases h with ⟨transducer, h⟩ | ⟨rfl, hnone⟩
  . rcases h' with ⟨other, h'⟩ | ⟨_, hnone⟩
    . exact h.unique h'
    . exact absurd (h.valid.symm.trans (hnone k transducer h.contact)) (by simp)
  . rcases h' with ⟨other, h'⟩ | ⟨rfl, _⟩
    . exact absurd (h'.valid.symm.trans (hnone j other h'.contact)) (by simp)
    . rfl

theorem Shows.thumbAt (h : report.Shows v stylusCheck transducers)
    (hcount : report.event.contactCount.toNat ≤ v.maxTransducers) :
    report.ThumbAt stylusCheck (thumbSearch transducers report.event.contactCount.toNat).2 := by
  rcases thumbSearch_found transducers report.event.contactCount.toNat with ⟨hnone, hzero⟩ | hfound
  . right
    rw [hzero]
    refine ⟨rfl, ?_⟩
    intro j other hother
    rw [← (h.contact j other hother).2.1]
    apply hnone j hother.1
  . exact .inl (h.thumb hcount hfound.lowest)

theorem Shows.marked_setThumb_iff (h : report.Shows v stylusCheck transducers)
    (hpalm : v.PalmApart) (hcount : report.event.contactCount.toNat ≤ v.maxTransducers) :
    Marked v report own ((List.range v.maxTransducers).map
        (setThumb v transducers report.event.contactCount.toNat))
      ↔ report.PalmsKept own stylusCheck
        ∧ ∃ k, report.ThumbAt stylusCheck k ∧ report.LowestFinger own k := by
  have hset : setThumb v transducers report.event.contactCount.toNat
      = withThumb v transducers (thumbSearch transducers report.event.contactCount.toNat).2 :=
    rfl
  have hindex := h.thumbAt hcount
  have hlt : (thumbSearch transducers report.event.contactCount.toNat).2 < v.maxTransducers := by
    have hpos := v.maxTransducers_pos
    rcases thumbSearch_lt transducers report.event.contactCount.toNat with hlt | hzero <;> omega
  rw [hset, h.marked_withThumb_iff hpalm hcount hlt]
  constructor
  . intro ⟨hkept, hlowest⟩
    exact ⟨hkept, _, hindex, hlowest⟩
  . rintro ⟨hkept, k, hk, hlowest⟩
    rw [hindex.unique hk] at hlowest
    exact ⟨hkept, hlowest⟩

theorem exists_thumbAt_iff :
    (∃ k, report.ThumbAt own k ∧ report.LowestFinger own k)
      ↔ ∃ k transducer, report.Thumb own k transducer ∧ transducer.confidence.value ≠ 0 := by
  constructor
  . rintro ⟨k, ⟨transducer, hthumb⟩ | ⟨rfl, hnone⟩, other, hother, hvalid, hconfidence, _⟩
    . have heq := hother.2.symm.trans hthumb.contact.2
      injection heq with heq
      exact ⟨k, transducer, hthumb, heq ▸ hconfidence⟩
    . exact absurd (hvalid.symm.trans (hnone 0 other hother)) (by simp)
  . rintro ⟨k, transducer, hthumb, hconfidence⟩
    exact ⟨k, .inl ⟨transducer, hthumb⟩, transducer, hthumb.contact, hthumb.valid, hconfidence,
      fun j other hother hvalid _ => hthumb.le j other hother hvalid⟩

end Report

namespace Engine

variable {Client : Type} {engine : Engine Client}

theorem filled_shows :
    report.Shows v (engine.checkStylus firstTransducer)
      (engine.filled v absolutetimeToNanoseconds report firstTransducer).transducers where
  contact i transducer hcontact := by
    unfold filled
    rw [Report.fill_transducers, if_pos hcontact.1, hcontact.2]
    simp
  zero i hi hnone := by
    have hstart : (engine.startFill v).transducers i = .zero := if_pos hi
    unfold filled
    rw [Report.fill_transducers, hstart]
    split
    . next hlt =>
      split
      . rfl
      . next transducer hcontact =>
        exact absurd ⟨hlt, hcontact⟩ (hnone transducer)
    . rfl

/--
The marks of an event are right exactly if no thumb is searched or the lowest valid contact is one with
confidence. If another event has left its shift, they are so by chance only.
-/
theorem handleInterruptReport_marked {timestamp : BitVec 64} {contactCount : BitVec 8}
    {sent : List InputTransducer} (hpalm : v.PalmApart)
    (hcount : report.event.contactCount.toNat ≤ v.maxTransducers)
    (hfirst : report.event.transducers[0]? = some firstTransducer)
    (hsent : .voodooInput timestamp contactCount sent
      ∈ (engine.handleInterruptReport v absolutetimeToNanoseconds report).messages) :
    report.Marked v (ownShift firstTransducer) sent
      ↔
    if engine.checkStylus firstTransducer = ownShift firstTransducer then
      engine.SearchesThumb report firstTransducer →
        ∃ k transducer, report.Thumb (ownShift firstTransducer) k transducer
          ∧ transducer.confidence.value ≠ 0
    else
      report.PalmsKept (ownShift firstTransducer) (engine.checkStylus firstTransducer)
        ∧ (engine.SearchesThumb report firstTransducer →
          ∃ k, report.ThumbAt (engine.checkStylus firstTransducer) k
            ∧ report.LowestFinger (ownShift firstTransducer) k) := by
  rcases sent_slots hsent with ⟨first, _, hfirst', rfl⟩
  rw [hfirst] at hfirst'
  injection hfirst' with hfirst'
  subst hfirst'
  have hshows : report.Shows v (engine.checkStylus firstTransducer)
      (engine.filled v absolutetimeToNanoseconds report firstTransducer).transducers :=
    filled_shows
  have hmarked : report.Marked v (ownShift firstTransducer) ((List.range v.maxTransducers).map
        (engine.slots v absolutetimeToNanoseconds report firstTransducer))
      ↔ report.PalmsKept (ownShift firstTransducer) (engine.checkStylus firstTransducer)
        ∧ (engine.SearchesThumb report firstTransducer →
          ∃ k, report.ThumbAt (engine.checkStylus firstTransducer) k
            ∧ report.LowestFinger (ownShift firstTransducer) k) := by
    unfold slots
    dsimp only
    rw [← takesThumb_iff v absolutetimeToNanoseconds]
    split
    . next hthumb =>
      rw [hshows.marked_setThumb_iff hpalm hcount]
      simp only [hthumb, true_implies]
    . next hthumb =>
      rw [hshows.marked_iff hpalm hcount]
      exact ⟨fun hkept => ⟨hkept, fun hsearch => absurd hsearch hthumb⟩, fun h => h.1⟩
  rw [hmarked]
  split
  . next hshift =>
    rw [hshift, Report.exists_thumbAt_iff]
    exact ⟨fun h => h.2, fun h => ⟨report.palmsKept_self _, h⟩⟩
  . rfl

def pressed (confidence : BitVec 16) : Report where
  event := ⟨2, [{ DigitiserTransducer.resting with physicalButton := ⟨1, 0⟩ },
    { DigitiserTransducer.resting with confidence := ⟨confidence, 0⟩, y := ⟨200, 200⟩ }]⟩
  timestamp := 0
  readings _ := ⟨0, none, false⟩

theorem pressed_sends (confidence : BitVec 16) :
    .voodooInput 0 2 ((List.range VoodooInput.ten.maxTransducers).map
        (opened.slots .ten id (pressed confidence)
          { DigitiserTransducer.resting with physicalButton := ⟨1, 0⟩ }))
      ∈ (opened.handleInterruptReport .ten id (pressed confidence)).messages := by
  rw [handleInterruptReport_sends rfl rfl]
  apply List.mem_cons_self

theorem handleInterruptReport_marked_pressed :
    (pressed 1).Marked .ten 0 ((List.range VoodooInput.ten.maxTransducers).map
      (opened.slots .ten id (pressed 1)
        { DigitiserTransducer.resting with physicalButton := ⟨1, 0⟩ })) := by
  apply (handleInterruptReport_marked VoodooInput.ten_palmApart (by decide) rfl (pressed_sends 1)).mpr
  rw [if_pos (by rfl)]
  intro _
  refine ⟨1, { DigitiserTransducer.resting with confidence := ⟨1, 0⟩, y := ⟨200, 200⟩ }, ?_, by decide⟩
  refine ⟨⟨by decide, rfl⟩, rfl, ?_, ?_⟩
  . rintro j other ⟨hj, hother⟩ _
    match j with
    | 0 | 1 =>
      injection hother with hother
      subst hother
      decide
    | j + 2 => contradiction
  . rintro j other ⟨hj, _⟩ hlt
    change j < 2 at hj
    omega

def lonePalm : Report where
  event := ⟨1, [{ DigitiserTransducer.resting with confidence := ⟨0, 0⟩ }]⟩
  timestamp := 0
  readings _ := ⟨0, none, false⟩

def shifted : Engine Nat := { opened with stylusCheck := 1 }

/--
The lower contact has no confidence: it is a palm and is marked as thumb. With the shift that another
event has left, a palm is not marked at all.
-/
theorem handleInterruptReport_not_marked :
    (∃ sent, .voodooInput 0 2 sent
        ∈ (opened.handleInterruptReport .ten id (pressed 0)).messages
      ∧ ¬ (pressed 0).Marked .ten 0 sent)
      ∧ ∃ sent, .voodooInput 0 1 sent
          ∈ (shifted.handleInterruptReport .ten id lonePalm).messages
        ∧ ¬ lonePalm.Marked .ten 0 sent := by
  constructor
  . refine ⟨_, pressed_sends 0, ?_⟩
    intro hmarked
    rcases hmarked.palm 1 _ ⟨by decide, rfl⟩ rfl with ⟨slot, hslot, hpalm⟩
    rcases Report.sent_eq_some.mp hslot with ⟨_, rfl⟩
    revert hpalm
    decide +kernel
  . refine ⟨_, List.mem_singleton.mpr rfl, ?_⟩
    intro hmarked
    rcases hmarked.palm 0 _ ⟨by decide, rfl⟩ rfl with ⟨slot, hslot, hpalm⟩
    rcases Report.sent_eq_some.mp hslot with ⟨_, rfl⟩
    revert hpalm
    decide +kernel

end Engine

end NativeEngine

end VoodooI2C
