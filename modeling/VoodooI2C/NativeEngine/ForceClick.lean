import Mathlib.Data.List.Basic

/-!
This module contains `isForceClickEnabled` of `VoodooI2CNativeEngine`, which keeps what it read from
the preferences, and how old what it returns can be.
-/

namespace VoodooI2C

namespace NativeEngine

/--
An `OSObject` as the casts of `isForceClickEnabled` tell it apart.
-/
inductive PreferenceValue where
  | boolean (value : Bool)
  | number (value : BitVec 64)
  | other
  deriving DecidableEq, Repr

/--
The entries are in the order of the iterator.
-/
abbrev Preferences := List (String × PreferenceValue)

namespace PreferenceValue

def forbids : PreferenceValue → Bool
  | .boolean value => !value
  | .number value => value == 0
  | .other => false

end PreferenceValue

namespace Preferences

def clickingDisabled (dict : Preferences) (key : String) : Bool :=
  key == "Clicking" && (dict.lookup key).any PreferenceValue.forbids

def forceSuppressed (dict : Preferences) (key : String) (lastIsForceClickEnabled : Bool) : Bool :=
  match dict.lookup key with
  | some (.boolean value) => !value
  | _ => lastIsForceClickEnabled

/-- The loop over the keys that the iterator has not returned yet. -/
def read (dict : Preferences) (lastIsForceClickEnabled : Bool) (keys : List String) : Bool :=
  match keys with
  | [] => lastIsForceClickEnabled
  | key :: keys =>
    if dict.clickingDisabled key then
      false
    else if key = "ForceSuppressed" then
      dict.read (dict.forceSuppressed key lastIsForceClickEnabled) keys
    else
      dict.read lastIsForceClickEnabled keys

end Preferences

structure ForceClick where
  lastIsForceClickEnabled : Bool
  lastForceClickPropertyUpdateTime : BitVec 64
  deriving DecidableEq, Repr

/-- The memory of the object is zeroed when it is allocated. -/
def ForceClick.allocated : ForceClick := ⟨false, 0⟩

/--
What a call of `isForceClickEnabled` gets from the system. The dictionary is `none` if there is no
property or it is no dictionary, `iterator` is whether the iterator was allocated.
-/
structure Reading where
  now : BitVec 64
  preferences : Option Preferences
  iterator : Bool
  deriving DecidableEq, Repr

variable (absolutetimeToNanoseconds : BitVec 64 → BitVec 64)

def withinSecond (elapsed : BitVec 64) : Bool :=
  (absolutetimeToNanoseconds elapsed).toNat < 1000000000

def ForceClick.isForceClickEnabled (c : ForceClick) (reading : Reading) : Bool × ForceClick :=
  if withinSecond absolutetimeToNanoseconds
      (reading.now - c.lastForceClickPropertyUpdateTime) then
    (c.lastIsForceClickEnabled, { c with lastForceClickPropertyUpdateTime := reading.now })
  else
    match reading.preferences with
    | none => (c.lastIsForceClickEnabled, c)
    | some dict =>
      let enabled :=
        if reading.iterator then
          dict.read c.lastIsForceClickEnabled (dict.map Prod.fst)
        else
          c.lastIsForceClickEnabled
      (enabled, ⟨enabled, reading.now⟩)

namespace Preferences

/-!
What the preferences determine, for dictionaries as the system has them.
-/

structure WellFormed (dict : Preferences) : Prop where
  nodup : (dict.map Prod.fst).Nodup
  forceSuppressed : ∃ value, ("ForceSuppressed", .boolean value) ∈ dict

def determined (dict : Preferences) : Bool :=
  !dict.any (fun entry => entry.1 == "Clicking" && entry.2.forbids)
    && !dict.any (· == ("ForceSuppressed", .boolean true))

variable {dict dict' : Preferences}

theorem lookup_of_mem (hnodup : (dict.map Prod.fst).Nodup) {key : String} {value : PreferenceValue}
    (hmem : (key, value) ∈ dict) : dict.lookup key = some value := by
  induction dict with
  | nil => contradiction
  | cons entry dict ih =>
    rcases entry with ⟨key', value'⟩
    simp only [List.map_cons, List.nodup_cons] at hnodup
    rw [List.lookup_cons]
    rcases List.mem_cons.mp hmem with heq | htail
    . injection heq with hkey hvalue
      subst hkey hvalue
      simp
    . have hne : (key == key') = false := by
        simp only [beq_eq_false_iff_ne, ne_eq]
        rintro rfl
        apply hnodup.1
        exact List.mem_map_of_mem (f := Prod.fst) htail
      rw [hne]
      apply ih hnodup.2 htail

theorem clickingDisabled_of_mem (hnodup : (dict.map Prod.fst).Nodup) {key : String}
    {value : PreferenceValue} (hmem : (key, value) ∈ dict) :
    dict.clickingDisabled key = (key == "Clicking" && value.forbids) := by
  unfold clickingDisabled
  rw [lookup_of_mem hnodup hmem]
  rfl

theorem read_rest (hnodup : (dict.map Prod.fst).Nodup) {suppressed : Bool}
    (hsuppressed : ("ForceSuppressed", .boolean suppressed) ∈ dict) (rest : Preferences)
    (hrest : ∀ entry ∈ rest, entry ∈ dict) (enabled : Bool) :
    dict.read enabled (rest.map Prod.fst)
      = (!rest.any (fun entry => entry.1 == "Clicking" && entry.2.forbids)
        && if rest.any (·.1 == "ForceSuppressed") then !suppressed else enabled) := by
  have hforce : ∀ enabled, dict.forceSuppressed "ForceSuppressed" enabled = !suppressed := by
    intro enabled
    unfold forceSuppressed
    rw [lookup_of_mem hnodup hsuppressed]
  induction rest generalizing enabled with
  | nil => rfl
  | cons entry rest ih =>
    rcases entry with ⟨key, value⟩
    have hmem : (key, value) ∈ dict := hrest _ (List.mem_cons_self ..)
    have htail : ∀ entry ∈ rest, entry ∈ dict :=
      fun entry hentry => hrest entry (List.mem_cons_of_mem _ hentry)
    rw [List.map_cons]
    unfold read
    rw [clickingDisabled_of_mem hnodup hmem, List.any_cons, List.any_cons]
    by_cases hforbids : (key == "Clicking" && value.forbids) = true
    . rw [if_pos hforbids, hforbids]
      rfl
    . rw [if_neg hforbids]
      simp only [Bool.not_eq_true] at hforbids
      rw [hforbids, Bool.false_or]
      by_cases hkey : key = "ForceSuppressed"
      . subst hkey
        rw [if_pos rfl, ih htail, hforce]
        simp
      . rw [if_neg hkey, ih htail]
        have hne : (key == "ForceSuppressed") = false := by
          simp only [beq_eq_false_iff_ne, ne_eq]
          exact hkey
        rw [hne, Bool.false_or]

theorem mem_suppressed_iff (hnodup : (dict.map Prod.fst).Nodup) {suppressed : Bool}
    (hsuppressed : ("ForceSuppressed", .boolean suppressed) ∈ dict) :
    ("ForceSuppressed", .boolean true) ∈ dict ↔ suppressed = true := by
  constructor
  . intro hmem
    have heq := (lookup_of_mem hnodup hsuppressed).symm.trans (lookup_of_mem hnodup hmem)
    injection heq with heq
    injection heq
  . rintro rfl
    apply hsuppressed

theorem read_eq_determined (hdict : dict.WellFormed) (enabled : Bool) :
    dict.read enabled (dict.map Prod.fst) = dict.determined := by
  rcases hdict.forceSuppressed with ⟨suppressed, hsuppressed⟩
  have hany : dict.any (·.1 == "ForceSuppressed") = true := by
    rw [List.any_eq_true]
    exact ⟨_, hsuppressed, beq_self_eq_true _⟩
  have hvalue : dict.any (· == ("ForceSuppressed", .boolean true)) = suppressed := by
    rw [Bool.eq_iff_iff, List.any_beq', List.contains_iff_mem]
    apply mem_suppressed_iff hdict.nodup hsuppressed
  rw [read_rest hdict.nodup hsuppressed dict (fun _ h => h), hany, if_pos rfl]
  unfold determined
  rw [hvalue]

theorem WellFormed.perm (hdict : dict.WellFormed) (hperm : dict'.Perm dict) : dict'.WellFormed where
  nodup := (hperm.map Prod.fst).nodup_iff.mpr hdict.nodup
  forceSuppressed := by
    rcases hdict.forceSuppressed with ⟨value, hvalue⟩
    exact ⟨value, hperm.mem_iff.mpr hvalue⟩

theorem determined_perm (hperm : dict'.Perm dict) : dict'.determined = dict.determined := by
  unfold determined
  rw [hperm.any_eq, hperm.any_eq]

end Preferences

/-!
Runs of `isForceClickEnabled`.
-/

namespace ForceClick

def run (c : ForceClick) (readings : List Reading) : ForceClick :=
  readings.foldl (fun c reading => (c.isForceClickEnabled absolutetimeToNanoseconds reading).2) c

/--
The time of the last call that came a second or more after the call before it. `last` is the time of
the call before the first one and `read` what it is for that one.
-/
def lastRead (read last : BitVec 64) : List (BitVec 64) → BitVec 64
  | [] => read
  | now :: times =>
    lastRead (if withinSecond absolutetimeToNanoseconds (now - last) then read else now) now times

variable (preferences : BitVec 64 → Preferences)

structure Finds (reading : Reading) : Prop where
  iterator : reading.iterator = true
  dict : ∃ dict, reading.preferences = some dict ∧ dict.Perm (preferences reading.now)

def Recent (now : BitVec 64) (enabled : Bool) : Prop :=
  ∃ time ≤ now, (absolutetimeToNanoseconds (now - time)).toNat ≤ 1000000000
    ∧ enabled = (preferences time).determined

/-- The cache is of the preferences at the time `read`, the last call was at the time `last`. -/
structure Holds (read last : BitVec 64) (c : ForceClick) : Prop where
  enabled : c.lastIsForceClickEnabled = (preferences read).determined
  time : c.lastForceClickPropertyUpdateTime = last

variable {absolutetimeToNanoseconds : BitVec 64 → BitVec 64} {preferences : BitVec 64 → Preferences}
  {c : ForceClick} {reading : Reading} {read last : BitVec 64}

theorem isForceClickEnabled_reads (hwf : ∀ time, (preferences time).WellFormed)
    (hfinds : Finds preferences reading)
    (helapsed : withinSecond absolutetimeToNanoseconds
      (reading.now - c.lastForceClickPropertyUpdateTime) = false) :
    c.isForceClickEnabled absolutetimeToNanoseconds reading
      = ((preferences reading.now).determined,
        ⟨(preferences reading.now).determined, reading.now⟩) := by
  rcases hfinds.dict with ⟨dict, hdict, hperm⟩
  unfold isForceClickEnabled
  rw [helapsed, hdict, hfinds.iterator]
  simp only [Bool.false_eq_true, if_false, if_true]
  rw [Preferences.read_eq_determined ((hwf reading.now).perm hperm),
    Preferences.determined_perm hperm]

theorem isForceClickEnabled_cached
    (helapsed : withinSecond absolutetimeToNanoseconds
      (reading.now - c.lastForceClickPropertyUpdateTime) = true) :
    c.isForceClickEnabled absolutetimeToNanoseconds reading
      = (c.lastIsForceClickEnabled, ⟨c.lastIsForceClickEnabled, reading.now⟩) := by
  unfold isForceClickEnabled
  rw [if_pos helapsed]

theorem Holds.isForceClickEnabled (hwf : ∀ time, (preferences time).WellFormed)
    (hfinds : Finds preferences reading) (h : Holds preferences read last c) :
    (c.isForceClickEnabled absolutetimeToNanoseconds reading).1
        = (preferences (lastRead absolutetimeToNanoseconds read last [reading.now])).determined
      ∧ Holds preferences (lastRead absolutetimeToNanoseconds read last [reading.now]) reading.now
        (c.isForceClickEnabled absolutetimeToNanoseconds reading).2 := by
  unfold lastRead lastRead
  cases helapsed : withinSecond absolutetimeToNanoseconds (reading.now - last) with
  | true =>
    rw [← h.time] at helapsed
    rw [isForceClickEnabled_cached helapsed]
    exact ⟨h.enabled, h.enabled, rfl⟩
  | false =>
    rw [← h.time] at helapsed
    rw [isForceClickEnabled_reads hwf hfinds helapsed]
    exact ⟨rfl, rfl, rfl⟩

theorem Holds.run (hwf : ∀ time, (preferences time).WellFormed) {calls : List Reading}
    (hfinds : ∀ call ∈ calls ++ [reading], Finds preferences call)
    (h : Holds preferences read last c) :
    ((c.run absolutetimeToNanoseconds calls).isForceClickEnabled absolutetimeToNanoseconds reading).1
      = (preferences (lastRead absolutetimeToNanoseconds read last
        ((calls ++ [reading]).map Reading.now))).determined := by
  induction calls generalizing c read last with
  | nil =>
    apply (Holds.isForceClickEnabled hwf _ h).1
    exact hfinds reading (List.mem_singleton.mpr rfl)
  | cons call calls ih =>
    have hcall := hfinds call (List.mem_cons_self ..)
    have htail : ∀ call ∈ calls ++ [reading], Finds preferences call :=
      fun call hmem => hfinds call (List.mem_cons_of_mem _ hmem)
    apply ih htail (h.isForceClickEnabled hwf hcall).2

theorem allocated_first (hwf : ∀ time, (preferences time).WellFormed)
    (hfinds : Finds preferences reading)
    (hfirst : withinSecond absolutetimeToNanoseconds reading.now = false) :
    allocated.isForceClickEnabled absolutetimeToNanoseconds reading
      = ((preferences reading.now).determined,
        ⟨(preferences reading.now).determined, reading.now⟩) := by
  apply isForceClickEnabled_reads hwf hfinds
  have hzero : reading.now - allocated.lastForceClickPropertyUpdateTime = reading.now :=
    BitVec.sub_zero ..
  rw [hzero, hfirst]

theorem isForceClickEnabled_eq (hwf : ∀ time, (preferences time).WellFormed)
    {calls : List Reading} (hfinds : ∀ call ∈ calls ++ [reading], Finds preferences call)
    (hfirst : ∀ call, (calls ++ [reading]).head? = some call →
      withinSecond absolutetimeToNanoseconds call.now = false) :
    ((allocated.run absolutetimeToNanoseconds calls).isForceClickEnabled
        absolutetimeToNanoseconds reading).1
      = (preferences (lastRead absolutetimeToNanoseconds 0 0
        ((calls ++ [reading]).map Reading.now))).determined := by
  have hstart : ∀ now times, withinSecond absolutetimeToNanoseconds now = false →
      lastRead absolutetimeToNanoseconds 0 0 (now :: times)
        = lastRead absolutetimeToNanoseconds now now times := by
    intro now times hnow
    have hzero : now - 0#64 = now := BitVec.sub_zero ..
    change lastRead _ (if withinSecond absolutetimeToNanoseconds (now - 0#64) then _ else _) _ _ = _
    rw [hzero, hnow]
    rfl
  match calls with
  | [] =>
    have hnow := hfirst reading rfl
    have hreading := hfinds reading (List.mem_singleton.mpr rfl)
    rw [List.nil_append, List.map_cons, hstart _ _ hnow]
    exact congrArg Prod.fst (allocated_first hwf hreading hnow)
  | call :: calls =>
    have hnow := hfirst call rfl
    have hcall := hfinds call (List.mem_cons_self ..)
    have htail : ∀ call ∈ calls ++ [reading], Finds preferences call :=
      fun call hmem => hfinds call (List.mem_cons_of_mem _ hmem)
    rw [List.cons_append, List.map_cons, hstart _ _ hnow]
    apply Holds.run hwf htail
    change Holds _ _ _ (allocated.isForceClickEnabled absolutetimeToNanoseconds call).2
    rw [allocated_first hwf hcall hnow]
    exact ⟨rfl, rfl⟩

/--
What `isForceClickEnabled` returns is as old as the last call that came a second after the one before
it, since a call that returns the cached value also sets the time of the cache.
-/
theorem isForceClickEnabled_recent (hwf : ∀ time, (preferences time).WellFormed)
    {calls : List Reading} (hfinds : ∀ call ∈ calls ++ [reading], Finds preferences call)
    (hfirst : ∀ call, (calls ++ [reading]).head? = some call →
      withinSecond absolutetimeToNanoseconds call.now = false) :
    Recent absolutetimeToNanoseconds preferences reading.now
        ((allocated.run absolutetimeToNanoseconds calls).isForceClickEnabled
          absolutetimeToNanoseconds reading).1
      ↔ ∃ time ≤ reading.now, (absolutetimeToNanoseconds (reading.now - time)).toNat ≤ 1000000000
        ∧ (preferences (lastRead absolutetimeToNanoseconds 0 0
          ((calls ++ [reading]).map Reading.now))).determined = (preferences time).determined := by
  unfold Recent
  rw [isForceClickEnabled_eq hwf hfinds hfirst]

def suppressedLater (time : BitVec 64) : Preferences :=
  [("Clicking", .number 1), ("ForceSuppressed", .boolean (1100000000 ≤ time))]

def callAt (now : BitVec 64) : Reading := ⟨now, some (suppressedLater now), true⟩

theorem suppressedLater_wellFormed (time : BitVec 64) : (suppressedLater time).WellFormed where
  nodup := by
    simp [suppressedLater]
  forceSuppressed := ⟨1100000000 ≤ time, by simp [suppressedLater]⟩

theorem callAt_finds (now : BitVec 64) : Finds suppressedLater (callAt now) :=
  ⟨rfl, suppressedLater now, rfl, .refl _⟩

theorem isForceClickEnabled_recent_twice :
    Recent id suppressedLater (callAt 1900000000).now
      ((allocated.run id [callAt 1000000000]).isForceClickEnabled id (callAt 1900000000)).1 := by
  apply (isForceClickEnabled_recent suppressedLater_wellFormed ?_ ?_).mpr
  . refine ⟨1000000000, by decide, by decide, ?_⟩
    decide
  . intro call hmem
    simp only [List.cons_append, List.nil_append, List.mem_cons, List.not_mem_nil, or_false] at hmem
    rcases hmem with rfl | rfl <;> apply callAt_finds
  . intro call hcall
    injection hcall with hcall
    subst hcall
    decide

theorem isForceClickEnabled_not_recent :
    (∀ time, (suppressedLater time).WellFormed) ∧ (∀ now, Finds suppressedLater (callAt now))
      ∧ withinSecond id (callAt 1000000000).now = false
      ∧ ¬ Recent id suppressedLater (callAt 2800000000).now
        ((allocated.run id [callAt 1000000000, callAt 1900000000]).isForceClickEnabled id
          (callAt 2800000000)).1 := by
  refine ⟨suppressedLater_wellFormed, callAt_finds, by decide, ?_⟩
  have henabled : ((allocated.run id [callAt 1000000000, callAt 1900000000]).isForceClickEnabled id
      (callAt 2800000000)).1 = true := by
    decide
  rw [henabled]
  rintro ⟨time, hle, hrecent, hvalue⟩
  have hlate : (1100000000 : BitVec 64) ≤ time := by
    change (2800000000 - time).toNat ≤ 1000000000 at hrecent
    bv_omega
  unfold suppressedLater at hvalue
  rw [decide_eq_true hlate] at hvalue
  revert hvalue
  decide

end ForceClick

end NativeEngine

end VoodooI2C
