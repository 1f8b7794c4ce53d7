import VoodooI2C.NativeEngine.Fill

/-!
This module contains the references of the engine on its clients: which clients it holds after opens
and closes in any order.
-/

namespace VoodooI2C

namespace NativeEngine

variable {Client : Type} [DecidableEq Client]

/-- `opened` tells for which clients the last successful call was an open. -/
structure Tracked (Client : Type) where
  engine : Engine Client
  opened : Client → Bool

namespace Tracked

-- A close is successful for the client that is open. `some (client, true)` is an open.
def succeeds (identified : Client → Bool) (engine : Engine Client) :
    Engine.Call Client → Option (Client × Bool)
  | .handleOpen (some client) => if identified client then some (client, true) else none
  | .handleClose (some client) =>
    if engine.voodooInputInstance = some client then some (client, false) else none
  | _ => none

def record (opened : Client → Bool) : Option (Client × Bool) → Client → Bool
  | none => opened
  | some (client, isOpen) => fun c => if c = client then isOpen else opened c

variable (v : VoodooInput) (absolutetimeToNanoseconds : BitVec 64 → BitVec 64)
  (identified : Client → Bool)

def call (t : Tracked Client) (c : Engine.Call Client) : Tracked Client where
  engine := t.engine.call v absolutetimeToNanoseconds identified c
  opened := record t.opened (succeeds identified t.engine c)

def run (t : Tracked Client) (calls : List (Engine.Call Client)) : Tracked Client :=
  calls.foldl (call v absolutetimeToNanoseconds identified) t

-- After `start`, no client has been opened.
def started (engine : Engine Client) : Tracked Client where
  engine := { engine.start with references := fun _ => 0 }
  opened _ := false

structure Balanced (t : Tracked Client) : Prop where
  references : ∀ client, t.engine.references client
    = if t.engine.voodooInputInstance = some client then 1 else 0
  opened : ∀ client, t.opened client = true → t.engine.handleIsOpen (some client) = true

variable {v : VoodooInput} {absolutetimeToNanoseconds : BitVec 64 → BitVec 64}
  {identified : Client → Bool} {t : Tracked Client} {client : Client}

theorem handleIsOpen_iff {engine : Engine Client} :
    engine.handleIsOpen (some client) = true ↔ engine.voodooInputInstance = some client := by
  unfold Engine.handleIsOpen
  rw [Bool.and_eq_true, beq_iff_eq]
  constructor
  . intro h
    exact h.2.symm
  . intro h
    exact ⟨by rw [h]; rfl, h.symm⟩

theorem started_balanced (engine : Engine Client) : Balanced (started engine) where
  references _ := rfl
  opened _ h := absurd h Bool.false_ne_true

theorem Balanced.of_unchanged {t' : Tracked Client} (h : t.Balanced)
    (hreferences : t'.engine.references = t.engine.references)
    (hinstance : t'.engine.voodooInputInstance = t.engine.voodooInputInstance)
    (hopened : t'.opened = t.opened) : t'.Balanced where
  references client := by
    rw [hreferences, hinstance, h.references]
  opened client hclient := by
    rw [hopened] at hclient
    rw [handleIsOpen_iff, hinstance]
    exact handleIsOpen_iff.mp (h.opened client hclient)

theorem Balanced.open (h : t.Balanced) (hidentified : identified client = true)
    (hnone : t.engine.voodooInputInstance = none) :
    (t.call v absolutetimeToNanoseconds identified (.handleOpen (some client))).Balanced := by
  have hcall : t.call v absolutetimeToNanoseconds identified (.handleOpen (some client))
      = ⟨{ t.engine with voodooInputInstance := some client }.addReference client 1,
        record t.opened (some (client, true))⟩ := by
    unfold call succeeds Engine.call Engine.handleOpen
    simp only [hidentified, if_true]
  rw [hcall]
  constructor
  . intro other
    have hzero : t.engine.references other = 0 := by
      rw [h.references, hnone]
      simp
    change (if other = client then t.engine.references other + 1 else t.engine.references other)
      = if some client = some other then 1 else 0
    rw [hzero]
    by_cases hother : other = client
    . rw [if_pos hother, if_pos (congrArg some hother.symm)]
      rfl
    . rw [if_neg hother, if_neg (fun heq => hother (Option.some.inj heq).symm)]
  . intro other hopened
    change (if other = client then true else t.opened other) = true at hopened
    rw [handleIsOpen_iff]
    by_cases hother : other = client
    . rw [hother]
      rfl
    . rw [if_neg hother] at hopened
      have hopen := handleIsOpen_iff.mp (h.opened other hopened)
      rw [hnone] at hopen
      contradiction

theorem Balanced.close (h : t.Balanced) (hclient : t.engine.voodooInputInstance = some client) :
    (t.call v absolutetimeToNanoseconds identified (.handleClose (some client))).Balanced := by
  have hcall : t.call v absolutetimeToNanoseconds identified (.handleClose (some client))
      = ⟨{ t.engine.addReference client (-1) with voodooInputInstance := none },
        record t.opened (some (client, false))⟩ := by
    unfold call succeeds Engine.call Engine.handleClose
    simp only [hclient, if_true]
  rw [hcall]
  constructor
  . intro other
    have hreferences := h.references other
    rw [hclient] at hreferences
    change (if other = client then t.engine.references other + -1 else t.engine.references other)
      = if none = some other then 1 else 0
    rw [hreferences]
    by_cases hother : other = client
    . rw [if_pos hother, if_pos (congrArg some hother.symm)]
      simp
    . rw [if_neg hother, if_neg (fun heq => hother (Option.some.inj heq).symm)]
      simp
  . intro other hopened
    change (if other = client then false else t.opened other) = true at hopened
    by_cases hother : other = client
    . rw [if_pos hother] at hopened
      contradiction
    . rw [if_neg hother] at hopened
      have hopen := handleIsOpen_iff.mp (h.opened other hopened)
      rw [hclient] at hopen
      exact absurd (Option.some.inj hopen).symm hother

theorem handleClose_other {engine : Engine Client} {forClient : Option Client}
    (h : ∀ client, engine.voodooInputInstance = some client → forClient ≠ some client) :
    engine.handleClose forClient = engine := by
  unfold Engine.handleClose
  split
  . rfl
  . next client hclient => rw [if_neg (h client hclient)]

omit [DecidableEq Client] in
theorem handleInterruptReport_unchanged (v : VoodooInput)
    (absolutetimeToNanoseconds : BitVec 64 → BitVec 64) (engine : Engine Client) (report : Report) :
    (engine.handleInterruptReport v absolutetimeToNanoseconds report).engine.references
        = engine.references
      ∧ (engine.handleInterruptReport v absolutetimeToNanoseconds report).engine.voodooInputInstance
        = engine.voodooInputInstance := by
  unfold Engine.handleInterruptReport
  split
  . exact ⟨rfl, rfl⟩
  . split <;> exact ⟨rfl, rfl⟩

def OpensAlone (identified : Client → Bool) (engine : Engine Client) (c : Engine.Call Client) : Prop :=
  ∀ client, c = .handleOpen (some client) → identified client = true →
    engine.voodooInputInstance = none

theorem Balanced.call {c : Engine.Call Client} (h : t.Balanced)
    (halone : OpensAlone identified t.engine c) :
    (t.call v absolutetimeToNanoseconds identified c).Balanced := by
  cases c with
  | handleOpen forClient =>
    cases forClient with
    | none => exact h.of_unchanged rfl rfl rfl
    | some client =>
      by_cases hidentified : identified client = true
      . exact h.open hidentified (halone client rfl hidentified)
      . apply h.of_unchanged
        all_goals
          unfold Tracked.call succeeds Engine.call Engine.handleOpen
          simp only [hidentified]
          rfl
  | handleClose forClient =>
    by_cases hclient : ∃ client, t.engine.voodooInputInstance = some client
        ∧ forClient = some client
    . rcases hclient with ⟨client, hclient, rfl⟩
      exact h.close hclient
    . have hother : ∀ client, t.engine.voodooInputInstance = some client → forClient ≠ some client :=
        fun client hinstance hfor => hclient ⟨client, hinstance, hfor⟩
      have hengine : (t.call v absolutetimeToNanoseconds identified (.handleClose forClient)).engine
          = t.engine :=
        handleClose_other hother
      have hsucceeds : succeeds identified t.engine (.handleClose forClient) = none := by
        cases forClient with
        | none => rfl
        | some client => exact if_neg (fun hinstance => hother client hinstance rfl)
      apply h.of_unchanged
      . rw [hengine]
      . rw [hengine]
      . unfold Tracked.call
        rw [hsucceeds]
        rfl
  | handleInterruptReport report =>
    have hunchanged := handleInterruptReport_unchanged v absolutetimeToNanoseconds t.engine report
    exact h.of_unchanged hunchanged.1 hunchanged.2 rfl

theorem Balanced.run {calls : List (Engine.Call Client)} (h : t.Balanced)
    (halone : ∀ before c after, calls = before ++ c :: after →
      OpensAlone identified (t.run v absolutetimeToNanoseconds identified before).engine c) :
    (t.run v absolutetimeToNanoseconds identified calls).Balanced := by
  induction calls generalizing t with
  | nil => exact h
  | cons c calls ih =>
    apply ih (h.call (halone [] c calls rfl))
    intro before c' after heq
    exact halone (c :: before) c' after (congrArg (c :: ·) heq)

theorem not_balanced_open {other : Client} (h : t.Balanced) (hidentified : identified client = true)
    (hother : t.engine.voodooInputInstance = some other) :
    ¬ (t.call v absolutetimeToNanoseconds identified (.handleOpen (some client))).Balanced := by
  intro hbalanced
  have hone : t.engine.references other = 1 := by
    rw [h.references, if_pos hother]
  have hreferences := hbalanced.references other
  have hengine : (t.call v absolutetimeToNanoseconds identified (.handleOpen (some client))).engine
      = { t.engine with voodooInputInstance := some client }.addReference client 1 := by
    unfold Tracked.call Engine.call Engine.handleOpen
    simp only [hidentified, if_true]
  rw [hengine] at hreferences
  change (if other = client then t.engine.references other + 1 else t.engine.references other)
    = if some client = some other then 1 else 0 at hreferences
  rw [hone] at hreferences
  by_cases heq : other = client
  . rw [if_pos heq, if_pos (congrArg some heq.symm)] at hreferences
    contradiction
  . rw [if_neg heq, if_neg (fun h => heq (Option.some.inj h).symm)] at hreferences
    contradiction

/--
The references are balanced after every call of a run exactly if no client is opened while one is open.
-/
theorem handleOpen_balanced (v : VoodooInput) (absolutetimeToNanoseconds : BitVec 64 → BitVec 64)
    (identified : Client → Bool) (engine : Engine Client) (calls : List (Engine.Call Client)) :
    (∀ before, before <+: calls →
      ((started engine).run v absolutetimeToNanoseconds identified before).Balanced)
      ↔
    ∀ before c after, calls = before ++ c :: after →
      OpensAlone identified
        ((started engine).run v absolutetimeToNanoseconds identified before).engine c := by
  constructor
  . rintro h before c after rfl client rfl hidentified
    cases hinstance : ((started engine).run v absolutetimeToNanoseconds identified
        before).engine.voodooInputInstance with
    | none => rfl
    | some other =>
      have hbefore := h before (List.prefix_append ..)
      have hafter := h (before ++ [.handleOpen (some client)]) ⟨after, by simp⟩
      unfold Tracked.run at hafter
      rw [List.foldl_append] at hafter
      exact absurd hafter (not_balanced_open hbefore hidentified hinstance)
  . rintro h before ⟨after, rfl⟩
    apply (started_balanced engine).run
    rintro before' c after' rfl
    exact h before' c (after' ++ after) (by simp)

theorem handleOpen_not_balanced :
    let t := (started Engine.opened).run .ten id (fun _ => true)
      [.handleOpen (some 0), .handleOpen (some 1)]
    t.engine.voodooInputInstance = some 1 ∧ t.engine.references 0 = 1
      ∧ t.opened 0 = true ∧ t.engine.handleIsOpen (some 0) = false ∧ ¬ t.Balanced := by
  refine ⟨by decide, by decide, by decide, by decide, ?_⟩
  intro hbalanced
  have hopen := hbalanced.opened 0 (by decide)
  revert hopen
  decide

end Tracked

end NativeEngine

end VoodooI2C
