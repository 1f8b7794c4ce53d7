import VoodooI2C.Interaction.Recording
import VoodooI2C.Lifecycle.Controller

/-!
This module contains which objects the physical controllers hold: what `start` retains is released by
`stop`, and what is left if `start` fails.
-/

namespace VoodooI2C

namespace ControllerLifecycle

open Interaction

inductive Resource where
  | provider
  | path
  | entry
  | mmap
  | nub
  deriving DecidableEq, Repr

def Op.entry (op : Op) (r : op.Ans) : Option (Entry Resource) :=
  match op, r with
  | .retainProvider, _ => some (.take .provider)
  | .releaseProvider, _ => some (.give .provider)
  | .copyPath, path => if path = .null then none else some (.take .path)
  | .releasePath, _ => some (.give .path)
  | .fromPath, entry => if entry = .null then none else some (.take .entry)
  | .releaseEntry, _ | .releaseACPIDevice, _ => some (.give .entry)
  | .mapDeviceMemory, ok => if ok then some (.take .mmap) else none
  | .releaseMmap, _ => some (.give .mmap)
  | .allocNub, ok => if ok then some (.take .nub) else none
  | .releaseNub, _ => some (.give .nub)
  | _, _ => none

abbrev accounted : World Op Op.Ans := controllerWorld.ledger fun op _ r => op.entry r

instance : controllerWorld.Still where
  not_env _ _ := id

def State.owns (s : State) : Resource → Bool
  | .provider => s.provider.retained
  | .path => s.path
  | .entry => s.entry
  | .mmap => s.mmap
  | .nub => s.nub.pointer

def owned (s : State) : Set Resource := { r | s.owns r }

def Guard (op : Op) (s : State) : Prop :=
  match op with
  | .retainProvider => s.provider.pointer = true ∧ s.provider.retained = false
  | .releaseProvider => s.provider.pointer = true ∧ s.provider.retained = true
  | .joinPMtree | .openProvider | .closeProvider | .getDeviceMemoryCount => s.provider.pointer = true
  | .copyPath => s.path = false
  | .releasePath => s.path = true
  | .fromPath => s.path = true ∧ s.entry = false
  | .releaseEntry => s.entry = true
  | .releaseACPIDevice => s.acpiDevice = true ∧ s.entry = true
  | .evaluateObject _ => s.acpiDevice = true
  | .mapDeviceMemory => s.provider.pointer = true ∧ s.mmap = false
  | .releaseMmap | .getVirtualAddress | .store _ _ => s.mmap = true
  | .allocNub => s.nub.pointer = false
  | .initNub | .attachNub | .castController | .startNub | .registerNub | .stopNub | .detachNub
  | .releaseNub => s.nub.pointer = true
  | _ => True

theorem fair_take {s s' : State} (r : Resource) (h : s.owns r = false)
    (h' : s'.owns = Function.update s.owns r true) :
    (Entry.take r).Fair (owned s) ∧ owned s' = (Entry.take r).book (owned s) :=
  Entry.fair_take h h'

theorem fair_give {s s' : State} (r : Resource) (h : s.owns r = true)
    (h' : s'.owns = Function.update s.owns r false) :
    (Entry.give r).Fair (owned s) ∧ owned s' = (Entry.give r).book (owned s) :=
  Entry.fair_give h h'

theorem owned_congr {s s' : State} (h : s'.owns = s.owns) : owned s' = owned s := by
  unfold owned
  rw [h]

theorem booked_of_guard {op : Op} {s : State} (h : Guard op s) :
    Booked (W := controllerWorld) (fun op _ r => op.entry r) owned op s := by
  intro r _
  cases op with
  | retainProvider =>
    refine fair_take .provider h.2 ?_
    funext r
    cases r <;> rfl
  | releaseProvider =>
    refine fair_give .provider h.2 ?_
    funext r
    cases r <;> rfl
  | copyPath =>
    cases r with
    | null =>
      apply owned_congr
      funext r
      cases r with
      | path => exact h.symm
      | _ => rfl
    | string | other =>
      refine fair_take .path h ?_
      funext r
      cases r <;> rfl
  | releasePath =>
    refine fair_give .path h ?_
    funext r
    cases r <;> rfl
  | fromPath =>
    cases r with
    | null =>
      apply owned_congr
      funext r
      cases r with
      | entry => exact h.2.symm
      | _ => rfl
    | acpiDevice | other =>
      refine fair_take .entry h.2 ?_
      funext r
      cases r <;> rfl
  | releaseEntry =>
    refine fair_give .entry h ?_
    funext r
    cases r <;> rfl
  | releaseACPIDevice =>
    refine fair_give .entry h.2 ?_
    funext r
    cases r <;> rfl
  | mapDeviceMemory =>
    cases r with
    | false =>
      apply owned_congr
      funext r
      cases r with
      | mmap => exact h.2.symm
      | _ => rfl
    | true =>
      refine fair_take .mmap h.2 ?_
      funext r
      cases r <;> rfl
  | releaseMmap =>
    refine fair_give .mmap h ?_
    funext r
    cases r <;> rfl
  | allocNub =>
    cases r with
    | false =>
      apply owned_congr
      funext r
      cases r with
      | nub => exact h.symm
      | _ => rfl
    | true =>
      refine fair_take .nub h ?_
      funext r
      cases r <;> rfl
  | releaseNub =>
    refine fair_give .nub h ?_
    funext r
    cases r <;> rfl
  | _ =>
    apply owned_congr
    funext r
    cases r <;> rfl

/-! What the functions make of the members. -/

variable {s : State} {controller : Controller} {Q : Bool → State → Prop}

theorem wp_releaseNub {Q : Unit → State → Prop}
    (h : Q () { s with nub := { s.nub with pointer := false } }) :
    wp controllerWorld Guard releaseNub Q s := by
  unfold releaseNub
  rw [wp_perform_bind_still]
  refine ⟨trivial, ?_⟩
  rintro b rfl
  split
  . next hb => exact wp_perform_still.mpr ⟨hb, fun _ _ => h⟩
  . next hb =>
    rw [Bool.not_eq_true] at hb
    rw [← hb] at h
    exact wp_pure_still.mpr h

theorem wp_publishNub {Q : IOReturn → State → Prop} (h : s.nub = ⟨false, false, false⟩)
    (hok : ∀ attached, Q .success { s with nub := ⟨true, attached, true⟩ }) (herror : Q .error s) :
    wp controllerWorld Guard publishNub Q s := by
  have hexit : ∀ pointer,
      wp controllerWorld Guard publishNub.exit Q { s with nub := ⟨pointer, false, false⟩ } := by
    intro pointer
    unfold publishNub.exit
    rw [wp_bind]
    apply wp_releaseNub
    rw [wp_pure_still, ← h]
    exact herror
  unfold publishNub Nub.attach Nub.start Nub.detach
  simp [Guard, State.admits, State.next, hexit, hok, h]

theorem wp_unmapMemory {Q : Unit → State → Prop} (h : Q () { s with mmap := false }) :
    wp controllerWorld Guard unmapMemory Q s := by
  unfold unmapMemory
  rw [wp_perform_bind_still]
  refine ⟨trivial, ?_⟩
  rintro b rfl
  split
  . next hb => exact wp_perform_still.mpr ⟨hb, fun _ _ => h⟩
  . next hb =>
    rw [Bool.not_eq_true] at hb
    rw [← hb] at h
    exact wp_pure_still.mpr h

theorem wp_mapMemory {Q : IOReturn → State → Prop} (hprovider : s.provider.pointer = true)
    (hmmap : s.mmap = false) (hok : Q .success { s with mmap := true }) (herror : Q .deviceError s) :
    wp controllerWorld Guard mapMemory Q s := by
  have hsame : { s with mmap := false } = s := by rw [← hmmap]
  unfold mapMemory
  rw [wp_perform_bind_still]
  refine ⟨hprovider, fun count _ => ?_⟩
  split
  . exact wp_pure_still.mpr herror
  . rw [wp_perform_bind_still]
    refine ⟨⟨hprovider, hmmap⟩, fun mapped _ => ?_⟩
    cases mapped with
    | false =>
      rw [← hsame] at herror
      exact wp_pure_still.mpr herror
    | true => exact wp_pure_still.mpr hok

theorem wp_writeRegister {Q : Unit → State → Prop} (value : Word) (offset : Nat) (h : Q () s) :
    wp controllerWorld Guard (writeRegister value offset) Q s := by
  unfold writeRegister
  rw [wp_perform_bind_still]
  refine ⟨trivial, ?_⟩
  rintro b rfl
  split
  . next hb => 
    rw [wp_perform_bind_still]
    refine ⟨hb, fun address _ => ?_⟩
    split
    . exact wp_perform_still.mpr ⟨hb, fun _ _ => h⟩
    . exact wp_pure_still.mpr h
  . exact wp_pure_still.mpr h

theorem wp_setClkGating {Q : Unit → State → Prop} (enabled : VoodooI2CState) (h : Q () s) :
    wp controllerWorld Guard (setClkGating enabled) Q s := by
  unfold setClkGating
  rw [wp_perform_bind_still]
  refine ⟨trivial, ?_⟩
  rintro b rfl
  split
  . exact wp_pure_still.mpr h
  . apply wp_writeRegister
    exact h

theorem wp_setACPIPowerState {Q : Unit → State → Prop} (enabled : VoodooI2CState)
    (hdevice : s.acpiDevice = true) (h : Q () s) :
    wp controllerWorld Guard (setACPIPowerState enabled) Q s := by
  unfold setACPIPowerState
  cases enabled <;> simp [Guard, State.admits, State.next, hdevice, h]

theorem wp_getACPIDevice {Q : IOReturn → State → Prop}
    (h : s.path = false ∧ s.entry = false ∧ s.acpiDevice = false)
    (hok : Q .success { s with entry := true, acpiDevice := true }) (herror : Q .error s) :
    wp controllerWorld Guard getACPIDevice Q s := by
  rcases s with ⟨provider, path, entry, acpiDevice, legacyIntelLpss, mmap, nub, awake⟩
  obtain ⟨rfl, rfl, rfl⟩ := h
  unfold getACPIDevice
  rw [wp_perform_bind_still]
  refine ⟨rfl, fun path _ => ?_⟩
  cases path with
  | null | other =>
    unfold getACPIDevice.releasePath
    simp [Guard, State.next, herror]
  | string =>
    rw [if_neg (by simp), wp_perform_bind_still]
    refine ⟨⟨rfl, rfl⟩, fun entry _ => ?_⟩
    cases entry with
    | null | other =>
      unfold getACPIDevice.releaseEntry
      simp [Guard, State.next, herror]
    | acpiDevice => simp [Guard, State.next, hok]

def State.released (s : State) : State :=
  { s with provider := ⟨false, false, false, false⟩, mmap := false, nub := ⟨false, false, false⟩ }

theorem wp_stopNub {Q : Unit → State → Prop}
    (hnub : s.nub.pointer = true ∨ s.nub = ⟨false, false, false⟩)
    (h : Q () { s with nub := ⟨false, false, false⟩ }) :
    wp controllerWorld Guard releaseResources.stopNub Q s := by
  unfold releaseResources.stopNub
  rw [wp_perform_bind_still]
  refine ⟨trivial, ?_⟩
  rintro b rfl
  rcases hnub with hnub | hnub
  . rw [if_pos hnub]
    unfold Nub.stop Nub.detach
    rw [wp_perform_bind_still]
    refine ⟨hnub, fun _ _ => ?_⟩
    rw [wp_perform_bind_still]
    exact ⟨hnub, fun _ _ => wp_releaseNub h⟩
  . rw [hnub, if_neg (by simp)]
    rw [← hnub] at h
    exact wp_pure_still.mpr h

theorem wp_releaseProvider {Q : Unit → State → Prop}
    (hprovider : s.provider.pointer = true ∧ s.provider.retained = true
      ∨ s.provider = ⟨false, false, false, false⟩)
    (h : Q () { s with provider := ⟨false, false, false, s.provider.registered⟩ }) :
    wp controllerWorld Guard releaseResources.releaseProvider Q s := by
  unfold releaseResources.releaseProvider
  rw [wp_perform_bind_still]
  refine ⟨trivial, ?_⟩
  rintro b rfl
  rcases hprovider with hprovider | hprovider
  . rw [if_pos hprovider.1, wp_perform_bind_still]
    refine ⟨hprovider.1, fun _ _ => ?_⟩
    exact wp_perform_still.mpr ⟨hprovider, fun _ _ => h⟩
  . rw [hprovider] at h
    rw [hprovider, if_neg (by simp)]
    rw [← hprovider] at h
    exact wp_pure_still.mpr h

theorem wp_releaseResources {Q : Unit → State → Prop}
    (hnub : s.nub.pointer = true ∨ s.nub = ⟨false, false, false⟩)
    (hprovider : s.provider.pointer = true ∧ s.provider.retained = true
      ∨ s.provider = ⟨false, false, false, false⟩)
    (h : Q () s.released) : wp controllerWorld Guard releaseResources Q s := by
  unfold releaseResources
  rw [wp_bind]
  apply wp_stopNub hnub
  rw [wp_bind]
  apply wp_unmapMemory
  rw [wp_bind]
  refine wp_releaseProvider hprovider ?_
  exact wp_perform_still.mpr ⟨trivial, fun _ _ => h⟩

theorem wp_baseStart (hprovider : s.provider = ⟨false, false, false, false⟩)
    (hnub : s.nub = ⟨false, false, false⟩) (hmmap : s.mmap = false)
    (hok : ∀ opened, Q true { s with provider := ⟨true, true, opened, true⟩ }) (hfalse : Q false s) :
    wp controllerWorld Guard Base.start Q s := by
  have hsame : s.released = s := by
    unfold State.released
    rw [← hprovider, ← hnub, ← hmmap]
  unfold Base.start
  rw [wp_perform_bind_still]
  refine ⟨trivial, fun ok _ => ?_⟩
  cases ok with
  | false =>
    rw [if_pos (by simp), wp_bind]
    apply wp_releaseResources (.inr hnub) (.inr hprovider)
    rw [wp_pure_still]
    exact hsame.symm ▸ hfalse
  | true =>
    have hok' := fun opened => hok opened
    simp [Guard, State.next, hprovider, hok']

/-! Whole lives. -/

structure Running (controller : Controller) (s : State) : Prop where
  provider : s.provider.pointer = true ∧ s.provider.retained = true
  nub : s.nub.pointer = true
  acpiDevice : s.acpiDevice = true
  path : s.path = false
  entry : s.entry = decide (controller = .pci)
  mmap : s.awake = false → s.mmap = false

structure Left (s : State) : Prop where
  provider : s.provider.retained = s.provider.registered
  nub : s.nub = ⟨false, false, false⟩
  path : s.path = false
  entry : s.entry = true → s.acpiDevice = true ∧ s.provider.retained = true
  mmap : s.mmap = true → s.provider.retained = true

structure Opened (controller : Controller) (s : State) : Prop where
  pointer : s.provider.pointer = true
  retained : s.provider.retained = true
  registered : s.provider.registered = true
  acpiDevice : s.acpiDevice = true
  path : s.path = false
  entry : s.entry = decide (controller = .pci)
  mmap : s.mmap = false
  nub : s.nub = ⟨false, false, false⟩
  awake : s.awake = true

theorem Opened.left {mmap : Bool} (h : Opened controller s) : Left { s with mmap := mmap } where
  provider := h.retained.trans h.registered.symm
  nub := h.nub
  path := h.path
  entry _ := ⟨h.acpiDevice, h.retained⟩
  mmap _ := h.retained

theorem Opened.wp_publish {mapped : Life Unit} (h : Opened controller s)
    (hmapped : ∀ (Q : Unit → State → Prop) s, Q () s → wp controllerWorld Guard mapped Q s) :
    wp controllerWorld Guard (start.publish mapped)
      (fun ok s' => if ok then Running controller s' else Left s') s := by
  unfold start.publish
  rw [wp_bind]
  apply wp_mapMemory h.pointer h.mmap
  . rw [if_neg (by simp), wp_bind]
    apply hmapped
    rw [wp_bind]
    refine wp_publishNub h.nub ?_ ?_
    . intro attached
      rw [if_neg (by simp), wp_perform_bind_still]
      refine ⟨trivial, fun _ _ => ?_⟩
      rw [wp_pure_still, if_pos rfl]
      constructor
      . exact ⟨h.pointer, h.retained⟩
      . rfl
      . exact h.acpiDevice
      . exact h.path
      . exact h.entry
      . intro hasleep
        exact absurd (h.awake.symm.trans hasleep) (by simp)
    . rw [if_pos (by simp), wp_pure_still, if_neg (by simp)]
      apply h.left
  . rw [if_pos (by simp), wp_pure_still, if_neg (by simp)]
    exact h.left

theorem wp_start :
    wp controllerWorld Guard (start controller)
      (fun ok s' => if ok then Running controller s' else Left s') .initial := by
  have hfalse : ∀ s, Left s → wp controllerWorld Guard (pure false)
      (fun ok s' => if ok then Running controller s' else Left s') s := by
    intro s h
    rw [wp_pure_still, if_neg (by simp)]
    exact h
  have hleft : ∀ opened, Left { State.initial with provider := ⟨true, true, opened, true⟩ } := by
    intro opened
    constructor <;> simp [State.initial]
  cases controller with
  | pci =>
    unfold start
    rw [wp_bind]
    apply wp_baseStart rfl rfl rfl
    . intro opened
      rw [if_neg (by simp), wp_bind]
      apply wp_getACPIDevice ⟨rfl, rfl, rfl⟩
      . rw [if_neg (by simp), wp_perform_bind_still]
        refine ⟨trivial, fun _ _ => ?_⟩
        have hopened : Opened .pci { State.initial with
            provider := ⟨true, true, opened, true⟩, entry := true, acpiDevice := true } := by
          constructor <;> rfl
        exact hopened.wp_publish fun _ _ h => wp_writeRegister _ _ h
      . rw [if_pos (by simp)]
        exact hfalse _ (hleft opened)
    . rw [if_pos (by simp)]
      apply hfalse
      constructor <;> simp [State.initial]
  | acpi =>
    unfold start
    rw [wp_bind]
    apply wp_baseStart rfl rfl rfl
    . intro opened
      rw [if_neg (by simp), wp_perform_bind_still]
      refine ⟨trivial, fun legacy _ => ?_⟩
      rw [wp_perform_bind_still]
      refine ⟨trivial, fun _ _ => ?_⟩
      rw [wp_bind]
      apply wp_setACPIPowerState .on rfl
      have hopened : Opened .acpi { State.initial with
          provider := ⟨true, true, opened, true⟩, legacyIntelLpss := legacy, acpiDevice := true } := by
        constructor <;> rfl
      exact hopened.wp_publish fun _ _ h => wp_setClkGating _ h
    . rw [if_pos (by simp)]
      apply hfalse
      constructor <;> simp [State.initial]

theorem Running.wp_sleep (h : Running controller s) :
    wp controllerWorld Guard (sleep controller) (fun _ => Running controller) s := by
  have hasleep : Running controller { s with awake := false, mmap := false } :=
    { h with mmap := fun _ => rfl }
  unfold sleep
  cases controller with
  | pci =>
    rw [wp_perform_bind_still]
    refine ⟨trivial, fun _ _ => ?_⟩
    apply wp_unmapMemory
    exact hasleep
  | acpi =>
    rw [wp_perform_bind_still]
    refine ⟨trivial, fun _ _ => ?_⟩
    rw [wp_bind]
    apply wp_setClkGating
    rw [wp_bind]
    apply wp_unmapMemory
    refine wp_setACPIPowerState .off h.acpiDevice ?_
    exact hasleep

theorem Running.wp_wake (h : Running controller s) (hawake : s.awake = false) :
    wp controllerWorld Guard (wake controller) (fun _ => Running controller) s := by
  have hwoken : ∀ mmap, Running controller { s with mmap := mmap, awake := true } :=
    fun _ => { h with mmap := fun h => absurd h (by simp) }
  have hset : ∀ mmap, wp controllerWorld Guard (op (.setAwake true)) (fun _ => Running controller)
      { s with mmap := mmap } := by
    intro mmap
    exact wp_perform_still.mpr ⟨trivial, fun _ _ => hwoken mmap⟩
  unfold wake
  cases controller with
  | pci =>
    rw [wp_perform_bind_still]
    refine ⟨trivial, fun _ _ => ?_⟩
    rw [wp_bind]
    refine wp_mapMemory h.provider.1 (h.mmap hawake) ?_ ?_
    . rw [wp_bind]
      apply wp_writeRegister
      apply hset
    . rw [wp_bind]
      apply wp_writeRegister
      exact hset s.mmap
  | acpi =>
    rw [wp_bind]
    apply wp_setACPIPowerState .on h.acpiDevice
    rw [wp_bind]
    apply wp_mapMemory h.provider.1 (h.mmap hawake)
    . rw [wp_bind]
      apply wp_setClkGating
      apply hset
    . rw [wp_bind]
      apply wp_setClkGating
      exact hset s.mmap

theorem Running.wp_setPowerState (h : Running controller s) (whichState : Nat) (forThis : Bool) :
    wp controllerWorld Guard (setPowerState controller whichState forThis)
      (fun _ => Running controller) s := by
  have hchange : wp controllerWorld Guard (setPowerState.change controller whichState)
      (fun _ => Running controller) s := by
    unfold setPowerState.change
    rw [wp_perform_bind_still]
    refine ⟨trivial, ?_⟩
    rintro awake rfl
    split
    . split
      . apply h.wp_sleep
      . exact wp_pure_still.mpr h
    . split
      . next hawake => exact h.wp_wake (by simpa using hawake)
      . exact wp_pure_still.mpr h
  unfold setPowerState
  split
  . exact wp_pure_still.mpr h
  . rw [wp_bind]
    apply wp_post hchange
    intro _ _ h
    exact wp_pure_still.mpr h

theorem Running.wp_setPowerStates (h : Running controller s) (requests : List (Nat × Bool)) :
    wp controllerWorld Guard (setPowerStates controller requests)
      (fun _ => Running controller) s := by
  induction requests generalizing s with
  | nil => exact wp_pure_still.mpr h
  | cons request requests ih =>
    unfold setPowerStates
    rw [wp_bind]
    apply wp_post (h.wp_setPowerState request.1 request.2)
    intro _ _ h
    apply ih h

structure Stopped (s : State) : Prop where
  provider : s.provider = ⟨false, false, false, false⟩
  nub : s.nub = ⟨false, false, false⟩
  path : s.path = false
  entry : s.entry = false
  mmap : s.mmap = false

theorem Running.wp_stop (h : Running controller s) :
    wp controllerWorld Guard (stop controller) (fun _ => Stopped) s := by
  have hbase : ∀ s', Running controller s → s'.provider = s.provider → s'.nub = s.nub →
      s'.path = s.path → s'.entry = false →
      wp controllerWorld Guard Base.stop (fun _ => Stopped) s' := by
    intro s' h hprovider hnub hpath hentry
    unfold Base.stop
    rw [wp_bind]
    apply wp_releaseResources
    . rw [hnub]
      exact .inl h.nub
    . rw [hprovider]
      exact .inl h.provider
    . refine wp_perform_still.mpr ⟨trivial, fun _ _ => ?_⟩
      exact ⟨rfl, rfl, hpath.trans h.path, hentry, rfl⟩
  unfold stop
  cases controller with
  | pci =>
    have hentry : s.entry = true := h.entry
    rw [wp_bind]
    unfold stop.releaseACPIDevice
    rw [wp_perform_bind_still]
    refine ⟨trivial, ?_⟩
    rintro b rfl
    rw [if_pos h.acpiDevice, wp_perform_still]
    exact ⟨⟨h.acpiDevice, hentry⟩, fun _ _ => hbase _ h rfl rfl rfl rfl⟩
  | acpi =>
    have hentry : s.entry = false := h.entry
    rw [wp_bind]
    apply wp_setClkGating
    rw [wp_bind]
    apply wp_setACPIPowerState .off h.acpiDevice
    exact hbase s h rfl rfl rfl hentry

theorem wp_life (controller : Controller) (requests : List (Nat × Bool)) :
    wp controllerWorld Guard (life controller requests)
      (fun ok s' => if ok then Stopped s' else Left s') .initial := by
  unfold life
  rw [wp_bind]
  apply wp_post wp_start
  intro ok s h
  cases ok with
  | true =>
    rw [if_pos rfl] at h ⊢
    rw [wp_bind]
    apply wp_post (h.wp_setPowerStates requests)
    intro _ s h
    rw [wp_bind]
    apply wp_post h.wp_stop
    intro _ s h
    rw [wp_pure_still, if_pos rfl]
    exact h
  | false =>
    rw [if_neg (by simp)] at h ⊢
    rw [wp_pure_still, if_neg (by simp)]
    exact h

/--
Whatever succeeds and whatever power management asks for, pointers are used only while they are set, and
every object is retained only while it is not and released only while it is retained. After `stop`
nothing is retained. If `start` fails, the nub is gone, the provider is still retained if and only if the
controller is registered with power management, and so are the mapping and the ACPI device if they were
made before.
-/
theorem life_accounted (controller : Controller) (requests : List (Nat × Bool)) :
    wp accounted (fun op x => Guard op x.1 ∧ FairOp (fun op _ r => op.entry r) op x)
      (life controller requests)
      (fun ok x =>
        if ok then
          x.2 = ∅ ∧ x.1.provider = ⟨false, false, false, false⟩ ∧ x.1.nub = ⟨false, false, false⟩
        else
          x.1.nub = ⟨false, false, false⟩ ∧ .nub ∉ x.2 ∧ .path ∉ x.2
            ∧ (.provider ∈ x.2 ↔ x.1.provider.registered = true)
            ∧ (.entry ∈ x.2 → x.1.acpiDevice = true ∧ .provider ∈ x.2)
            ∧ (.mmap ∈ x.2 ↔ x.1.mmap = true)
            ∧ (.mmap ∈ x.2 → .provider ∈ x.2))
      (.initial, ∅) := by
  have hnothing : owned .initial = ∅ := by
    ext r
    cases r <;> simp [owned, State.owns, State.initial]
  rw [← hnothing]
  have hbooked : ∀ (op : Op) (s : controllerWorld.State), Guard op s →
      Booked (W := controllerWorld) (fun op _ r => op.entry r) owned op s :=
    fun _ _ h => booked_of_guard h
  have hlife := wp_ledger (fun _ _ h => absurd h id) hbooked (wp_life controller requests)
  apply wp_post hlife
  rintro ok ⟨s, held⟩ ⟨h, hheld⟩
  obtain rfl : held = owned s := hheld
  cases ok with
  | true =>
    rw [if_pos rfl] at h ⊢
    have h : Stopped s := h
    refine ⟨?_, h.provider, h.nub⟩
    rw [hnothing]
    ext r
    cases r <;> simp [owned, State.owns, h.provider, h.path, h.entry, h.mmap, h.nub]
  | false =>
    rw [if_neg (by simp)] at h ⊢
    have h : Left s := h
    refine ⟨h.nub, ?_, ?_, ?_, h.entry, Iff.rfl, h.mmap⟩
    . simp [owned, State.owns, h.nub]
    . simp [owned, State.owns, h.path]
    . simp [owned, State.owns, h.provider]

end ControllerLifecycle

end VoodooI2C
