import VoodooI2C.Power.Composition
import VoodooI2C.Driver.Play

/-!
This module contains what the physical controller knows of its registers between the requests of
power management: whether it says that it is awake and whether the registers are mapped.
-/

namespace VoodooI2C

open Interaction

/--
A request to `setPowerState` and what `mapMemory` gets if it comes to that.
-/
structure PowerRequest where
  whichState : Nat
  forThis : Bool
  memoryCount : Nat
  mapped : Bool

namespace PowerRequest

def Maps (request : PowerRequest) : Prop := request.memoryCount ≠ 0 ∧ request.mapped = true

def Answers (request : PowerRequest) (op : Op) (r : op.Ans) : Prop :=
  match op, r with
  | .getDeviceMemoryCount, count => count = request.memoryCount
  | .mapDeviceMemory, mapped => mapped = request.mapped
  | _, _ => True

def change (request : PowerRequest) (d : PhysicalDevice) : PhysicalDevice :=
  if request.whichState = 0 then
    if d.awake then ⟨false, false⟩ else d
  else
    if d.awake then d
    else if request.memoryCount = 0 then ⟨true, d.mapped⟩
    else ⟨true, request.mapped⟩

def after (request : PowerRequest) (d : PhysicalDevice) : PhysicalDevice :=
  if ¬ request.forThis then d else request.change d

end PowerRequest

abbrev mapping (H : Hardware) (request : PowerRequest) : World Op Op.Ans :=
  { system H with admits := fun op s r => State.admits op s r ∧ request.Answers op r }

variable {H : Hardware} {controller : Controller} {request : PowerRequest} {s s₀ s' : State H}
  {d : PhysicalDevice} {α : Type} {G : Op → State H → Prop}

inductive Requested (controller : Controller) (Permitted : State H → PowerRequest → Prop)
    (s₀ : State H) : State H → Prop where
  | start : Requested controller Permitted s₀ s₀
  | request {s s' : State H} {request : PowerRequest} {ret : IOReturn} :
      Requested controller Permitted s₀ s → Permitted s request →
      Exec (mapping H request) (controller.setPowerState request.whichState request.forThis) s ret s' →
      Requested controller Permitted s₀ s'

/-! One request. -/

theorem stable_physical : (mapping H request).Stable fun s => s.physical = d := by
  rintro s _ h ⟨hw, _, rfl⟩
  apply h

theorem wp_physical (a : α) (h : s.physical = d) :
    wp (mapping H request) G (pure a) (fun _ s => s.physical = d) s := by
  intro s' henv
  apply stable_physical.env h henv

theorem wp_physicalDevice {f : PhysicalDevice → Driver α} {Q : α → State H → Prop}
    (h : s.physical = d)
    (hf : ∀ s', s'.physical = d → wp (mapping H request) (fun _ _ => True) (f d) Q s') :
    wp (mapping H request) (fun _ _ => True) (physicalDevice >>= f) Q s := by
  apply wp_step stable_physical h
  intro s' h'
  refine ⟨trivial, ?_⟩
  rintro r ⟨hr, _⟩
  obtain rfl : r = s'.physical := hr
  rw [h']
  apply hf s' h'

theorem wp_updatePhysicalDevice {g : PhysicalDevice → PhysicalDevice} {f : Unit → Driver α}
    {Q : α → State H → Prop} (h : s.physical = d)
    (hf : ∀ s', s'.physical = g d → wp (mapping H request) (fun _ _ => True) (f ()) Q s') :
    wp (mapping H request) (fun _ _ => True) (updatePhysicalDevice g >>= f) Q s := by
  apply wp_step stable_physical h
  intro s' h'
  refine ⟨trivial, ?_⟩
  intro r _
  apply hf
  rw [← h']
  rfl

theorem wp_external {call : External} {f : Unit → Driver α} {Q : α → State H → Prop}
    (h : s.physical = d)
    (hf : ∀ s', s'.physical = d → wp (mapping H request) (fun _ _ => True) (f ()) Q s') :
    wp (mapping H request) (fun _ _ => True) (external call >>= f) Q s := by
  apply wp_step stable_physical h
  intro s' h'
  refine ⟨trivial, ?_⟩
  intro r _
  apply hf _ h'

theorem wp_mapMemory (h : s.physical = d) :
    wp (mapping H request) (fun _ _ => True) mapMemory
      (fun _ s => s.physical = if request.memoryCount = 0 then d
        else { d with mapped := request.mapped }) s := by
  unfold mapMemory
  apply wp_step stable_physical h
  intro s₁ h₁
  refine ⟨trivial, ?_⟩
  rintro count ⟨_, hcount⟩
  obtain rfl : count = request.memoryCount := hcount
  split
  . apply wp_physical _ h₁
  . apply wp_step stable_physical h₁
    intro s₂ h₂
    refine ⟨trivial, ?_⟩
    rintro mapped ⟨_, hmapped⟩
    obtain rfl : mapped = request.mapped := hmapped
    apply wp_updatePhysicalDevice h₂
    intro s₃ h₃
    split
    . apply wp_physical _ h₃
    . apply wp_physical _ h₃

theorem wp_sleep_physical (h : s.physical = d) :
    wp (mapping H request) (fun _ _ => True) controller.sleep
      (fun _ s => s.physical = ⟨false, false⟩) s := by
  unfold Controller.sleep
  apply wp_updatePhysicalDevice h
  intro s₁ h₁
  cases controller with
  | pci =>
    apply wp_tail
    apply wp_updatePhysicalDevice h₁
    intro s₂ h₂
    apply wp_physical _ h₂
  | acpi =>
    apply wp_external h₁
    intro s₂ h₂
    apply wp_updatePhysicalDevice h₂
    intro s₃ h₃
    apply wp_tail
    apply wp_external h₃
    intro s₄ h₄
    apply wp_physical _ h₄

theorem wp_acquire (h : s.physical = d) :
    wp (mapping H request) (fun _ _ => True) (Controller.wake.acquire controller)
      (fun _ s => s.physical = if request.memoryCount = 0 then d
        else { d with mapped := request.mapped }) s := by
  cases controller with
  | pci | acpi =>
    apply wp_external h
    intro s₁ h₁
    rw [wp_bind]
    apply wp_post (wp_mapMemory h₁)
    intro _ s₂ h₂
    apply wp_tail
    apply wp_external h₂
    intro s₃ h₃
    apply wp_physical _ h₃

theorem wp_wake (h : s.physical = d) :
    wp (mapping H request) (fun _ _ => True) controller.wake
      (fun _ s => s.physical = if request.memoryCount = 0 then ⟨true, d.mapped⟩
        else ⟨true, request.mapped⟩) s := by
  unfold Controller.wake
  rw [wp_bind]
  apply wp_post (wp_acquire h)
  intro _ s₁ h₁
  apply wp_tail
  apply wp_updatePhysicalDevice h₁
  intro s₂ h₂
  have hmapped : s₂.physical = if request.memoryCount = 0 then ⟨true, d.mapped⟩
      else ⟨true, request.mapped⟩ := by
    rw [h₂]
    split <;> rfl
  apply wp_physical _ hmapped

theorem wp_change (h : s.physical = d) :
    wp (mapping H request) (fun _ _ => True)
      (Controller.setPowerState.change controller request.whichState)
      (fun _ s => s.physical = request.change d) s := by
  unfold Controller.setPowerState.change PowerRequest.change
  apply wp_physicalDevice h
  intro s₁ h₁
  split
  . split
    . apply wp_sleep_physical h₁
    . apply wp_physical _ h₁
  . by_cases hawake : d.awake = true
    . rw [if_neg (not_not.mpr hawake), if_pos hawake]
      apply wp_physical _ h₁
    . rw [if_pos hawake, if_neg hawake]
      apply wp_wake h₁

theorem wp_setPowerState_physical (h : s.physical = d) :
    wp (mapping H request) (fun _ _ => True)
      (controller.setPowerState request.whichState request.forThis)
      (fun _ s => s.physical = request.after d) s := by
  unfold Controller.setPowerState PowerRequest.after
  split
  . apply wp_physical _ h
  . rw [wp_bind]
    apply wp_post (wp_change h)
    intro _ s₁ h₁
    apply wp_physical _ h₁

theorem exec_setPowerState {ret : IOReturn}
    (h : Exec (mapping H request) (controller.setPowerState request.whichState request.forThis) s ret
      s') : s'.physical = request.after s.physical :=
  h.wp (wp_setPowerState_physical rfl)

theorem exists_setPowerState (controller : Controller) (request : PowerRequest) (s : State H) :
    ∃ ret s',
      Exec (mapping H request) (controller.setPowerState request.whichState request.forThis) s ret s' := by
  have hp : (controller.setPowerState request.whichState request.forThis).Performs ControllerOp := by
    unfold Controller.setPowerState
    apply Prog.performs_ite
    . apply Prog.performs_pure
    . apply Prog.performs_bind (performs_change controller request.whichState)
      intro _
      apply Prog.performs_pure
  apply exists_exec hp
  intro op s hop
  cases op with
  | physicalDevice => exact ⟨s.physical, rfl, trivial⟩
  | getDeviceMemoryCount => exact ⟨request.memoryCount, trivial, rfl⟩
  | mapDeviceMemory => exact ⟨request.mapped, trivial, rfl⟩
  | updatePhysicalDevice _ | external _ => exact ⟨(), trivial, trivial⟩
  | _ => contradiction

/-! Runs. -/

def PhysicalDevice.Consistent (d : PhysicalDevice) : Prop := d.awake = true ↔ d.mapped = true

/-- What `init` and a `start` that returned true leave. -/
structure Probed (s : State H) : Prop where
  awake : s.physical.awake = true
  mapped : s.physical.mapped = true

structure FailedWake (s : State H) (request : PowerRequest) : Prop where
  forThis : request.forThis = true
  wakes : request.whichState ≠ 0
  asleep : s.physical.awake = false
  not_maps : ¬ request.Maps

theorem consistent_after_iff (h : s.physical.Consistent) :
    (request.after s.physical).Consistent ↔ ¬ FailedWake s request := by
  unfold PowerRequest.after
  split
  . next hthis =>
    constructor
    . intro _ hfailed
      exact hthis hfailed.forThis
    . intro _
      apply h
  . next hthis =>
    unfold PowerRequest.change
    split
    . next hstate =>
      have hnot : ¬ FailedWake s request := fun hfailed => hfailed.wakes hstate
      split
      . simp [hnot, PhysicalDevice.Consistent]
      . simp [hnot, h]
    . next hstate =>
      split
      . next hawake =>
        have hnot : ¬ FailedWake s request := by
          intro hfailed
          have := hfailed.asleep
          rw [hawake] at this
          contradiction
        simp [hnot, h]
      . next hawake =>
        rw [Bool.not_eq_true] at hawake
        have hmapped : s.physical.mapped = false := by
          have hmapped := h.mpr
          rw [hawake] at hmapped
          simpa using hmapped
        have hfailed : FailedWake s request ↔ ¬ request.Maps :=
          ⟨FailedWake.not_maps, fun hmaps => ⟨not_not.mp hthis, hstate, hawake, hmaps⟩⟩
        rw [hfailed, not_not]
        unfold PowerRequest.Maps
        split
        . next hcount => simp [hcount, hmapped, PhysicalDevice.Consistent]
        . next hcount => simp [hcount, PhysicalDevice.Consistent]

/--
`awake` and the mapping agree between all requests exactly if no wake fails.
-/
theorem setPowerState_mapped (controller : Controller) (Permitted : State H → PowerRequest → Prop)
    (h₀ : Probed s₀) :
    (∀ s, Requested controller Permitted s₀ s →
      (s.physical.awake = true ↔ s.physical.mapped = true))
      ↔
    ∀ s request, Requested controller Permitted s₀ s → Permitted s request →
      ¬ FailedWake s request := by
  constructor
  . intro h s request hs hpermitted
    rcases exists_setPowerState controller request s with ⟨ret, s', hexec⟩
    have hs' := h s' (hs.request hpermitted hexec)
    rw [exec_setPowerState hexec] at hs'
    apply (consistent_after_iff (h s hs)).mp hs'
  . intro h s hs
    induction hs with
    | start => simp [h₀.awake, h₀.mapped]
    | request hs hpermitted hexec ih =>
      rw [exec_setPowerState hexec]
      apply (consistent_after_iff ih).mpr
      apply h _ _ hs hpermitted

def powerOff : PowerRequest := ⟨0, true, 1, true⟩

def powerOn (mapped : Bool) : PowerRequest := ⟨1, true, 1, mapped⟩

theorem exists_requested {Permitted : State H → PowerRequest → Prop} (request : PowerRequest)
    (hs : Requested controller Permitted s₀ s) (hpermitted : Permitted s request) :
    ∃ s', Requested controller Permitted s₀ s' ∧ s'.physical = request.after s.physical := by
  rcases exists_setPowerState controller request s with ⟨ret, s', hexec⟩
  exact ⟨s', hs.request hpermitted hexec, exec_setPowerState hexec⟩

theorem probed_readyState : Probed readyState where
  awake := by decide +kernel
  mapped := by decide +kernel

theorem setPowerState_mapped_wake :
    (∀ s, Requested .pci (fun _ request => request.Maps) readyState s →
      (s.physical.awake = true ↔ s.physical.mapped = true))
      ∧
    ∃ s, Requested .pci (fun _ request => request.Maps) readyState s
      ∧ s.physical = ⟨false, false⟩ := by
  constructor
  . apply (setPowerState_mapped .pci _ probed_readyState).mpr
    intro s request _ hmaps hfailed
    apply hfailed.not_maps hmaps
  . have hmaps : powerOff.Maps := ⟨by decide, rfl⟩
    have hstart : Requested .pci (fun _ request => request.Maps) readyState readyState := .start
    rcases exists_requested powerOff hstart hmaps with ⟨s, hs, hphysical⟩
    refine ⟨s, hs, ?_⟩
    rw [hphysical]
    decide +kernel

/--
A wake without a mapping, after which the next request to wake does nothing.
-/
theorem setPowerState_not_mapped :
    ∃ s s' ret, Requested .pci (fun _ _ => True) readyState s
      ∧ s.physical = ⟨true, false⟩
      ∧ Requested .pci (fun _ _ => True) readyState s'
      ∧ Exec (mapping smallFifo (powerOn true)) (Controller.pci.setPowerState 1 true) s ret s'
      ∧ s'.physical = ⟨true, false⟩ := by
  have hstart : Requested .pci (fun _ _ => True) readyState readyState := .start
  rcases exists_requested powerOff hstart trivial with ⟨s₁, hs₁, h₁⟩
  rcases exists_requested (powerOn false) hs₁ trivial with ⟨s₂, hs₂, h₂⟩
  have hphysical : s₂.physical = ⟨true, false⟩ := by
    rw [h₂, h₁]
    decide +kernel
  rcases exists_setPowerState .pci (powerOn true) s₂ with ⟨ret, s₃, hexec⟩
  refine ⟨s₂, s₃, ret, hs₂, hphysical, hs₂.request trivial hexec, hexec, ?_⟩
  rw [exec_setPowerState hexec, hphysical]
  rfl

end VoodooI2C
