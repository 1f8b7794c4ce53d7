import VoodooI2C.Driver.Constants

/-!
This module contains `publishNubs` and the loop of `stop` over the device nubs: which nubs are attached
to the driver in the service plane and which ones `device_nubs` holds.
-/

namespace VoodooI2C

/--
An entry of the ACPI plane and what happens to the nub for it: which of the calls that allocate,
initialise, attach and start the nub succeed.
-/
structure ACPIChild where
  isService : Bool
  allocated : Bool
  init : Bool
  superAttach : Bool
  isACPIDevice : Bool
  isDriver : Bool
  deviceResources : IOReturn
  hasGpioInterrupts : Bool
  gpioController : Bool
  superStart : Bool
  workLoop : Bool
  commandGate : Bool
  addEventSource : IOReturn
  deriving DecidableEq, Repr

/-- Nubs are numbers: those attached to the driver and those in `device_nubs`. -/
structure Services where
  attached : List Nat
  deviceNubs : List Nat
  deriving DecidableEq, Repr

namespace Services

/-- `IOService::attach` and `IOService::detach`. -/
def link (s : Services) (nub : Nat) : Services := { s with attached := s.attached ++ [nub] }

def detach (s : Services) (nub : Nat) : Services := { s with attached := s.attached.filter (· ≠ nub) }

def setObject (s : Services) (nub : Nat) : Services :=
  { s with deviceNubs := s.deviceNubs ++ [nub] }

end Services

namespace ACPIChild

variable (child : ACPIChild)

def attach (nub : Nat) (s : Services) : Bool × Services :=
  if ¬ child.superAttach then
    (false, s)
  else
    let s := s.link nub
    if ¬ child.isACPIDevice then
      (false, s)
    else if ¬ child.isDriver then
      (false, s)
    else if child.deviceResources ≠ .success then
      (false, s)
    else if child.hasGpioInterrupts ∧ ¬ child.gpioController then
      (false, s)
    else
      (true, s)

def start : Bool :=
  if ¬ child.superStart then
    false
  else if ¬ child.workLoop then
    false
  else if ¬ child.commandGate ∨ child.addEventSource ≠ .success then
    false
  else
    true

def publishNub (nub : Nat) (s : Services) : Services :=
  if ¬ child.allocated ∨ ¬ child.init then
    s
  else
    let (attached, s) := child.attach nub s
    if ¬ attached then
      s
    else if ¬ child.start then
      s.detach nub
    else
      s.setObject nub

end ACPIChild

/--
`children` is what `getChildIterator` returns.
-/
def publishNubs (children : Option (List ACPIChild)) (s : Services) : IOReturn × Services :=
  match children with
  | none => (.noResources, s)
  | some children => (.success, go children 0 s)
where
  go (children : List ACPIChild) (nub : Nat) (s : Services) : Services :=
    match children with
    | [] => s
    | child :: children =>
      if ¬ child.isService then s else go children (nub + 1) (child.publishNub nub s)

/-- The loop of `stop`. -/
def stopNubs (s : Services) : Services :=
  match _hlast : s.deviceNubs.getLast? with
  | none => s
  | some nub => stopNubs { s.detach nub with deviceNubs := s.deviceNubs.dropLast }
termination_by s.deviceNubs.length
decreasing_by
  have hne : s.deviceNubs ≠ [] := by
    intro hnil
    rw [hnil] at _hlast
    contradiction
  have := List.length_pos_iff.mpr hne
  simp
  omega

namespace ACPIChild

/-! What the nub of one child leaves. -/

variable {child : ACPIChild} {s : Services} {nub : Nat}

/--
`attach` fails after `IOService::attach` has linked the nub.
-/
structure LeftAttached (child : ACPIChild) : Prop where
  initialised : child.allocated = true ∧ child.init = true
  linked : child.superAttach = true
  fails : child.isACPIDevice = false ∨ child.isDriver = false ∨ child.deviceResources ≠ .success
    ∨ child.hasGpioInterrupts = true ∧ child.gpioController = false

instance : Decidable child.LeftAttached :=
  decidable_of_iff ((child.allocated = true ∧ child.init = true) ∧ child.superAttach = true
    ∧ (child.isACPIDevice = false ∨ child.isDriver = false ∨ child.deviceResources ≠ .success
      ∨ child.hasGpioInterrupts = true ∧ child.gpioController = false))
    ⟨fun h => ⟨h.1, h.2.1, h.2.2⟩, fun h => ⟨h.initialised, h.linked, h.fails⟩⟩

def Published (child : ACPIChild) : Prop :=
  child.allocated = true ∧ child.init = true ∧ child.superAttach = true ∧ ¬ child.LeftAttached
    ∧ child.start = true

instance : Decidable child.Published :=
  inferInstanceAs (Decidable (child.allocated = true ∧ child.init = true ∧ child.superAttach = true
    ∧ ¬ child.LeftAttached ∧ child.start = true))

theorem attach_of_superAttach (h : child.superAttach = true)
    (hinit : child.allocated = true ∧ child.init = true) :
    child.attach nub s = (decide (¬ child.LeftAttached), s.link nub) := by
  have hiff : child.LeftAttached ↔ (child.isACPIDevice = false ∨ child.isDriver = false
      ∨ child.deviceResources ≠ .success
      ∨ child.hasGpioInterrupts = true ∧ child.gpioController = false) :=
    ⟨LeftAttached.fails, fun hfails => ⟨hinit, h, hfails⟩⟩
  unfold attach
  rw [if_neg (by simp [h])]
  dsimp only
  simp only [hiff]
  split
  . next hdevice => simp [hdevice]
  . split
    . next hdriver => simp [hdriver]
    . split
      . next hresources => simp [hresources]
      . split
        . next hgpio => simp [hgpio]
        . simp_all

theorem detach_link (hfresh : ∀ n ∈ s.attached, n < nub) : (s.link nub).detach nub = s := by
  have hfilter : s.attached.filter (· ≠ nub) = s.attached := by
    rw [List.filter_eq_self]
    intro n hn
    have := hfresh n hn
    simp
    omega
  unfold Services.link Services.detach
  simp only [List.filter_append, hfilter]
  simp

theorem publishNub_eq (hfresh : ∀ n ∈ s.attached, n < nub) :
    child.publishNub nub s
      = ⟨s.attached ++ if child.LeftAttached ∨ child.Published then [nub] else [],
          s.deviceNubs ++ if child.Published then [nub] else []⟩ := by
  have hnone : ¬ child.LeftAttached → ¬ child.Published →
      s = ⟨s.attached ++ if child.LeftAttached ∨ child.Published then [nub] else [],
        s.deviceNubs ++ if child.Published then [nub] else []⟩ := by
    intro hleft hpublished
    rw [if_neg hpublished, if_neg (not_or.mpr ⟨hleft, hpublished⟩), List.append_nil, List.append_nil]
  unfold publishNub
  split
  . next hinit =>
    apply hnone
    . intro h
      simp [h.initialised] at hinit
    . intro h
      simp [h.1, h.2.1] at hinit
  . next hinit =>
    have hinit : child.allocated = true ∧ child.init = true := by simpa using hinit
    by_cases hsuper : child.superAttach = true
    . rw [attach_of_superAttach hsuper hinit]
      dsimp only
      by_cases hleft : child.LeftAttached
      . have hpublished : ¬ child.Published := fun h => h.2.2.2.1 hleft
        rw [if_pos (by simp [hleft]), if_pos (.inl hleft), if_neg hpublished, List.append_nil]
        rfl
      . rw [if_neg (by simp [hleft])]
        split
        . next hstart =>
          rw [detach_link hfresh]
          apply hnone hleft
          intro h
          exact hstart h.2.2.2.2
        . next hstart =>
          have hpublished : child.Published :=
            ⟨hinit.1, hinit.2, hsuper, hleft, Decidable.not_not.mp hstart⟩
          rw [if_pos (.inr hpublished), if_pos hpublished]
          rfl
    . have hattach : child.attach nub s = (false, s) := by
        unfold attach
        rw [if_pos hsuper]
      rw [hattach]
      dsimp only
      rw [if_pos (by simp)]
      apply hnone
      . intro h
        exact hsuper h.linked
      . intro h
        exact hsuper h.2.2.1

end ACPIChild

/-! All children. -/

variable {s : Services} {children : List ACPIChild} {nub : Nat}

/--
The entries that the loop comes to: it ends at the first one that is no `IOService`.
-/
def reached (children : List ACPIChild) : List ACPIChild := children.takeWhile (·.isService)

structure Services.Numbered (s : Services) (nub : Nat) : Prop where
  held : s.deviceNubs.Sublist s.attached
  fresh : ∀ n ∈ s.attached, n < nub

theorem Services.Numbered.publishNub (h : s.Numbered nub) (child : ACPIChild) :
    (child.publishNub nub s).Numbered (nub + 1) := by
  rw [ACPIChild.publishNub_eq h.fresh]
  constructor
  . apply List.Sublist.append h.held
    by_cases hpublished : child.Published
    . simp only [hpublished, or_true, if_true, List.Sublist.refl]
    . rw [if_neg hpublished]
      apply List.nil_sublist
  . intro n hn
    rw [List.mem_append] at hn
    rcases hn with hn | hn
    . have := h.fresh n hn
      omega
    . split at hn
      . rw [List.mem_singleton] at hn
        omega
      . contradiction

theorem Services.Numbered.publishNub_eq_iff (h : s.Numbered nub) (child : ACPIChild) :
    (child.publishNub nub s).attached = (child.publishNub nub s).deviceNubs
      ↔ s.attached = s.deviceNubs ∧ ¬ child.LeftAttached := by
  rw [ACPIChild.publishNub_eq h.fresh]
  dsimp only
  have hle := h.held.length_le
  by_cases hleft : child.LeftAttached
  . have hpublished : ¬ child.Published := fun h => h.2.2.2.1 hleft
    rw [if_pos (.inl hleft), if_neg hpublished, List.append_nil]
    simp only [hleft, not_true_eq_false, and_false, iff_false]
    intro heq
    have := congrArg List.length heq
    rw [List.length_append, List.length_singleton] at this
    omega
  . simp only [hleft, false_or, not_false_eq_true, and_true]
    rw [List.append_left_inj]

theorem publishNubs_go (children : List ACPIChild) (h : s.Numbered nub) :
    (publishNubs.go children nub s).attached = (publishNubs.go children nub s).deviceNubs
      ↔ s.attached = s.deviceNubs ∧ ∀ child ∈ reached children, ¬ child.LeftAttached := by
  induction children generalizing nub s with
  | nil => simp [publishNubs.go, reached]
  | cons child children ih =>
    unfold publishNubs.go reached
    split
    . next hservice =>
      rw [List.takeWhile_cons_of_neg hservice]
      simp
    . next hservice =>
      rw [Decidable.not_not] at hservice
      rw [ih (h.publishNub child), h.publishNub_eq_iff, List.takeWhile_cons_of_pos hservice,
        List.forall_mem_cons, and_assoc]
      rfl

theorem attached_stopNubs (s : Services) :
    (stopNubs s).attached = s.attached.filter (· ∉ s.deviceNubs) := by
  induction hn : s.deviceNubs.length generalizing s with
  | zero =>
    have hnil := List.length_eq_zero_iff.mp hn
    unfold stopNubs
    split
    . rw [hnil, eq_comm, List.filter_eq_self]
      simp
    . next hlast =>
      rw [hnil] at hlast
      contradiction
  | succ n ih =>
    unfold stopNubs
    split
    . next hlast =>
      rw [List.getLast?_eq_none_iff] at hlast
      rw [hlast] at hn
      contradiction
    . next nub hlast =>
      rcases List.getLast?_eq_some_iff.mp hlast with ⟨nubs, hnubs⟩
      rw [ih]
      . unfold Services.detach
        dsimp only
        rw [hnubs, List.dropLast_concat, List.filter_filter]
        congr 1
        funext m
        simp [not_or]
      . dsimp only
        rw [List.length_dropLast, hn, Nat.add_sub_cancel]

def noServices : Services := ⟨[], []⟩

/--
The attached nubs are those in `device_nubs`, and `stop` detaches them, exactly if no `attach` fails
after it has linked its nub.
-/
theorem publishNubs_attached (children : Option (List ACPIChild)) :
    (publishNubs children noServices).2.attached = (publishNubs children noServices).2.deviceNubs
        ∧ (stopNubs (publishNubs children noServices).2).attached = []
      ↔ ∀ child ∈ reached (children.getD []), ¬ child.LeftAttached := by
  have hstop : ∀ s : Services, s.attached = s.deviceNubs → (stopNubs s).attached = [] := by
    intro s hs
    rw [attached_stopNubs, hs, List.filter_eq_nil_iff]
    intro nub hnub
    simpa using hnub
  have hnumbered : noServices.Numbered 0 :=
    { held := List.Sublist.refl _
      fresh := by simp [noServices] }
  cases children with
  | none => simp [publishNubs, noServices, reached, hstop]
  | some children =>
    have hgo := publishNubs_go children hnumbered
    change (publishNubs.go children 0 noServices).attached
        = (publishNubs.go children 0 noServices).deviceNubs
        ∧ (stopNubs (publishNubs.go children 0 noServices)).attached = [] ↔ _
    constructor
    . intro ⟨h, _⟩
      exact (hgo.mp h).2
    . intro h
      have heq := hgo.mpr ⟨rfl, h⟩
      exact ⟨heq, hstop _ heq⟩

/-! A touchpad with a GPIO interrupt, the controller of which is not there. -/

def touchpad (gpioController : Bool) : ACPIChild where
  isService := true
  allocated := true
  init := true
  superAttach := true
  isACPIDevice := true
  isDriver := true
  deviceResources := .success
  hasGpioInterrupts := true
  gpioController := gpioController
  superStart := true
  workLoop := true
  commandGate := true
  addEventSource := .success

theorem publishNubs_not_attached :
    ¬ ((publishNubs (some [touchpad false]) noServices).2.attached
        = (publishNubs (some [touchpad false]) noServices).2.deviceNubs
      ∧ (stopNubs (publishNubs (some [touchpad false]) noServices).2).attached = []) := by
  intro ⟨h, _⟩
  revert h
  decide

end VoodooI2C
