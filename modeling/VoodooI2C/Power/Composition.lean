import VoodooI2C.Power.Basic
import VoodooI2C.Transfer.Frame
import VoodooI2C.Driver.Lemmas.Caller

/-!
This module contains that the driver accesses the controller only while the controller is awake.
-/

namespace VoodooI2C

open Interaction

variable {H : Hardware} {s : State H} {α : Type}

/-! What the functions of the driver perform. -/

def DriverOp (op : Op) : Prop :=
  match op with
  | .updatePhysicalDevice _ => False
  | _ => True

theorem HandlerOp.driverOp {op : Op} (h : HandlerOp op) : DriverOp op := by
  cases op with
  | updatePhysicalDevice f => contradiction
  | _ => trivial

theorem CallerOp.driverOp {op : Op} (h : CallerOp op) : DriverOp op := by
  cases op with
  | updatePhysicalDevice f => contradiction
  | _ => trivial

/-! The two flags. -/

def Op.IsAccess (op : Op) : Prop :=
  match op with
  | .readRegister _ | .writeRegister _ _ => True
  | _ => False

def Nested (s : State H) : Prop := s.device.awake = true → s.physical.awake = true

def Powered (s : State H) : Prop := s.physical.awake = true

def PowerGuard (op : Op) (s : State H) : Prop := Nested s ∧ (op.IsAccess → Powered s)

theorem Powered.nested (h : Powered s) : Nested s := fun _ => h

theorem Powered.guard (op : Op) (h : Powered s) : PowerGuard op s :=
  ⟨h.nested, fun _ => h⟩

theorem Powered.next {op : Op} {r : op.Ans} (hop : DriverOp op) (h : Powered s) :
    Powered (State.next op s r) := by
  cases op with
  | updatePhysicalDevice f => contradiction
  | reach point => cases point <;> apply h
  | _ => apply h

theorem HandlerOp.awake {op : Op} {r : op.Ans} (hop : HandlerOp op) :
    (State.next op s r).device.awake = s.device.awake := by
  cases op with
  | update f =>
    have hfixed := congrArg BusDevice.awake (hop s.device)
    exact hfixed
  | reach point => cases point <;> rfl
  | _ => rfl

theorem HandlerOp.physical {op : Op} {r : op.Ans} (hop : HandlerOp op) :
    (State.next op s r).physical = s.physical := by
  cases op with
  | updatePhysicalDevice f => contradiction
  | reach point => cases point <;> rfl
  | _ => rfl

theorem stable_flags (b c : Bool) :
    (interrupted H).Stable fun s => s.device.awake = b ∧ s.physical.awake = c := by
  apply stable_of_handlerOp
  . rintro s _ h ⟨hw, _, rfl⟩
    apply h
  . intro op s r hop h _
    rw [hop.awake, hop.physical]
    apply h

theorem stable_powered : (interrupted H).Stable Powered := by
  apply stable_of_handlerOp
  . rintro s _ h ⟨hw, _, rfl⟩
    apply h
  . intro op s r hop h _
    apply h.next hop.driverOp

theorem stable_nested : (interrupted H).Stable Nested := by
  apply stable_of_handlerOp
  . rintro s _ h ⟨hw, _, rfl⟩
    apply h
  . intro op s r hop h _
    unfold Nested
    rw [hop.awake, hop.physical]
    apply h

theorem wp_handleInterrupt_asleep {G : Op → State H → Prop}
    (hG : ∀ op s, ¬ op.IsAccess → s.device.awake = false → G op s) (h : s.device.awake = false) :
    wp (system H) G handleInterrupt (fun _ s => s.device.awake = false) s := by
  have hG' : ∀ op : Op, ¬ op.IsAccess → ∀ hw, H.Steps s.hw hw → G op { s with hw := hw } :=
    fun op hop hw _ => hG op _ hop h
  unfold handleInterrupt
  apply wp_disableInterrupt (hG' _ (by simp [Op.IsAccess]))
  rw [wp_bind]
  unfold handleInterrupt.body
  apply wp_device_of (hG' _ (by simp [Op.IsAccess]))
  rw [if_neg (by simp [h])]
  apply wp_done
  intro hw hsteps
  apply wp_tail
  apply wp_enableInterrupt
  . intro hw' hsteps'
    apply hG' _ (by simp [Op.IsAccess]) hw' (hsteps.trans hsteps')
  . apply wp_done
    intro _ _
    apply h

theorem asleep_guard {op : Op} (hop : ¬ op.IsAccess) (h : s.device.awake = false) :
    PowerGuard op s := by
  refine ⟨?_, fun haccess => absurd haccess hop⟩
  intro hawake
  rw [h] at hawake
  contradiction

theorem Nested.wp_handleInterrupt (h : Nested s) :
    wp (system H) PowerGuard handleInterrupt (fun _ _ => True) s := by
  cases hawake : s.device.awake with
  | false =>
    apply wp_post (wp_handleInterrupt_asleep (fun _ _ => asleep_guard) hawake)
    intro _ _ _
    trivial
  | true =>
    apply wp_post
    . apply wp_performs performs_handleInterrupt (A := Powered)
      . rintro s _ h ⟨hw, _, rfl⟩
        apply h
      . intro op s _ h
        apply h.guard op
      . intro op s r hop h _
        apply h.next hop.driverOp
      . apply h hawake
    . intro _ _ _
      trivial

theorem Powered.wp_of_driverOp {p : Driver α} (hp : p.Performs DriverOp) (h : Powered s) :
    wp (interrupted H) PowerGuard p (fun _ => Powered) s := by
  apply wp_performs hp stable_powered
  . intro op s _ h
    apply h.guard op
  . intro op s r hop h _
    apply h.next hop
  . apply h

theorem stable_asleep : (interrupted H).Stable fun s => s.device.awake = false := by
  apply stable_of_handlerOp
  . rintro s _ h ⟨hw, _, rfl⟩
    apply h
  . intro op s r hop h _
    rw [hop.awake]
    apply h

theorem wp_transferI2C_asleep {G : Op → State H → Prop}
    (hG : ∀ op s, ¬ op.IsAccess → s.device.awake = false → G op s) (messages : Pointer)
    (number : Nat) (h : s.device.awake = false) :
    wp (interrupted H) G (transferI2C messages number)
      (fun ret s => ret = .busy ∧ s.device.awake = false) s := by
  have hprepare : wp (interrupted H) G (prepareTransferI2C messages number)
      (fun ret s => ret = .busy ∧ s.device.awake = false) s := by
    unfold prepareTransferI2C
    apply wp_step stable_asleep h
    intro s₁ h₁
    refine ⟨hG _ _ (by simp [Op.IsAccess]) h₁, ?_⟩
    intro _ _
    rw [wp_bind]
    unfold prepareTransferI2C.go
    have h₂ : (State.next (.reach (.prepareTransferI2C messages)) s₁ ()).device.awake = false := h₁
    apply wp_main_device stable_asleep h₂
    intro s₃ h₃
    refine ⟨hG _ _ (by simp [Op.IsAccess]) h₃, ?_⟩
    rw [if_pos (by simp [h₃])]
    refine wp_main_return stable_asleep h₃ ?_
    intro s₄ h₄
    apply wp_step stable_asleep h₄
    intro s₅ h₅
    refine ⟨hG _ _ (by simp [Op.IsAccess]) h₅, ?_⟩
    intro _ _
    have h₆ : (State.next (.reach .prepareTransferI2CReturns) s₅ ()).device.awake = false := h₅
    exact wp_main_return stable_asleep h₆ fun _ h => ⟨rfl, h⟩
  unfold transferI2C transferI2CGated transferI2CGated.go
  rw [wp_bind]
  apply wp_post hprepare
  rintro ret s₁ ⟨rfl, h₁⟩
  rw [if_pos (by simp)]
  exact wp_main_return stable_asleep h₁ fun _ h => ⟨rfl, h⟩

/-! The physical controller. -/

def ControllerOp (op : Op) : Prop :=
  match op with
  | .physicalDevice | .updatePhysicalDevice _ | .getDeviceMemoryCount | .mapDeviceMemory
  | .external _ => True
  | _ => False

theorem performs_mapMemory : mapMemory.Performs ControllerOp := by
  unfold mapMemory
  apply Prog.performs_bind (Prog.performs_perform (by trivial))
  intro count
  split
  . apply Prog.performs_pure
  . apply Prog.performs_bind (Prog.performs_perform (by trivial))
    intro mapped
    refine ⟨trivial, fun _ => ?_⟩
    apply Prog.performs_ite
    . apply Prog.performs_pure
    . apply Prog.performs_pure

theorem performs_change (controller : Controller) (whichState : Nat) :
    (Controller.setPowerState.change controller whichState).Performs ControllerOp := by
  unfold Controller.setPowerState.change
  apply Prog.performs_bind (Prog.performs_perform (by trivial))
  intro d
  split
  . split
    . cases controller with
      | pci => exact ⟨trivial, fun _ => ⟨trivial, fun _ => trivial⟩⟩
      | acpi =>
        exact ⟨trivial, fun _ => ⟨trivial, fun _ => ⟨trivial, fun _ => ⟨trivial, fun _ => trivial⟩⟩⟩⟩
    . apply Prog.performs_pure
  . split
    . unfold Controller.wake
      apply Prog.performs_bind
      . cases controller with
        | pci =>
          refine ⟨trivial, fun _ => ?_⟩
          apply Prog.performs_bind performs_mapMemory
          intro _
          exact ⟨trivial, fun _ => trivial⟩
        | acpi =>
          refine ⟨trivial, fun _ => ?_⟩
          apply Prog.performs_bind performs_mapMemory
          intro _
          exact ⟨trivial, fun _ => trivial⟩
      . intro _
        exact ⟨trivial, fun _ => trivial⟩
    . apply Prog.performs_pure

theorem wp_change_asleep (controller : Controller) (whichState : Nat)
    (h : s.device.awake = false) :
    wp (interrupted H) PowerGuard (Controller.setPowerState.change controller whichState)
      (fun _ s => s.device.awake = false) s := by
  apply wp_performs (performs_change controller whichState) stable_asleep
  . intro op s hop h
    apply asleep_guard _ h
    cases op <;> first | contradiction | exact fun h => h
  . intro op s r hop h _
    cases op <;> first | contradiction | exact h
  . apply h

theorem wp_change_powered (controller : Controller) {whichState : Nat} (hstate : whichState ≠ 0)
    (h : Powered s) :
    wp (interrupted H) PowerGuard (Controller.setPowerState.change controller whichState)
      (fun _ => Powered) s := by
  unfold Controller.setPowerState.change
  apply wp_step stable_powered h
  intro s₁ h₁
  refine ⟨h₁.guard _, ?_⟩
  intro d hd
  have hd : d = s₁.physical := hd
  have hawake : d.awake = true := by
    rw [hd]
    apply h₁
  rw [if_neg hstate, if_neg (by simp [hawake])]
  exact wp_main_return stable_powered h₁ fun _ h => h

/-! Requests. -/

def Request.turnsOff (request : Request) : Bool :=
  match request with
  | .controller whichState forThis => forThis && whichState == 0
  | _ => false

theorem performs_transferBody (physical : Controller) (messages : Pointer) (list : List BusMessage) :
    ((Request.transferI2C messages list).body physical).Performs DriverOp := by
  unfold Request.body
  apply Prog.performs_bind (Prog.performs_perform (by trivial))
  intro _
  apply Prog.performs_bind (Prog.performs_mono (performs_transferI2C _ _) fun _ h => h.driverOp)
  intro _
  apply Prog.performs_perform
  trivial

theorem performs_driverBody (physical : Controller) (whichState : Nat) (forThis : Bool) :
    ((Request.driver whichState forThis).body physical).Performs DriverOp := by
  unfold Request.body
  apply Prog.performs_bind (Prog.performs_mono (performs_setPowerState _ _) fun _ h => h.driverOp)
  intro _
  apply Prog.performs_pure

variable {physical : Controller} {request : Request}

theorem body_controller (whichState : Nat) (forThis : Bool) :
    (Request.controller whichState forThis).body physical
      = if forThis then Controller.setPowerState.change physical whichState else pure () := by
  unfold Request.body Controller.setPowerState
  cases forThis <;> simp

theorem body_driver (whichState : Nat) (forThis : Bool) :
    (Request.driver whichState forThis).body physical
      = if forThis then setPowerState.change whichState else pure () := by
  unfold Request.body setPowerState
  cases forThis <;> simp

theorem Powered.wp_body (hrequest : request.turnsOff = false) (h : Powered s) :
    wp (interrupted H) PowerGuard (request.body physical) (fun _ => Powered) s := by
  have hreturn : ∀ {β : Type} (b : β) (s : State H), Powered s →
      wp (interrupted H) PowerGuard (pure b) (fun _ => Powered) s :=
    fun b s h => wp_main_return stable_powered h fun _ h => h
  cases request with
  | controller whichState forThis =>
    rw [body_controller]
    split
    . next hthis =>
      have hstate : whichState ≠ 0 := by simpa [Request.turnsOff, hthis] using hrequest
      apply wp_change_powered physical hstate h
    . apply hreturn _ _ h
  | driver whichState forThis => apply h.wp_of_driverOp (performs_driverBody _ _ _)
  | transferI2C messages list => apply h.wp_of_driverOp (performs_transferBody _ _ _)
  | losePower =>
    unfold Request.body
    apply wp_step stable_powered h
    intro s₁ h₁
    refine ⟨h₁.guard _, ?_⟩
    intro f _
    have h₂ : Powered (State.next .losePower s₁ f) := h₁
    apply hreturn _ _ h₂

theorem wp_body_asleep (hallowed : request.allowed false false = true)
    (h : s.device.awake = false) :
    wp (interrupted H) PowerGuard (request.body physical) (fun _ s => s.device.awake = false) s := by
  have hreturn : ∀ {β : Type} (b : β) (s : State H), s.device.awake = false →
      wp (interrupted H) PowerGuard (pure b) (fun _ s => s.device.awake = false) s :=
    fun b s h => wp_main_return stable_asleep h fun _ h => h
  have hG : ∀ (op : Op) (s : State H), ¬ op.IsAccess → s.device.awake = false → PowerGuard op s :=
    fun _ _ => asleep_guard
  cases request with
  | controller whichState forThis =>
    rw [body_controller]
    split
    . apply wp_change_asleep physical whichState h
    . apply hreturn _ _ h
  | driver whichState forThis =>
    rw [body_driver]
    split
    . next hthis =>
      have hstate : whichState = 0 := by simpa [Request.allowed, hthis] using hallowed
      unfold setPowerState.change
      apply wp_main_device stable_asleep h
      intro s₁ h₁
      refine ⟨hG _ _ (by simp [Op.IsAccess]) h₁, ?_⟩
      rw [if_pos hstate, if_neg (by simp [h₁])]
      apply hreturn _ _ h₁
    . apply hreturn _ _ h
  | transferI2C messages list =>
    unfold Request.body
    apply wp_step stable_asleep h
    intro s₁ h₁
    refine ⟨hG _ _ (by simp [Op.IsAccess]) h₁, ?_⟩
    intro memory _
    have h₂ : (State.next (.beginTransfer messages list) s₁ memory).device.awake = false := h₁
    rw [wp_bind]
    apply wp_post (wp_transferI2C_asleep hG messages list.length h₂)
    rintro _ s₃ ⟨-, h₃⟩
    apply wp_tail
    apply wp_step stable_asleep h₃
    intro s₄ h₄
    refine ⟨hG _ _ (by simp [Op.IsAccess]) h₄, ?_⟩
    intro _ _
    have h₅ : (State.next .endTransfer s₄ ()).device.awake = false := h₄
    apply hreturn _ _ h₅
  | losePower =>
    unfold Request.body
    apply wp_step stable_asleep h
    intro s₁ h₁
    refine ⟨hG _ _ (by simp [Op.IsAccess]) h₁, ?_⟩
    intro f _
    have h₂ : (State.next .losePower s₁ f).device.awake = false := h₁
    apply hreturn _ _ h₂

theorem wp_run {A B : State H → Prop} (b c : Bool) (hb : s.device.awake = b)
    (hc : s.physical.awake = c) (hA : ∀ s, s.device.awake = b → s.physical.awake = c → A s)
    (hG : ∀ op s, ¬ op.IsAccess → A s → PowerGuard op s)
    (hB : ∀ s, s.device.awake = b → s.physical.awake = c → B s) (hBstable : (interrupted H).Stable B)
    (hbody : request.allowed c b = true → ∀ s, s.device.awake = b → s.physical.awake = c →
      wp (interrupted H) PowerGuard (request.body physical) (fun _ => B) s) :
    wp (interrupted H) PowerGuard (request.run physical) (fun _ => B) s := by
  have hstable := stable_flags (H := H) b c
  unfold Request.run
  apply wp_step hstable ⟨hb, hc⟩
  intro s₁ h₁
  refine ⟨hG _ _ (by simp [Op.IsAccess]) (hA s₁ h₁.1 h₁.2), ?_⟩
  intro d hd
  have hd : d = s₁.physical := hd
  have h₂ : (State.next .physicalDevice s₁ d).device.awake = b
      ∧ (State.next .physicalDevice s₁ d).physical.awake = c := h₁
  apply wp_main_device hstable h₂
  intro s₃ h₃
  refine ⟨hG _ _ (by simp [Op.IsAccess]) (hA s₃ h₃.1 h₃.2), ?_⟩
  rw [hd, h₁.2, h₃.1]
  split
  . next hallowed => apply hbody hallowed s₃ h₃.1 h₃.2
  . exact wp_main_return hBstable (hB s₃ h₃.1 h₃.2) fun _ h => h

theorem Powered.wp_request (hrequest : request.turnsOff = false) (h : Powered s) :
    wp (interrupted H) PowerGuard (request.run physical) (fun _ => Powered) s := by
  apply wp_run (A := Powered) (B := Powered) s.device.awake true rfl h
  . intro s _ hc
    apply hc
  . intro op s _ h
    apply h.guard op
  . intro s _ hc
    apply hc
  . apply stable_powered
  . intro _ s _ hc
    apply Powered.wp_body hrequest hc

theorem Nested.wp_request (h : Nested s) :
    wp (interrupted H) PowerGuard (request.run physical) (fun _ => Nested) s := by
  have hG : ∀ (op : Op) (s : State H), ¬ op.IsAccess → Nested s → PowerGuard op s :=
    fun op s hop h => ⟨h, fun haccess => absurd haccess hop⟩
  cases hc : s.physical.awake with
  | true =>
    cases hb : s.device.awake with
    | true =>
      apply wp_run (A := Nested) (B := Nested) true true hb hc _ hG _ stable_nested
      . intro hallowed s _ hc
        apply wp_post (Powered.wp_body _ hc)
        . intro _ s h
          apply h.nested
        . -- with the driver awake the controller is not turned off
          cases request with
          | controller whichState forThis =>
            simpa [Request.allowed, Request.turnsOff, Decidable.or_iff_not_imp_left] using hallowed
          | _ => rfl
      . intro s _ hc _
        apply hc
      . intro s _ hc _
        apply hc
    | false =>
      apply wp_run (A := Nested) (B := Nested) false true hb hc _ hG _ stable_nested
      . intro hallowed s hb hc
        by_cases hoff : request.turnsOff = true
        . apply wp_post (wp_body_asleep _ hb)
          . intro _ s h hawake
            rw [h] at hawake
            contradiction
          . cases request with
            | controller whichState forThis => simp [Request.allowed]
            | _ => contradiction
        . apply wp_post (Powered.wp_body (by simpa using hoff) hc)
          intro _ s h
          apply h.nested
      . intro s _ hc _
        apply hc
      . intro s _ hc _
        apply hc
  | false =>
    have hb : s.device.awake = false := by
      cases hb : s.device.awake with
      | false => rfl
      | true =>
        have := h hb
        rw [hc] at this
        contradiction
    apply wp_run (A := Nested) (B := Nested) false false hb hc _ hG _ stable_nested
    . intro hallowed s hb _
      apply wp_post (wp_body_asleep hallowed hb)
      intro _ s h hawake
      rw [h] at hawake
      contradiction
    . intro s hb _ hawake
      rw [hb] at hawake
      contradiction
    . intro s hb _ hawake
      rw [hb] at hawake
      contradiction

theorem Nested.wp_runRequests {requests : List Request} (h : Nested s) :
    wp (interrupted H) PowerGuard (runRequests physical requests) (fun _ => Nested) s := by
  induction requests generalizing s with
  | nil => exact wp_main_return stable_nested h fun _ h => h
  | cons request requests ih =>
    unfold runRequests
    rw [wp_bind]
    apply wp_post h.wp_request
    intro _ s₁ h₁
    apply ih h₁

theorem Powered.wp_runRequests {requests : List Request}
    (hrequests : ∀ request ∈ requests, request.turnsOff = false) (h : Powered s) :
    wp (interrupted H) PowerGuard (runRequests physical requests) (fun _ => Powered) s := by
  induction requests generalizing s with
  | nil => exact wp_main_return stable_powered h fun _ h => h
  | cons request requests ih =>
    unfold runRequests
    rw [wp_bind]
    apply wp_post (Powered.wp_request (hrequests request List.mem_cons_self) h)
    intro _ s₁ h₁
    apply ih _ h₁
    intro request hmem
    apply hrequests request (List.mem_cons_of_mem _ hmem)

/-! The run. -/

/--
The requests that come between the check of `awake` in `stop` and the last access after it.
-/
def KeepsOn (during : Nat → List Request) : Prop :=
  ∀ n, 0 < n → ∀ request ∈ during n, request.turnsOff = false

theorem Nested.wp_toggleOff {during : Nat → List Request} (hduring : KeepsOn during)
    (h : Nested s) :
    wp (interrupted H) PowerGuard
      (Stop.toggleOff.interleave (fun n => runRequests physical (during n)) 0) (fun _ => Nested) s := by
  unfold Stop.toggleOff device
  rw [Prog.interleave_perform_bind, wp_bind]
  apply wp_post h.wp_runRequests
  intro _ s₁ h₁
  apply wp_step stable_nested h₁
  intro s₂ h₂
  refine ⟨⟨h₂, fun haccess => absurd haccess (by simp [Op.IsAccess])⟩, ?_⟩
  intro d hd
  have hd : d = s₂.device := hd
  subst hd
  split
  . next hawake =>
    have h₃ : Powered (State.next .device s₂ s₂.device) := h₂ hawake
    apply wp_post
    . apply wp_interleave (P := DriverOp) _ stable_powered
      . intro m s hm h
        apply Powered.wp_runRequests _ h
        apply hduring m (by omega)
      . intro op s _ h
        apply h.guard op
      . intro op s r hop h _
        apply h.next hop
      . apply h₃
      . apply Prog.performs_bind
          (Prog.performs_mono (performs_toggleBusState _) fun _ h => h.callerOp.driverOp)
        intro _
        apply Prog.performs_pure
    . intro _ _ h
      apply h.nested
  . exact wp_main_return stable_nested h₂ fun _ h => h

def RestOp (op : Op) : Prop :=
  match op with
  | .update f => ∀ d, (f d).awake = d.awake
  | .device | .disableInterrupt | .unregisterInterrupt | .external _ => True
  | _ => False

theorem performs_rest : Stop.rest.Performs RestOp := by
  unfold Stop.rest
  apply Prog.performs_bind
  . unfold stopI2CInterrupt
    simp only [performs_device_bind]
    refine ⟨trivial, fun d => ?_⟩
    split
    . exact ⟨trivial, fun _ => ⟨trivial, fun _ => ⟨fun _ => rfl, fun _ => trivial⟩⟩⟩
    . apply Prog.performs_pure
  . intro _
    exact ⟨trivial, fun _ => ⟨trivial, fun _ => ⟨trivial, fun _ => ⟨trivial, fun _ => trivial⟩⟩⟩⟩

theorem RestOp.guard {op : Op} (hop : RestOp op) (h : Nested s) : PowerGuard op s := by
  refine ⟨h, ?_⟩
  cases op <;> first | contradiction | exact fun haccess => absurd haccess (by simp [Op.IsAccess])

theorem RestOp.nested {op : Op} {r : op.Ans} (hop : RestOp op) (h : Nested s) :
    Nested (State.next op s r) := by
  cases op with
  | update f =>
    intro hawake
    apply h
    rw [← hop s.device]
    apply hawake
  | device | disableInterrupt | unregisterInterrupt | external _ => apply h
  | _ => contradiction

theorem Nested.wp_powerRun {requests : List Request} {during after : Nat → List Request}
    (hduring : KeepsOn during) (h : Nested s) :
    wp (interrupted H) PowerGuard (powerRun physical requests during after) (fun _ => Nested) s := by
  unfold powerRun external
  rw [wp_bind]
  apply wp_post h.wp_runRequests
  intro _ s₁ h₁
  apply wp_step stable_nested h₁
  intro s₂ h₂
  have hstop : RestOp (.external .stopNubs) := trivial
  refine ⟨hstop.guard h₂, ?_⟩
  intro r _
  rw [wp_bind]
  apply wp_post (Nested.wp_toggleOff hduring (hstop.nested (r := r) h₂))
  intro _ s₃ h₃
  apply wp_interleave performs_rest stable_nested
  . intro m s _ h
    apply h.wp_runRequests
  . intro op s hop h
    apply hop.guard h
  . intro op s r hop h _
    apply hop.nested h
  . apply h₃

end VoodooI2C
