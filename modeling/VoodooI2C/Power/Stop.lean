import VoodooI2C.Power.Composition
import VoodooI2C.Driver.Play

/-!
This module contains the accesses to the controller in runs of both levels that end with `stop`.
`stop` looks at `awake` and accesses the controller without `i2c_bus_lock`, so the requests that come
in between must not turn the controller off.
-/

namespace VoodooI2C

open Interaction

variable {H : Hardware} {α : Type}

def NoAccess (cfg : Config (system H) α) : Prop :=
  (∀ op k, cfg.handler = none → cfg.main = .call op k → ¬ op.IsAccess)
    ∧
  (∀ op k, cfg.handler = some (.call op k) → ¬ op.IsAccess)

theorem transferI2C_asleep {s : State H} {messages : Pointer} {number : Nat}
    (h : s.device.awake = false) {cfg : Config (system H) IOReturn}
    (hc : Reachable (system H) handleInterrupt s (transferI2C messages number) cfg) :
    NoAccess cfg ∧ ∀ ret, cfg.handler = none → cfg.main = .ret ret → ret = .busy := by
  have hG : ∀ (op : Op) (s : State H), ¬ op.IsAccess → s.device.awake = false →
      s.device.awake = false ∧ ¬ op.IsAccess :=
    fun op s hop h => ⟨h, hop⟩
  have hp := wp_transferI2C_asleep hG messages number h
  have hJ : ∀ s : State H, s.device.awake = false →
      wp (system H) (fun op s => s.device.awake = false ∧ ¬ op.IsAccess) handleInterrupt
        (fun _ _ => True) s := by
    intro s h
    apply wp_post (wp_handleInterrupt_asleep hG h)
    intro _ _ _
    trivial
  have hstep : ∀ (op : Op) (s : State H), s.device.awake = false ∧ ¬ op.IsAccess →
      s.device.awake = false :=
    fun _ _ h => h.1
  have hreturn : ∀ (ret : IOReturn) (s : State H), ret = .busy ∧ s.device.awake = false →
      s.device.awake = false :=
    fun _ _ h => h.2
  refine ⟨⟨?_, ?_⟩, ?_⟩
  . intro op k hnone hmain
    exact (hc.main_guard hstep hreturn hJ hp hnone hmain).2
  . intro op k hsome
    exact (hc.handler_guard hstep hreturn hJ hp hsome).2
  . intro ret hnone hmain
    exact (hc.main_returns hstep hreturn hJ hp hnone hmain).1

def OnlyAwake (cfg : Config (system H) α) : Prop :=
  (∀ op k, cfg.handler = none → cfg.main = .call op k → op.IsAccess →
    cfg.state.physical.awake = true)
    ∧
  (∀ op k, cfg.handler = some (.call op k) → op.IsAccess → cfg.state.physical.awake = true)

/--
Any requests before, during and after the part of `stop` that accesses the controller.
-/
theorem powerRun_accesses {s₀ : State H} (physical : Controller) (requests : List Request)
    {during : Nat → List Request} (after : Nat → List Request) (h₀ : Nested s₀)
    (hduring : KeepsOn during) :
    (∀ cfg, Reachable (system H) handleInterrupt s₀ (powerRun physical requests during after) cfg →
      OnlyAwake cfg)
      ∧
    ∀ (s : State H) (messages : Pointer) (number : Nat) cfg, s.device.awake = false →
      Reachable (system H) handleInterrupt s (transferI2C messages number) cfg →
      NoAccess cfg ∧ ∀ ret, cfg.handler = none → cfg.main = .ret ret → ret = .busy := by
  constructor
  . intro cfg hc
    have hp : wp (interrupted H) PowerGuard (powerRun physical requests during after)
        (fun _ => Nested) s₀ := h₀.wp_powerRun hduring
    have hJ : ∀ s : State H, Nested s → wp (system H) PowerGuard handleInterrupt (fun _ _ => True) s :=
      fun s h => h.wp_handleInterrupt
    have hstep : ∀ (op : Op) (s : State H), PowerGuard op s → Nested s := fun _ _ h => h.1
    have hreturn : ∀ (a : Unit) (s : State H), Nested s → Nested s := fun _ _ h => h
    constructor
    . intro op k hnone hmain
      exact (hc.main_guard hstep hreturn hJ hp hnone hmain).2
    . intro op k hsome
      exact (hc.handler_guard hstep hreturn hJ hp hsome).2
  . intro s messages number cfg h hc
    apply transferI2C_asleep h hc

/-! Runs. -/

def Prog.accesses (p : Driver α) : Bool :=
  match p with
  | .call (.readRegister _) _ | .call (.writeRegister _ _) _ => true
  | _ => false

theorem Prog.call_of_accesses {p : Driver α} (h : Prog.accesses p = true) :
    ∃ op k, p = .call op k ∧ op.IsAccess := by
  unfold Prog.accesses at h
  split at h
  . exact ⟨_, _, rfl, trivial⟩
  . exact ⟨_, _, rfl, trivial⟩
  . contradiction

def sleepRequests : List Request := [.driver 0 true, .controller 0 true]

def wakeRequests : List Request := [.controller 1 true, .driver 1 true]

theorem powerRun_accesses_sleep :
    Nested readyState ∧ KeepsOn (fun _ => [])
      ∧ ∃ cfg, Reachable (system smallFifo) handleInterrupt readyState
          (powerRun .acpi (sleepRequests ++ wakeRequests) (fun _ => []) (fun _ => sleepRequests)) cfg
        ∧ Prog.accesses cfg.main = true ∧ OnlyAwake cfg := by
  have hready : Nested readyState := by
    intro _
    decide +kernel
  have hduring : KeepsOn (fun _ => []) := by
    intro n _ request hmem
    contradiction
  refine ⟨hready, hduring, _, timeoutPlayer.reachable_play handleInterrupt (List.replicate 36 .main),
    by decide +kernel, ?_⟩
  apply (powerRun_accesses .acpi _ _ hready hduring).1
  apply timeoutPlayer.reachable_play

/--
Both levels sleep between the look at `awake` in `stop` and the access after it.
-/
theorem powerRun_accesses_asleep :
    ∃ cfg, Reachable (system smallFifo) handleInterrupt readyState
        (powerRun .pci [] (fun n => if n = 1 then sleepRequests else []) (fun _ => [])) cfg
      ∧ ¬ OnlyAwake cfg := by
  refine ⟨_, timeoutPlayer.reachable_play handleInterrupt (List.replicate 17 .main), ?_⟩
  intro h
  rcases Prog.call_of_accesses (p := (timeoutPlayer.play handleInterrupt (List.replicate 17 .main)
    ⟨readyState, powerRun .pci [] (fun n => if n = 1 then sleepRequests else []) (fun _ => []), none⟩).main)
    (by decide +kernel) with ⟨op, k, hmain, haccess⟩
  have := h.1 op k (by decide +kernel) hmain haccess
  revert this
  decide +kernel

end VoodooI2C
