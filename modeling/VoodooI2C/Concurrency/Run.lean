import VoodooI2C.Concurrency.Threads
import VoodooI2C.Transfer.Calls

/-!
This module contains what any number of threads do that use the bus at the same time: the same as one
thread that makes their calls one after the other, and all of them return.
-/

namespace VoodooI2C

open Interaction Concurrency

variable {H : Hardware} {ι Nub : Type} {nubs : Nub → DeviceNub} {requests : ι → List (BusRequest Nub)}
  {s₀ : State H} {c : Pool (system H) (Lock Nub) ι Unit}

theorem runCalls_eq_sequence (calls : List (ι × Call)) :
    Prog.sequence (calls.map fun call => call.2.run) = runCalls (calls.map Prod.snd) := by
  induction calls with
  | nil => rfl
  | cons call calls ih =>
    unfold Prog.sequence runCalls
    simp only [List.map_cons]
    rw [ih]

variable [DecidableEq ι] [DecidableEq Nub] {taken : List (ι × Driver Unit)}
  {performed : List (Performed (system H))}

theorem serial_of_ran (hc : Pool.Ran (system H) handleInterrupt s₀
      (fun i => thread nubs (requests i)) .i2cBusLock taken performed c) :
    ∃ (calls : List (ι × Call)) (rest : ι → List Call),
      Pool.Serial (system H) handleInterrupt s₀ .i2cBusLock Call.run
        (fun i => (requests i).map fun request => request.call nubs) calls rest taken performed c :=
  hc.serial fun i => guarded_thread nubs (requests i)

/--
What any number of threads do is done by one thread that makes the calls of `calls` one after the
other, with the same operations in the same states. These are what the threads do that have taken
`i2c_bus_lock`, in this order, and the calls of each thread are in the order of its requests.
-/
theorem requests_serial (hc : Pool.Ran (system H) handleInterrupt s₀
      (fun i => thread nubs (requests i)) .i2cBusLock taken performed c) :
    ∃ (calls : List (ι × Call)) (cfg : Config (system H) Unit),
      taken = calls.map (fun call => (call.1, call.2.run))
        ∧ (∀ i, (Pool.keysOf calls i).Sublist ((requests i).map fun request => request.call nubs))
        ∧ (∀ i, c.owner .i2cBusLock = some i → ∃ call, calls.getLast? = some (i, call))
        ∧ Recorded (system H) handleInterrupt s₀ (runCalls (calls.map Prod.snd)) performed cfg
        ∧ cfg.state = c.state
        ∧ cfg.handler = c.handler
        ∧ cfg.main = Pool.current .i2cBusLock c := by
  rcases serial_of_ran hc with ⟨calls, rest, h⟩
  refine ⟨calls, ⟨c.state, Pool.current .i2cBusLock c, c.handler⟩, h.acquired, ?_, h.last, ?_, rfl,
    rfl, rfl⟩
  . intro i
    apply List.Sublist.trans _ (h.order i)
    apply List.sublist_append_left
  . rw [← runCalls_eq_sequence]
    apply h.run

theorem exists_request {calls : List (ι × Call)} {rest : ι → List Call} {call : Call}
    (h : Pool.Serial (system H) handleInterrupt s₀ .i2cBusLock Call.run
      (fun i => (requests i).map fun request => request.call nubs) calls rest taken performed c)
    (hmem : call ∈ calls.map Prod.snd) : ∃ i, ∃ request ∈ requests i, request.call nubs = call := by
  rcases List.mem_map.mp hmem with ⟨⟨i, call⟩, hcall, rfl⟩
  have hkey : call ∈ Pool.keysOf calls i := by
    unfold Pool.keysOf
    rw [List.mem_filterMap]
    exact ⟨_, hcall, if_pos rfl⟩
  exact ⟨i, List.mem_map.mp ((h.order i).subset (List.mem_append_left _ hkey))⟩

/-! A thread that transfers, one whose attempt to read fails and one that waits for the lock. -/

def busyNub : DeviceNub := ⟨0, 0, 0x10, false, false, false⟩

def busyRequests (i : Fin 3) : List (BusRequest Unit) :=
  match i with
  | 0 => [.nub () 7 (.writeReadI2C 0x41 2 0x80 3)]
  | 1 => [.nub () 9 (.readI2C 0x90 1)]
  | 2 => [.setPowerState 0 true]

def busyTurns : List (PoolTurn (Fin 3)) :=
  List.replicate 33 (.thread ⟨0, by decide⟩)
    ++ [.thread ⟨1, by decide⟩, .thread ⟨2, by decide⟩]
    ++ List.replicate 20 .handler

def busyPool : Pool (system smallFifo) (Lock Unit) (Fin 3) Unit :=
  timeoutPlayer.poolPlay handleInterrupt busyTurns
    ⟨readyState, fun _ => none, fun i => thread (fun _ => busyNub) (busyRequests i), none⟩

theorem reachable_busyPool :
    Pool.Reachable (system smallFifo) handleInterrupt readyState
      (fun i => thread (fun _ => busyNub) (busyRequests i)) busyPool := by
  apply timeoutPlayer.reachable_poolPlay

theorem requests_serial_busy :
    busyPool.owner .i2cBusLock = some 0
      ∧ ∃ taken performed,
          Pool.Ran (system smallFifo) handleInterrupt readyState
            (fun i => thread (fun _ => busyNub) (busyRequests i)) .i2cBusLock taken performed busyPool
          ∧ ∃ (calls : List (Fin 3 × Call)) (cfg : Config (system smallFifo) Unit),
              taken = calls.map (fun call => (call.1, call.2.run))
                ∧ (∀ i, (Pool.keysOf calls i).Sublist
                    ((busyRequests i).map fun request => request.call fun _ => busyNub))
                ∧ (∀ i, busyPool.owner .i2cBusLock = some i →
                    ∃ call, calls.getLast? = some (i, call))
                ∧ Recorded (system smallFifo) handleInterrupt readyState
                    (runCalls (calls.map Prod.snd)) performed cfg
                ∧ cfg.state = busyPool.state
                ∧ cfg.handler = busyPool.handler
                ∧ cfg.main = Pool.current .i2cBusLock busyPool := by
  constructor
  . decide +kernel
  . rcases reachable_busyPool.exists_ran .i2cBusLock with ⟨taken, performed, hran⟩
    exact ⟨taken, performed, hran, requests_serial hran⟩

/--
No thread waits forever, for whatever the controller and the other threads do, as long as threads
that are able to go on do so.
-/
theorem requests_complete [Finite ι] (hanswer : ∀ reg hw, ∃ v, H.canRead reg hw v)
    (hc : Pool.Reachable (system H) handleInterrupt s₀ (fun i => thread nubs (requests i)) c) :
    Pool.Inevitable (system H) handleInterrupt Pool.AllReturned c := by
  apply Pool.AllOrdered.inevitable _ (hc.allOrdered fun i => ordered_thread nubs (requests i))
  intro op s
  cases op with
  | readRegister reg => apply hanswer
  | device => exact ⟨s.device, rfl⟩
  | physicalDevice => exact ⟨s.physical, rfl⟩
  | message messages i => exact ⟨s.memory.message messages i, rfl⟩
  | load a => exact ⟨s.memory.byte a, rfl⟩
  | leaveSleep =>
    by_cases h : s.sleeper = .woken
    . exact ⟨.awakened, by simp [State.admits, h]⟩
    . exact ⟨.timedOut, by simp [State.admits, h]⟩
  | beginTransfer messages list => exact ⟨s.memory.put list, fun i m h => Memory.put_message i m h⟩
  | losePower => exact ⟨fun _ => 0, trivial⟩
  | getDeviceMemoryCount => exact ⟨0, trivial⟩
  | mapDeviceMemory => exact ⟨true, trivial⟩
  | registerInterrupt => exact ⟨.success, trivial⟩
  | _ => exact ⟨(), trivial⟩

theorem requests_complete_busy :
    Pool.Inevitable (system smallFifo) handleInterrupt Pool.AllReturned busyPool := by
  apply requests_complete _ reachable_busyPool
  intro reg hw
  exact ⟨Fifo.answer reg hw, Fifo.canRead_answer reg hw⟩

section Alive

variable [RegisterFile H]

/--
Only the thread that has taken `i2c_bus_lock` accesses the driver, and lists of messages are accessed
only while they are alive.
-/
theorem requests_alive (h₀ : Started s₀)
    (hvalid : ∀ i messages list, .transferI2C messages list ∈ requests i → list ≠ [])
    (hc : Pool.Reachable (system H) handleInterrupt s₀ (fun i => thread nubs (requests i)) c) :
    (∀ i op k, c.thread i = .call (.perform op) k →
        c.owner .i2cBusLock = some i ∧ (c.handler = none → Alive op c.state))
      ∧ ∀ op k, c.handler = some (.call op k) → Alive op c.state := by
  rcases hc.exists_ran .i2cBusLock with ⟨taken, performed, hran⟩
  rcases serial_of_ran hran with ⟨calls, rest, h⟩
  have hrun := h.run.reachable
  rw [runCalls_eq_sequence] at hrun
  have hlists : ∀ p list, .transferI2C p list ∈ calls.map Prod.snd → list ≠ [] := by
    intro p list hmem
    rcases exists_request h hmem with ⟨i, request, hreq, heq⟩
    cases request with
    | nub n msgs request =>
      injection heq with _ hlist
      rw [← hlist]
      cases request <;> simp [DeviceNub.messages, DeviceNub.readI2CGated, DeviceNub.writeI2CGated,
        DeviceNub.writeReadI2CGated]
    | transferI2C messages list' =>
      injection heq with _ hlist
      subst hlist
      apply hvalid i messages list' hreq
    | setPowerState _ _ => contradiction
  have hp := wp_runCalls Calm.true hlists (h₀.atRest Calm.true)
  have hG : ∀ op s, CallGuard (H := H) Calm.true op s → CallPhase Calm.true s := fun _ _ h => h.1
  have hQ : ∀ (_ : Unit) (s : State H), AtRest _ s → CallPhase Calm.true s := fun _ _ h => .inl h
  have hhandler := fun (s : State H) => CallPhase.wp_handleInterrupt (s := s) Calm.true
  constructor
  . intro i op k hthread
    have hguarded := h.guarded i
    rw [hthread] at hguarded
    refine ⟨hguarded.1, fun hidle => ?_⟩
    have hmain : Pool.current .i2cBusLock c
        = .call op fun r => Pool.untilRelease .i2cBusLock (k r) := by
      simp only [Pool.current, hguarded.1, hthread, Pool.untilRelease]
    apply (hrun.main_guard hG hQ hhandler hp hidle hmain).2
  . intro op k hhd
    apply hrun.handler_guard hG hQ hhandler hp hhd

theorem requests_alive_busy :
    (∀ i op k, busyPool.thread i = .call (.perform op) k →
        busyPool.owner .i2cBusLock = some i ∧ (busyPool.handler = none → Alive op busyPool.state))
      ∧ ∀ op k, busyPool.handler = some (.call op k) → Alive op busyPool.state := by
  apply requests_alive started_readyState _ reachable_busyPool
  intro i messages list hmem
  match i with
  | 0 | 1 | 2 => simp [busyRequests] at hmem

end Alive

end VoodooI2C
