import VoodooI2C.Transfer.Frame
import VoodooI2C.Driver.Lemmas.Caller

/-!
This module contains what `toggleBusState` tells about `IC_ENABLE_STATUS` and that the controller is
programmed only after a handshake that disables it.
-/

namespace VoodooI2C

open Interaction

variable {H : Hardware} {α : Type} {s : State H}

def statuses (log : List Event) : List Word :=
  log.filterMap fun e =>
    match e with
    | .read .enableStatus v => some v
    | _ => none

@[simp]
theorem statuses_append (log log' : List Event) :
    statuses (log ++ log') = statuses log ++ statuses log' := by
  apply List.filterMap_append

theorem statuses_read (v : Word) : statuses [.read .enableStatus v] = [v] := rfl

theorem statuses_ne {reg : Register} (v : Word) (h : reg ≠ .enableStatus) :
    statuses [.read reg v] = [] := by
  cases reg <;> first | contradiction | rfl

def Clear (log : List Event) : Prop := ∃ v, (statuses log).getLast? = some v ∧ v &&& 1 = 0

def Misses (n : Nat) (readings : List Word) : Prop :=
  ∃ before stuck, readings = before ++ stuck ∧ stuck.length = n ∧ ∀ v ∈ stuck, v &&& 1 ≠ 0

/--
The last readings of `IC_ENABLE_STATUS` are those of a handshake that timed out.
-/
def Stuck (log : List Event) : Prop := Misses 1001 (statuses log)

theorem Clear.not_stuck {log : List Event} (h : Clear log) : ¬ Stuck log := by
  rintro ⟨before, stuck, heq, hlength, hstuck⟩
  rcases h with ⟨v, hlast, hv⟩
  have hne : stuck ≠ [] := by
    rintro rfl
    contradiction
  rw [heq, List.getLast?_append_of_ne_nil _ hne, List.getLast?_eq_some_getLast hne] at hlast
  injection hlast with hlast
  apply hstuck v _ hv
  rw [← hlast]
  apply List.getLast_mem

theorem clear_iff_not_stuck {log : List Event} (h : Clear log ∨ Stuck log) :
    Clear log ↔ ¬ Stuck log := by
  constructor
  . apply Clear.not_stuck
  . intro hstuck
    apply h.resolve_right hstuck

def Op.Programs (op : Op) : Prop :=
  match op with
  | .writeRegister _ reg =>
    reg = .con ∨ reg = .tar ∨ reg = .ssSclHcnt ∨ reg = .ssSclLcnt ∨ reg = .fsSclHcnt
      ∨ reg = .fsSclLcnt ∨ reg = .sdaHold ∨ reg = .txTl ∨ reg = .rxTl
  | _ => False

def HandshakeGuard (op : Op) (s : State H) : Prop :=
  op.Programs → (Clear s.log ↔ ¬ Stuck s.log)

theorem RoutineOp.not_programs {op : Op} (h : RoutineOp op) : ¬ op.Programs := by
  cases op with
  | writeRegister v reg => rcases h with rfl | rfl <;> simp [Op.Programs]
  | _ => exact fun hprograms => hprograms

theorem HandlerOp.not_programs {op : Op} (h : HandlerOp op) : ¬ op.Programs := by
  cases op with
  | writeRegister v reg => rcases h with rfl | rfl <;> simp [Op.Programs]
  | _ => exact fun hprograms => hprograms

theorem wp_of_silent {P : Op → Prop} {p : Driver α} (hp : p.Performs P)
    (hP : ∀ op, P op → ¬ op.Programs) :
    wp (interrupted H) HandshakeGuard p (fun _ _ => True) s := by
  apply wp_performs hp (A := fun _ => True)
  . intro _ _ _ _
    trivial
  . intro op s hop _ hprograms
    exact absurd hprograms (hP op hop)
  . intro _ _ _ _ _ _
    trivial
  . trivial

theorem wp_of_routine {p : Driver α} (hp : p.Performs RoutineOp) :
    wp (interrupted H) HandshakeGuard p (fun _ _ => True) s :=
  wp_of_silent hp fun _ h => h.not_programs

/-! Handshakes. -/

theorem HandlerOp.statuses {op : Op} {r : op.Ans} (hop : HandlerOp op) :
    statuses (State.next op s r).log = statuses s.log := by
  cases op with
  | readRegister reg =>
    simp only [State.next, statuses_append, statuses_ne _ (show reg ≠ .enableStatus from hop),
      List.append_nil]
  | reach point => cases point <;> rfl
  | beginTransfer _ _ => contradiction
  | writeRegister _ _ | store _ _ | enterSleep | leaveSleep | commandWakeup =>
    simp only [State.next, statuses_append]
    apply List.append_nil
  | _ => rfl

theorem stable_statuses (p : List Word → Prop) :
    (interrupted H).Stable fun s => p (statuses s.log) := by
  apply stable_of_handlerOp
  . rintro s _ h ⟨hw, _, rfl⟩
    apply h
  . intro op s r hop h _
    rw [hop.statuses]
    apply h

theorem Misses.read {n : Nat} {readings : List Word} {v : Word} (h : Misses n readings)
    (hv : v &&& 1 ≠ 0) : Misses (n + 1) (readings ++ [v]) := by
  rcases h with ⟨before, stuck, rfl, hlength, hstuck⟩
  refine ⟨before, stuck ++ [v], by simp, by simp [hlength], ?_⟩
  intro w hw
  rcases List.mem_append.mp hw with hw | hw
  . apply hstuck w hw
  . rw [List.mem_singleton.mp hw]
    apply hv

def Decided (ret : IOReturn) (s : State H) : Prop :=
  if ret = .success then Clear s.log else Stuck s.log

theorem stable_decided (ret : IOReturn) : (interrupted H).Stable (Decided ret) := by
  unfold Decided
  split
  . apply stable_statuses fun readings => ∃ v, readings.getLast? = some v ∧ v &&& 1 = 0
  . apply stable_statuses (Misses 1001)

theorem Decided.guard {ret : IOReturn} (op : Op) (h : Decided ret s) : HandshakeGuard op s := by
  intro _
  apply clear_iff_not_stuck
  unfold Decided at h
  split at h
  . apply Or.inl h
  . apply Or.inr h

theorem statuses_write (log : List Event) (v : Word) (reg : Register) :
    statuses (log ++ [.write v reg]) = statuses log := by
  rw [statuses_append]
  apply List.append_nil

theorem wp_off_round {n : Nat} {f : Driver IOReturn} (h : Misses n (statuses s.log))
    (hf : ∀ s, Misses (n + 1) (statuses s.log) → wp (interrupted H) HandshakeGuard f Decided s) :
    wp (interrupted H) HandshakeGuard
      (do
        writeRegister VoodooI2CState.off.toWord .enable
        let status ← readRegister .enableStatus
        if status &&& 1 = VoodooI2CState.off.toWord then
          return IOReturn.success
        else
          f)
      Decided s := by
  have hstable : (interrupted H).Stable fun s => Misses n (statuses s.log) := stable_statuses _
  have hguard : ∀ (op : Op) (s : State H), RoutineOp op → HandshakeGuard op s :=
    fun op s hop hprograms => absurd hprograms hop.not_programs
  apply wp_main_writeRegister hstable h
  intro s₁ h₁
  refine ⟨hguard _ _ (.inl rfl), ?_⟩
  rw [← statuses_write s₁.log VoodooI2CState.off.toWord .enable] at h₁
  apply wp_main_readRegister hstable h₁
  intro s₂ h₂
  refine ⟨hguard _ _ (by simp [RoutineOp]), ?_⟩
  intro v _
  split
  . next hv =>
    have hclear : Decided IOReturn.success
        { s₂ with hw := H.read .enableStatus v s₂.hw, log := s₂.log ++ [.read .enableStatus v] } := by
      refine ⟨v, ?_, hv⟩
      simp only [statuses_append, statuses_read, List.getLast?_concat]
    exact wp_main_return (stable_decided _) hclear fun _ h => h
  . next hv =>
    apply hf
    simp only [statuses_append, statuses_read]
    apply h₂.read hv

theorem wp_off_go {n timeout : Nat} (hn : n + timeout = 1000) (h : Misses n (statuses s.log)) :
    wp (interrupted H) HandshakeGuard (toggleBusState.go .off timeout) Decided s := by
  induction timeout generalizing n s with
  | zero =>
    unfold toggleBusState.go
    apply wp_off_round h
    intro s₁ h₁
    have hn : n + 1 = 1001 := by omega
    rw [hn] at h₁
    exact wp_main_return (stable_decided .timeout) h₁ fun _ h => h
  | succ timeout ih =>
    unfold toggleBusState.go
    apply wp_off_round h
    intro s₁ h₁
    apply ih (by omega) h₁

theorem wp_off : wp (interrupted H) HandshakeGuard (toggleBusState .off) Decided s := by
  apply wp_off_go (Nat.zero_add 1000)
  exact ⟨statuses s.log, [], by simp, rfl, by simp⟩

end VoodooI2C
