import VoodooI2C.Lifecycle.Basic

/-!
This module contains when `setPowerState` takes `i2c_bus_lock` while it is allocated.
-/

namespace VoodooI2C

namespace Lifecycle

open Interaction Threads

variable {α : Type} {s : State} {l : Lock} {registered published : Bool}

/-! The condition on the steps of a run. -/

-- `setPowerState` stands at its beginning
def takesLock (p : Life Unit) : Bool :=
  match p with
  | .call .lockLock _ => true
  | _ => false

-- `stop` stands behind `releaseResources`
def stopsNext (m : Life α) : Bool :=
  match m with
  | .call .pmStop _ => true
  | _ => false

/--
`start` does not fail once the driver is registered with power management. No call of `setPowerState`
stands at its beginning when `IOLockFree` is called, and none is made between that and `PMstop`.
-/
def Meets (c : Threads lifecycle α) (l : Threads.Label Op Op.Ans) : Prop :=
  match l with
  | .main .getBusConfig r => r = .success
  | .main .registerInterrupt r => r = .success
  | .main .isInterruptRegistered b => c.state.published = false → b = false
  | .main .lockFree _ => ∀ p, c.other = some p → takesLock p = false
  | .call p => stopsNext c.main = true → takesLock p = false
  | _ => True

/-! What the second thread does to the state. -/

def PowerOp (op : Op) : Prop :=
  match op with
  | .lockUnlock | .initialiseBus | .toggleBusState _ | .toggleInterrupts _ | .isInterruptRegistered
  | .setInterruptRegistered _ | .registerInterrupt | .enableInterrupt | .disableInterrupt
  | .unregisterInterrupt | .awake | .setAwake _ => True
  | _ => False

def Valid (s : State) : Prop := ∀ l ∈ s.taken, l = .allocated

structure Rely (s s' : State) : Prop where
  lock : s'.lock = s.lock
  registered : s'.registered = s.registered
  published : s'.published = s.published
  valid : Valid s → Valid s'

def Power (s : State) (p : Life Unit) : Prop :=
  p.Performs PowerOp
    ∨ s.lock = .allocated ∧ ∃ k, p = .call .lockLock k ∧ ∀ r, (k r).Performs PowerOp

theorem performs_startI2CInterrupt : startI2CInterrupt.Performs PowerOp := by
  unfold startI2CInterrupt
  apply Prog.performs_bind (Prog.performs_perform (by trivial))
  intro b
  apply Prog.performs_ite
  . apply Prog.performs_pure
  . apply Prog.performs_bind (Prog.performs_perform (by trivial))
    intro ret
    apply Prog.performs_ite
    . apply Prog.performs_bind (Prog.performs_perform (by trivial))
      intro _
      apply Prog.performs_bind (Prog.performs_perform (by trivial))
      intro _
      apply Prog.performs_pure
    . apply Prog.performs_pure

theorem performs_stopI2CInterrupt : stopI2CInterrupt.Performs PowerOp := by
  unfold stopI2CInterrupt
  apply Prog.performs_bind (Prog.performs_perform (by trivial))
  intro b
  apply Prog.performs_ite
  . apply Prog.performs_bind (Prog.performs_perform (by trivial))
    intro _
    apply Prog.performs_bind (Prog.performs_perform (by trivial))
    intro _
    apply Prog.performs_perform (by trivial)
  . apply Prog.performs_pure

theorem performs_change (whichState : Nat) :
    (setPowerState.change whichState).Performs PowerOp := by
  unfold setPowerState.change
  apply Prog.performs_bind (Prog.performs_perform (by trivial))
  intro awake
  apply Prog.performs_ite
  . apply Prog.performs_ite
    . unfold setPowerState.powerOff
      apply Prog.performs_bind (Prog.performs_perform (by trivial))
      intro _
      apply Prog.performs_bind (Prog.performs_perform (by trivial))
      intro _
      apply performs_stopI2CInterrupt
    . apply Prog.performs_pure
  . apply Prog.performs_ite
    . unfold setPowerState.powerOn
      apply Prog.performs_bind (Prog.performs_perform (by trivial))
      intro _
      apply Prog.performs_bind (Prog.performs_perform (by trivial))
      intro _
      apply Prog.performs_bind (Prog.performs_perform (by trivial))
      intro _
      apply Prog.performs_bind (Prog.performs_perform (by trivial))
      intro _
      apply Prog.performs_bind performs_startI2CInterrupt
      intro _
      apply Prog.performs_pure
    . apply Prog.performs_pure

theorem power_setPowerState (whichState : Nat) (forThis : Bool)
    (h : takesLock (setPowerState whichState forThis) = true → s.lock = .allocated) :
    Power s (setPowerState whichState forThis) := by
  cases forThis with
  | false =>
    left
    apply Prog.performs_pure
  | true =>
    right
    refine ⟨h rfl, _, rfl, ?_⟩
    intro r
    apply Prog.performs_bind (performs_change whichState)
    intro _
    apply Prog.performs_perform
    trivial

theorem PowerOp.rely {op : Op} (hop : PowerOp op) (s : State) (r : op.Ans) :
    Rely s (State.next op s r) := by
  cases op <;> first | contradiction | exact ⟨rfl, rfl, rfl, fun h => h⟩

theorem Power.next {op : Op} {k : op.Ans → Life Unit} (h : Power s (.call op k)) (r : op.Ans) :
    Power (State.next op s r) (k r) ∧ Rely s (State.next op s r) := by
  rcases h with h | ⟨hlock, k', heq, hk⟩
  . exact ⟨.inl (h.2 r), h.1.rely s r⟩
  . injection heq with hop hk'
    subst hop
    rw [heq_eq_eq] at hk'
    subst hk'
    refine ⟨.inl (hk r), rfl, rfl, rfl, ?_⟩
    intro hvalid l hl
    simp only [State.next, List.mem_append, List.mem_singleton] at hl
    cases hl with
    | inl hl => apply hvalid l hl
    | inr hl => rw [hl, hlock]

/-! The main program. -/

def Answers (op : Op) (s : State) (r : op.Ans) : Prop :=
  State.admits op s r
    ∧ match op, r with
      | .getBusConfig, r => r = .success
      | .registerInterrupt, r => r = .success
      | .isInterruptRegistered, b => s.published = false → b = false
      | _, _ => True

def Guard (op : Op) (s : State) : Prop :=
  Valid s
    ∧ match op with
      | .lockAlloc => s.lock = .none ∧ s.registered = false
      | .lockLock => False
      | .pmStop => s.lock = .freed
      | _ => s.registered = true → s.lock = .allocated

def Returns (_ : Bool) (s : State) : Prop := Valid s ∧ (s.registered = true → s.lock = .allocated)

abbrev relied : World Op Op.Ans := relying lifecycle Answers Rely

structure At (l : Lock) (registered published : Bool) (s : State) : Prop where
  valid : Valid s
  lock : s.lock = l
  registered : s.registered = registered
  published : s.published = published

theorem At.stable : relied.Stable (At l registered published) := by
  intro s s' h hrely
  constructor
  . apply hrely.valid h.valid
  . rw [hrely.lock, h.lock]
  . rw [hrely.registered, h.registered]
  . rw [hrely.published, h.published]

theorem At.allocated (h : At l registered published s) (hl : registered = true → l = .allocated)
    (hregistered : s.registered = true) : s.lock = .allocated := by
  rw [h.lock]
  apply hl
  rw [← h.registered, hregistered]

def Neutral (op : Op) : Prop :=
  match op with
  | .lockAlloc | .lockLock | .lockFree | .registerPowerDriver | .pmStop | .registerService => False
  | _ => True

theorem At.next {op : Op} (hop : Neutral op) (h : At l registered published s) (r : op.Ans) :
    At l registered published (State.next op s r) := by
  cases op <;> first | contradiction | exact ⟨h.valid, h.lock, h.registered, h.published⟩

theorem At.guard {op : Op} (hop : Neutral op) (h : At l registered published s)
    (hl : registered = true → l = .allocated) : Guard op s := by
  refine ⟨h.valid, ?_⟩
  cases op <;> first | contradiction | exact h.allocated hl

section Rules

variable {Q : α → State → Prop} (hl : registered = true → l = .allocated)
include hl

theorem At.wp_op {op : Op} {f : op.Ans → Life α} (h : At l registered published s)
    (hop : Neutral op)
    (hf : ∀ r s₁, At l registered published s₁ → Answers op s₁ r →
      wp relied Guard (f r) Q (State.next op s₁ r)) :
    wp relied Guard (Lifecycle.op op >>= f) Q s := by
  apply wp_step At.stable h
  intro s₁ h₁
  refine ⟨h₁.guard hop hl, ?_⟩
  intro r hr
  apply hf r s₁ h₁ hr

theorem At.wp_neutral {op : Op} {f : op.Ans → Life α} (h : At l registered published s)
    (hop : Neutral op) (hf : ∀ r s', At l registered published s' → wp relied Guard (f r) Q s') :
    wp relied Guard (Lifecycle.op op >>= f) Q s := by
  apply h.wp_op hl hop
  intro r s₁ h₁ _
  apply hf
  apply h₁.next hop

omit hl in
theorem At.wp_return {a : α} (h : At l registered published s)
    (hQ : ∀ s', At l registered published s' → Q a s') : wp relied Guard (pure a) Q s := by
  intro s' henv
  apply hQ
  apply At.stable.env h henv

theorem At.wp_stopI2CInterrupt (h : At l registered published s) :
    wp relied Guard stopI2CInterrupt (fun _ => At l registered published) s := by
  unfold stopI2CInterrupt
  apply h.wp_neutral hl (by trivial)
  intro b s₁ h₁
  split
  . apply h₁.wp_neutral hl (by trivial)
    intro _ s₂ h₂
    apply h₂.wp_neutral hl (by trivial)
    intro _ s₃ h₃
    apply wp_tail
    apply h₃.wp_neutral hl (by trivial)
    intro _ s₄ h₄
    exact h₄.wp_return fun _ h => h
  . exact h₁.wp_return fun _ h => h

theorem At.wp_releaseResources (h : At l registered published s) :
    wp relied Guard releaseResources
      (fun _ => At (if l = .none then .none else .freed) registered published) s := by
  unfold releaseResources
  rw [wp_bind]
  apply wp_post (h.wp_stopI2CInterrupt hl)
  intro _ s₁ h₁
  rw [wp_bind]
  apply wp_post (Q := fun _ => At l registered published)
  . unfold releaseResources.removeGate
    apply h₁.wp_neutral hl (by trivial)
    intro b s₂ h₂
    split
    . apply wp_tail
      apply h₂.wp_neutral hl (by trivial)
      intro _ s₃ h₃
      exact h₃.wp_return fun _ h => h
    . exact h₂.wp_return fun _ h => h
  . intro _ s₂ h₂
    apply h₂.wp_neutral hl (by trivial)
    intro _ s₃ h₃
    apply h₃.wp_neutral hl (by trivial)
    intro _ s₄ h₄
    apply h₄.wp_op hl (by trivial)
    intro b s₅ h₅ hb
    have hb : b = decide (s₅.lock ≠ .none) := hb.1
    rw [h₅.lock] at hb
    have h₆ : At l registered published (State.next .lockPointer s₅ b) := h₅
    split
    . next htrue =>
      have hne : l ≠ .none := by simpa [hb] using htrue
      rw [if_neg hne]
      apply wp_tail
      apply wp_step At.stable h₆
      intro s₇ h₇
      refine ⟨⟨h₇.valid, h₇.allocated hl⟩, ?_⟩
      intro _ _
      have h₈ : At .freed registered published (State.next .lockFree s₇ ()) :=
        ⟨h₇.valid, rfl, h₇.registered, h₇.published⟩
      exact h₈.wp_return fun _ h => h
    . next hfalse =>
      have heq : l = .none := by simpa [hb] using hfalse
      rw [if_pos heq, ← heq]
      exact h₆.wp_return fun _ h => h

theorem At.wp_startI2CInterrupt (h : At l registered false s) :
    wp relied Guard startI2CInterrupt
      (fun ret s => ret = .success ∧ At l registered false s) s := by
  unfold startI2CInterrupt
  apply h.wp_op hl (by trivial)
  intro b s₁ h₁ hb
  have h₂ : At l registered false (State.next .isInterruptRegistered s₁ b) := h₁
  have hb : s₁.published = false → b = false := hb.2
  rw [if_neg (by rw [hb h₁.published]; simp)]
  apply h₂.wp_op hl (by trivial)
  intro ret s₃ h₃ hret
  have h₄ : At l registered false (State.next .registerInterrupt s₃ ret) := h₃
  have hret : ret = .success := hret.2
  rw [if_pos hret]
  apply h₄.wp_neutral hl (by trivial)
  intro _ s₅ h₅
  apply h₅.wp_neutral hl (by trivial)
  intro _ s₆ h₆
  refine h₆.wp_return ?_
  intro s₇ h₇
  exact ⟨hret, h₇⟩

end Rules

theorem At.wp_exit (h : At l false published s) :
    wp relied Guard start.exit
      (fun started s => started = false ∧ Valid s ∧ s.registered = false) s := by
  unfold start.exit
  rw [wp_bind]
  apply wp_post (h.wp_releaseResources (by simp))
  intro _ s₁ h₁
  refine h₁.wp_return ?_
  intro s₂ h₂
  exact ⟨rfl, h₂.valid, h₂.registered⟩

def Started (started : Bool) (s : State) : Prop :=
  if started then At .allocated true true s else Returns started s

theorem wp_start_registered (h : At .allocated true false s) :
    wp relied Guard
      (do
        if (← op .getBusConfig) ≠ .success then
          start.exit
        else
          op .setBusConfig
          if (← op .initialiseBus) ≠ .success then
            return false
          else
            op (.toggleInterrupts .off)
            if (← startI2CInterrupt) ≠ .success then
              start.exit
            else
              op .registerService
              op .publishNubs
              return true)
      Started s := by
  have hl : true = true → Lock.allocated = .allocated := fun _ => rfl
  apply h.wp_op hl (by trivial)
  intro ret s₁ h₁ hret
  have h₂ : At .allocated true false (State.next .getBusConfig s₁ ret) := h₁
  have hret : ret = .success := hret.2
  rw [if_neg (not_not_intro hret)]
  apply h₂.wp_neutral hl (by trivial)
  intro _ s₃ h₃
  apply h₃.wp_neutral hl (by trivial)
  intro ret s₄ h₄
  split
  . refine h₄.wp_return ?_
    intro s₅ h₅
    exact ⟨h₅.valid, h₅.allocated hl⟩
  . apply h₄.wp_neutral hl (by trivial)
    intro _ s₅ h₅
    rw [wp_bind]
    apply wp_post (h₅.wp_startI2CInterrupt hl)
    rintro ret s₆ ⟨hret, h₆⟩
    rw [if_neg (not_not_intro hret)]
    apply wp_step At.stable h₆
    intro s₇ h₇
    refine ⟨⟨h₇.valid, h₇.allocated hl⟩, ?_⟩
    intro _ _
    have h₈ : At .allocated true true (State.next .registerService s₇ ()) :=
      ⟨h₇.valid, h₇.lock, h₇.registered, rfl⟩
    apply h₈.wp_neutral hl (by trivial)
    intro _ s₉ h₉
    exact h₉.wp_return fun _ h => h

theorem wp_start (h : At .none false false s) : wp relied Guard start Started s := by
  have hl : ∀ l : Lock, false = true → l = .allocated := by simp
  have hexit : ∀ l (s : State), At l false false s → wp relied Guard start.exit Started s := by
    intro l s h
    apply wp_post h.wp_exit
    rintro started s₁ ⟨rfl, hvalid, hregistered⟩
    exact ⟨hvalid, by simp [hregistered]⟩
  unfold start
  apply h.wp_neutral (hl _) (by trivial)
  intro ok s₁ h₁
  split
  . refine h₁.wp_return ?_
    intro s₂ h₂
    exact ⟨h₂.valid, h₂.allocated (hl _)⟩
  . apply wp_step At.stable h₁
    intro s₂ h₂
    refine ⟨⟨h₂.valid, h₂.lock, h₂.registered⟩, ?_⟩
    intro ok _
    have h₃ : At (if ok then .allocated else .none) false false (State.next .lockAlloc s₂ ok) :=
      ⟨h₂.valid, rfl, h₂.registered, h₂.published⟩
    split
    . apply hexit _ _ h₃
    . next hok =>
      have hok : ok = true := by simpa using hok
      rw [if_pos hok] at h₃
      apply h₃.wp_neutral (hl _) (by trivial)
      intro found s₄ h₄
      split
      . apply hexit _ _ h₄
      . apply h₄.wp_neutral (hl _) (by trivial)
        intro _ s₅ h₅
        apply h₅.wp_neutral (hl _) (by trivial)
        intro made s₆ h₆
        split
        . apply hexit _ _ h₆
        . apply h₆.wp_neutral (hl _) (by trivial)
          intro ret s₇ h₇
          split
          . apply hexit _ _ h₇
          . apply h₇.wp_neutral (hl _) (by trivial)
            intro _ s₈ h₈
            apply h₈.wp_neutral (hl _) (by trivial)
            intro _ s₉ h₉
            apply wp_step At.stable h₉
            intro s₁₀ h₁₀
            refine ⟨⟨h₁₀.valid, h₁₀.allocated (hl _)⟩, ?_⟩
            intro _ _
            apply wp_start_registered
            exact ⟨h₁₀.valid, h₁₀.lock, rfl, h₁₀.published⟩

theorem wp_stop (h : At .allocated true true s) :
    wp relied Guard stop (fun _ => At .freed false true) s := by
  have hl : true = true → Lock.allocated = .allocated := fun _ => rfl
  unfold stop
  apply h.wp_neutral hl (by trivial)
  intro _ s₁ h₁
  rw [wp_bind]
  apply wp_post (Q := fun _ => At .allocated true true)
  . unfold stop.toggleOff
    apply h₁.wp_neutral hl (by trivial)
    intro awake s₂ h₂
    split
    . apply wp_tail
      apply h₂.wp_neutral hl (by trivial)
      intro _ s₃ h₃
      exact h₃.wp_return fun _ h => h
    . exact h₂.wp_return fun _ h => h
  . intro _ s₂ h₂
    rw [wp_bind]
    apply wp_post (h₂.wp_releaseResources hl)
    intro _ s₃ h₃
    rw [if_neg (by simp)] at h₃
    apply wp_step At.stable h₃
    intro s₄ h₄
    refine ⟨⟨h₄.valid, h₄.lock⟩, ?_⟩
    intro _ _
    have h₅ : At .freed false true (State.next .pmStop s₄ ()) :=
      ⟨h₄.valid, h₄.lock, rfl, h₄.published⟩
    apply wp_tail
    apply h₅.wp_neutral (by simp) (by trivial)
    intro _ s₆ h₆
    exact h₆.wp_return fun _ h => h

theorem returns_stable {started : Bool} : relied.Stable (Returns started) := by
  intro s s' h hrely
  refine ⟨hrely.valid h.1, ?_⟩
  rw [hrely.registered, hrely.lock]
  apply h.2

theorem wp_startStop : wp relied Guard startStop Returns State.initial := by
  unfold startStop
  rw [wp_bind]
  have hinitial : At .none false false State.initial := by
    refine ⟨?_, rfl, rfl, rfl⟩
    intro l hl
    contradiction
  apply wp_post (wp_start hinitial)
  intro started s₁ h₁
  cases started with
  | true =>
    rw [if_pos rfl, wp_bind]
    apply wp_post (wp_stop h₁)
    intro _ s₂ h₂
    refine h₂.wp_return ?_
    intro s₃ h₃
    exact ⟨h₃.valid, h₃.allocated (by simp)⟩
  | false =>
    rw [if_neg (by simp)]
    apply wp_pure returns_stable
    exact h₁

theorem rule : Rule lifecycle calls Meets Answers Rely Guard Valid Power Returns where
  guard op s h := h.1
  returned started s h := h.1
  main s op k o r hr hM := by
    refine ⟨hr, ?_⟩
    cases op <;> trivial
  keeps s op k p r _ hM hG h := by
    rcases h with h | ⟨hlock, k', rfl, hk⟩
    . exact .inl h
    . refine .inr ⟨?_, k', rfl, hk⟩
      cases op with
      | lockAlloc =>
        have hnone : s.lock = .none := hG.2.1
        rw [hlock] at hnone
        contradiction
      | lockFree =>
        have := hM _ rfl
        contradiction
      | _ => apply hlock
  call s m p hcall hM hahead := by
    rcases hcall with ⟨hregistered, whichState, forThis, rfl⟩
    apply power_setPowerState
    intro htakes
    cases m with
    | ret started => exact hahead.2 hregistered
    | call op k =>
      have hguard : Guard op s := hahead
      cases op with
      | pmStop =>
        -- the lock is freed, but the driver is still registered
        have := hM rfl
        rw [htakes] at this
        contradiction
      | lockAlloc => exact absurd (hregistered.symm.trans hguard.2.2) (by simp)
      | lockLock => exact hguard.2.elim
      | _ => exact hguard.2 hregistered
  other s op k r h _ := h.next r

theorem startStop_lock {c : Threads lifecycle Bool}
    (hc : Reachable lifecycle calls Meets State.initial startStop c) :
    (∀ l ∈ c.state.taken, l = .allocated)
      ∧ (c.main = .ret false → c.state.lock = .allocated ∨ c.state.registered = false)
      ∧ (stopsNext c.main = true → c.state.lock = .freed) := by
  have hsound := rule.reachable wp_startStop hc
  have hahead := hsound.ahead
  refine ⟨rule.invariant hsound, ?_, ?_⟩
  . intro hmain
    rw [hmain] at hahead
    have hreturns : Returns false c.state := hahead
    cases hregistered : c.state.registered with
    | true => exact .inl (hreturns.2 hregistered)
    | false => exact .inr rfl
  . intro hstops
    unfold stopsNext at hstops
    split at hstops
    . next heq =>
      rw [heq] at hahead
      have hguard : Guard .pmStop c.state := hahead
      exact hguard.2
    . contradiction

/-! Runs in which everything but `getBusConfig` succeeds. -/

def answer (busConfig : IOReturn) (op : Op) (s : State) : op.Ans :=
  match op with
  | .superStart | .lockAlloc | .getWorkLoop | .makeCommandGate => true
  | .lockPointer => decide (s.lock ≠ .none)
  | .commandGate => s.commandGate
  | .isInterruptRegistered => s.interruptRegistered
  | .awake => s.awake
  | .addEventSource | .initialiseBus | .registerInterrupt => IOReturn.success
  | .getBusConfig => busConfig
  | .superStop | .lockLock | .lockUnlock | .lockFree | .retainWorkLoop | .releaseWorkLoop
  | .removeEventSource | .releaseCommandGate | .pmInit | .joinPMtree | .registerPowerDriver | .pmStop
  | .setBusConfig | .toggleBusState _ | .toggleInterrupts _ | .setInterruptRegistered _
  | .enableInterrupt | .disableInterrupt | .unregisterInterrupt | .setAwake _ | .registerService
  | .publishNubs | .stopNubs => ()

theorem admits_answer (busConfig : IOReturn) (op : Op) (s : State) :
    State.admits op s (answer busConfig op s) := by
  cases op <;> trivial

def meets (c : Threads lifecycle α) (l : Threads.Label Op Op.Ans) : Bool :=
  match l with
  | .main .getBusConfig r => decide (r = IOReturn.success)
  | .main .registerInterrupt r => decide (r = IOReturn.success)
  | .main .isInterruptRegistered b => c.state.published || !b
  | .main .lockFree _ =>
    match c.other with
    | some p => !takesLock p
    | none => true
  | .call p => !stopsNext c.main || !takesLock p
  | _ => true

theorem meets_sound (c : Threads lifecycle α) (l : Threads.Label Op Op.Ans) (h : meets c l = true) :
    Meets c l := by
  cases l with
  | main op r =>
    cases op with
    | getBusConfig => simpa [meets, Meets] using h
    | registerInterrupt => simpa [meets, Meets] using h
    | isInterruptRegistered =>
      intro hpublished
      simpa [meets, hpublished] using h
    | lockFree =>
      intro p hp
      simpa [meets, hp] using h
    | _ => trivial
  | call p =>
    intro hstops
    simpa [meets, hstops] using h
  | other op r => trivial
  | leave => trivial

def player (busConfig : IOReturn) : Player (α := Bool) lifecycle calls (fun _ _ => True) where
  answer := answer busConfig
  program whichState := setPowerState whichState true
  may s _ := s.registered
  meets _ _ := true
  admits_answer := admits_answer busConfig
  calls_program _ whichState h := ⟨h, whichState, true, rfl⟩
  meets_sound _ _ _ := trivial

def meetingPlayer : Player (α := Bool) lifecycle calls Meets where
  answer := answer .success
  program whichState := setPowerState whichState true
  may s _ := s.registered
  meets := meets
  admits_answer := admits_answer .success
  calls_program _ whichState h := ⟨h, whichState, true, rfl⟩
  meets_sound := meets_sound

def sleepRun : Threads lifecycle Bool :=
  meetingPlayer.play
    (List.replicate 9 .main ++ [.call 0] ++ List.replicate 9 .other ++ List.replicate 24 .main)
    ⟨State.initial, startStop, none⟩

theorem startStop_lock_sleep :
    sleepRun.state.taken.length = 1 ∧ sleepRun.state.lock = .freed
      ∧ ∀ l ∈ sleepRun.state.taken, l = .allocated := by
  refine ⟨by decide +kernel, by decide +kernel, ?_⟩
  apply (startStop_lock (meetingPlayer.reachable_play _)).1

def failedRun : Threads lifecycle Bool :=
  (player .error).play (List.replicate 17 .main ++ [.call 0, .other])
    ⟨State.initial, startStop, none⟩

-- a call between `IOLockFree` and `PMstop`
def lateRun : Threads lifecycle Bool :=
  (player .success).play (List.replicate 32 .main ++ [.call 0, .other])
    ⟨State.initial, startStop, none⟩

-- a call that has not taken the lock yet at `IOLockFree`
def waitingRun : Threads lifecycle Bool :=
  (player .success).play (List.replicate 31 .main ++ [.call 0, .main, .other])
    ⟨State.initial, startStop, none⟩

/--
A failure of `getBusConfig` frees the lock and leaves the driver registered. `stop` frees the lock
before it calls `PMstop`.
-/
theorem startStop_takes_freed :
    (∃ c, Reachable lifecycle calls (fun _ _ => True) State.initial startStop c
        ∧ c.main = .ret false ∧ c.state.lock = .freed ∧ c.state.registered = true
        ∧ .freed ∈ c.state.taken)
      ∧ ∀ c ∈ [lateRun, waitingRun],
        Reachable lifecycle calls (fun _ _ => True) State.initial startStop c
          ∧ c.state.taken = [.freed] := by
  refine ⟨⟨failedRun, (player .error).reachable_play _, rfl, ?_, ?_, ?_⟩, ?_⟩
  . decide +kernel
  . decide +kernel
  . decide +kernel
  . intro c hc
    rw [List.mem_cons, List.mem_singleton] at hc
    rcases hc with rfl | rfl
    . exact ⟨(player .success).reachable_play _, by decide +kernel⟩
    . exact ⟨(player .success).reachable_play _, by decide +kernel⟩

end Lifecycle

end VoodooI2C
