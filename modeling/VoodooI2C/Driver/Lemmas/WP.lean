import VoodooI2C.Driver.System

/-!
This module contains the weakest preconditions of the operations of the driver in interrupt context.
Only accesses to registers see what the controller does, so all other operations are performed in the
state as it is.
-/

namespace VoodooI2C

open Interaction

variable {H : Hardware} {G : Op → State H → Prop} {α : Type} {Q : α → State H → Prop} {s s' : State H}

theorem system_env : (system H).Env s s' ↔ ∃ hw, H.Steps s.hw hw ∧ s' = { s with hw := hw } := by
  constructor
  . intro h
    induction h with
    | refl => exact ⟨s.hw, .refl, rfl⟩
    | tail _ hstep ih =>
      rcases ih with ⟨hw, hsteps, rfl⟩
      rcases hstep with ⟨hw', hstep, rfl⟩
      exact ⟨hw', hsteps.tail hstep, rfl⟩
  . rintro ⟨hw, hsteps, rfl⟩
    induction hsteps with
    | refl => exact .refl
    | tail _ hstep ih => exact ih.tail ⟨_, hstep, rfl⟩

-- Guards that only restrict accesses to registers and to memory.
class Lenient (G : Op → State H → Prop) : Prop where
  device : ∀ s, G .device s
  update : ∀ f s, G (.update f) s
  commandWakeup : ∀ s, G .commandWakeup s

theorem wp_register {op : Op} {f : op.Ans → Driver α}
    (h : ∀ hw, H.Steps s.hw hw →
      G op { s with hw := hw }
        ∧
      ∀ r, State.admits op { s with hw := hw } r →
        wp (system H) G (f r) Q (State.next op { s with hw := hw } r)) :
    wp (system H) G (Prog.perform op >>= f) Q s := by
  rw [wp_perform_bind]
  intro s' henv
  rw [system_env] at henv
  rcases henv with ⟨hw, hsteps, rfl⟩
  apply h hw hsteps

theorem wp_readRegister {reg : Register} {f : Word → Driver α}
    (h : ∀ hw, H.Steps s.hw hw →
      G (.readRegister reg) { s with hw := hw }
        ∧
      ∀ v, H.canRead reg hw v →
        wp (system H) G (f v) Q
          { s with hw := H.read reg v hw, log := s.log ++ [.read reg v] }) :
    wp (system H) G (readRegister reg >>= f) Q s := by
  apply wp_register
  apply h

theorem wp_writeRegister {v : Word} {reg : Register} {f : Unit → Driver α}
    (h : ∀ hw, H.Steps s.hw hw →
      G (.writeRegister v reg) { s with hw := hw }
        ∧
      wp (system H) G (f ()) Q { s with hw := H.write v reg hw, log := s.log ++ [.write v reg] }) :
    wp (system H) G (writeRegister v reg >>= f) Q s := by
  apply wp_register
  intro hw hsteps
  refine ⟨(h hw hsteps).1, ?_⟩
  intro r _
  apply (h hw hsteps).2

theorem wp_local {op : Op} {f : op.Ans → Driver α} (answer : State H → op.Ans)
    (hadmits : ∀ s r, State.admits op s r → r = answer s)
    (hanswer : ∀ (s : State H) (hw : H.State), answer { s with hw := hw } = answer s)
    (hnext : ∀ (s : State H) (hw : H.State) (r : op.Ans),
      State.next op { s with hw := hw } r = { (State.next op s r : State H) with hw := hw })
    (hhw : ∀ (s : State H) r, (State.next op s r).hw = s.hw)
    (hG : ∀ hw, H.Steps s.hw hw → G op { s with hw := hw })
    (h : wp (system H) G (f (answer s)) Q (State.next op s (answer s))) :
    wp (system H) G (Prog.perform op >>= f) Q s := by
  apply wp_silent (W := system H) answer hadmits
  . rintro s _ ⟨hw, hstep, rfl⟩
    refine ⟨hanswer s hw, hw, ?_, ?_⟩
    . have := hhw s (answer s)
      simp only [this]
      apply hstep
    . rw [hanswer]
      apply hnext
  . intro s' henv
    rw [system_env] at henv
    rcases henv with ⟨hw, hsteps, rfl⟩
    apply hG hw hsteps
  . apply h

theorem wp_device_of {f : BusDevice → Driver α}
    (hG : ∀ hw, H.Steps s.hw hw → G .device { s with hw := hw })
    (h : wp (system H) G (f s.device) Q s) : wp (system H) G (device >>= f) Q s := by
  apply wp_local (fun s => s.device) (by intro s r h; apply h)
  . intros; rfl
  . intros; rfl
  . intros; rfl
  . apply hG
  . apply h

theorem wp_device [Lenient G] {f : BusDevice → Driver α} (h : wp (system H) G (f s.device) Q s) :
    wp (system H) G (device >>= f) Q s := by
  apply wp_device_of _ h
  intro _ _
  apply Lenient.device

theorem wp_update [Lenient G] {g : BusDevice → BusDevice} {f : Unit → Driver α}
    (h : wp (system H) G (f ()) Q { s with device := g s.device }) :
    wp (system H) G (update g >>= f) Q s := by
  apply wp_local (fun _ => ())
  . intros; rfl
  . intros; rfl
  . intros; rfl
  . intros; rfl
  . intros; apply Lenient.update
  . apply h

theorem wp_message {p : Pointer} {i : Nat} {f : BusMessage → Driver α}
    (hG : ∀ hw, H.Steps s.hw hw → G (.message p i) { s with hw := hw })
    (h : wp (system H) G (f (s.memory.message p i)) Q s) :
    wp (system H) G (message p i >>= f) Q s := by
  apply wp_local (fun s => s.memory.message p i) (by intro s r h; apply h)
  . intros; rfl
  . intros; rfl
  . intros; rfl
  . apply hG
  . apply h

theorem wp_load {a : Address} {f : Byte → Driver α}
    (hG : ∀ hw, H.Steps s.hw hw → G (.load a) { s with hw := hw })
    (h : wp (system H) G (f (s.memory.byte a)) Q s) : wp (system H) G (load a >>= f) Q s := by
  apply wp_local (fun s => s.memory.byte a) (by intro s r h; apply h)
  . intros; rfl
  . intros; rfl
  . intros; rfl
  . apply hG
  . apply h

theorem wp_store {a : Address} {b : Byte} {f : Unit → Driver α}
    (hG : ∀ hw, H.Steps s.hw hw → G (.store a b) { s with hw := hw })
    (h : wp (system H) G (f ()) Q
      { s with
        memory := { s.memory with byte := Function.update s.memory.byte a b }
        log := s.log ++ [.store a b] }) :
    wp (system H) G (store a b >>= f) Q s := by
  apply wp_local (fun _ => ())
  . intros; rfl
  . intros; rfl
  . intros; rfl
  . intros; rfl
  . apply hG
  . apply h

theorem wp_commandWakeup [Lenient G] {f : Unit → Driver α}
    (h : wp (system H) G (f ()) Q
      { s with
        sleeper := if s.sleeper = .asleep then .woken else s.sleeper
        log := s.log ++ [.wakeup] }) :
    wp (system H) G (commandWakeup >>= f) Q s := by
  apply wp_local (fun _ => ())
  . intros; rfl
  . intros; rfl
  . intros; rfl
  . intros; rfl
  . intros; apply Lenient.commandWakeup
  . apply h

theorem wp_disableInterrupt {f : Unit → Driver α}
    (hG : ∀ hw, H.Steps s.hw hw → G .disableInterrupt { s with hw := hw })
    (h : wp (system H) G (f ()) Q s) : wp (system H) G (disableInterrupt >>= f) Q s := by
  apply wp_local (fun _ => ())
  . intros; rfl
  . intros; rfl
  . intros; rfl
  . intros; rfl
  . apply hG
  . apply h

theorem wp_enableInterrupt {f : Unit → Driver α}
    (hG : ∀ hw, H.Steps s.hw hw → G .enableInterrupt { s with hw := hw })
    (h : wp (system H) G (f ()) Q s) : wp (system H) G (enableInterrupt >>= f) Q s := by
  apply wp_local (fun _ => ())
  . intros; rfl
  . intros; rfl
  . intros; rfl
  . intros; rfl
  . apply hG
  . apply h

theorem wp_reach {point : Point} {f : Unit → Driver α}
    (hG : ∀ hw, H.Steps s.hw hw → G (.reach point) { s with hw := hw })
    (h : wp (system H) G (f ()) Q (State.next (.reach point) s ())) :
    wp (system H) G (reach point >>= f) Q s := by
  apply wp_local (fun _ => ())
  . intros; rfl
  . intros; rfl
  . intros; cases point <;> rfl
  . intros; cases point <;> rfl
  . apply hG
  . apply h

theorem wp_done {a : α} (h : ∀ hw, H.Steps s.hw hw → Q a { s with hw := hw }) :
    wp (system H) G (pure a) Q s := by
  intro s' henv
  rw [system_env] at henv
  rcases henv with ⟨hw, hsteps, rfl⟩
  apply h hw hsteps

end VoodooI2C
