import VoodooI2C.Isolation.Basic

/-!
This module contains the rules for two runs of the driver side by side. As in a single run only
accesses to registers see what the controllers do.
-/

namespace VoodooI2C

namespace Isolation

open Interaction

variable {H : Hardware} {α β : Type} {Q : α → β → State H × State H → Prop} {s t : State H}

abbrev pair (H : Hardware) : World (Op × Op) (fun o => o.1.Ans × o.2.Ans) :=
  (system H).twice SameAnswer

abbrev interruptedPair (H : Hardware) : World (Op × Op) (fun o => o.1.Ans × o.2.Ans) :=
  (pair H).interrupted (Pair.both handleInterrupt)

def SameLog (_ : Op × Op) (x : State H × State H) : Prop := x.2.log = x.1.log

theorem pair_env {y : State H × State H} (h : (pair H).Env (s, t) y) :
    ∃ hw hw', H.Steps s.hw hw ∧ H.Steps t.hw hw'
      ∧ y = ({ s with hw := hw }, { t with hw := hw' }) := by
  induction h with
  | refl => exact ⟨s.hw, t.hw, .refl, .refl, rfl⟩
  | @tail y z _ hstep ih =>
    rcases ih with ⟨hw, hw', hsteps, hsteps', rfl⟩
    rcases z with ⟨z, z'⟩
    rcases hstep with ⟨⟨hw₁, hstep, heq⟩, hz⟩ | ⟨hz, hw₁, hstep, heq⟩
    . refine ⟨hw₁, hw', hsteps.tail hstep, hsteps', ?_⟩
      simp only at heq hz
      rw [heq, ← hz]
    . refine ⟨hw, hw₁, hsteps, hsteps'.tail hstep, ?_⟩
      simp only at heq hz
      rw [heq, ← hz]

theorem stable_of_hw {A : State H → State H → Prop}
    (h : ∀ s t hw hw', A s t → A { s with hw := hw } { t with hw := hw' }) :
    (pair H).Stable fun x => A x.1 x.2 := by
  rintro ⟨s, t⟩ y hA henv
  rcases pair_env (.single henv) with ⟨hw, hw', _, _, rfl⟩
  apply h s t hw hw' hA

structure Local (op : Op) (answer : State H → op.Ans) : Prop where
  admits : ∀ s r, State.admits op s r → r = answer s
  answer : ∀ (s : State H) (hw : H.State), answer { s with hw := hw } = answer s
  next : ∀ (s : State H) (hw : H.State) (r : op.Ans),
    State.next op { s with hw := hw } r = { (State.next op s r : State H) with hw := hw }
  hw : ∀ (s : State H) r, (State.next op s r).hw = s.hw

theorem wp_local {op op' : Op} {f : op.Ans → Driver α} {g : op'.Ans → Driver β}
    {answer : State H → op.Ans} {answer' : State H → op'.Ans} (hop : Local op answer)
    (hop' : Local op' answer') (hlog : t.log = s.log)
    (h : Pair.wp (pair H) SameLog (f (answer s)) (g (answer' t)) Q
      (State.next op s (answer s), State.next op' t (answer' t))) :
    Pair.wp (pair H) SameLog (Prog.perform op >>= f) (Prog.perform op' >>= g) Q (s, t) := by
  apply Pair.wp_silent (V := pair H) fun x => (answer x.1, answer' x.2)
  . rintro x ⟨r, r'⟩ ⟨hr, hr', _⟩
    exact Prod.ext (hop.admits _ _ hr) (hop'.admits _ _ hr')
  . rintro ⟨x, x'⟩ ⟨y, y'⟩ (⟨⟨hw, hstep, hy⟩, hy'⟩ | ⟨hy, hw, hstep, hy'⟩)
    . simp only at hy hy' hstep
      subst hy hy'
      refine ⟨by rw [hop.answer], .inl ⟨⟨hw, ?_, ?_⟩, rfl⟩⟩
      . simp only [hop.hw]
        apply hstep
      . simp only [hop.answer]
        apply hop.next
    . simp only at hy hy' hstep
      subst hy hy'
      refine ⟨by rw [hop'.answer], .inr ⟨rfl, hw, ?_, ?_⟩⟩
      . simp only [hop'.hw]
        apply hstep
      . simp only [hop'.answer]
        apply hop'.next
  . intro y henv
    rcases pair_env henv with ⟨hw, hw', _, _, rfl⟩
    apply hlog
  . apply h

theorem local_device : Local (H := H) .device fun s => s.device :=
  ⟨fun _ _ h => h, fun _ _ => rfl, fun _ _ _ => rfl, fun _ _ => rfl⟩

theorem local_message (p : Pointer) (i : Nat) :
    Local (H := H) (.message p i) fun s => s.memory.message p i :=
  ⟨fun _ _ h => h, fun _ _ => rfl, fun _ _ _ => rfl, fun _ _ => rfl⟩

theorem local_load (a : Address) : Local (H := H) (.load a) fun s => s.memory.byte a :=
  ⟨fun _ _ h => h, fun _ _ => rfl, fun _ _ _ => rfl, fun _ _ => rfl⟩

theorem local_update (f : BusDevice → BusDevice) : Local (H := H) (.update f) fun _ => () :=
  ⟨fun _ _ _ => rfl, fun _ _ => rfl, fun _ _ _ => rfl, fun _ _ => rfl⟩

theorem local_disableInterrupt : Local (H := H) .disableInterrupt fun _ => () :=
  ⟨fun _ _ _ => rfl, fun _ _ => rfl, fun _ _ _ => rfl, fun _ _ => rfl⟩

theorem local_enableInterrupt : Local (H := H) .enableInterrupt fun _ => () :=
  ⟨fun _ _ _ => rfl, fun _ _ => rfl, fun _ _ _ => rfl, fun _ _ => rfl⟩

theorem local_readFromBus : Local (H := H) (.reach .readFromBus) fun _ => () :=
  ⟨fun _ _ _ => rfl, fun _ _ => rfl, fun _ _ _ => rfl, fun _ _ => rfl⟩

theorem local_transferMessageToBus : Local (H := H) (.reach .transferMessageToBus) fun _ => () :=
  ⟨fun _ _ _ => rfl, fun _ _ => rfl, fun _ _ _ => rfl, fun _ _ => rfl⟩

theorem wp_device {f : BusDevice → Driver α} {g : BusDevice → Driver β} (hlog : t.log = s.log)
    (h : Pair.wp (pair H) SameLog (f s.device) (g t.device) Q (s, t)) :
    Pair.wp (pair H) SameLog (device >>= f) (device >>= g) Q (s, t) :=
  wp_local local_device local_device hlog h

theorem wp_device_eq {f g : BusDevice → Driver α} {Q : α → α → State H × State H → Prop}
    (hlog : t.log = s.log) (heq : f s.device = g t.device)
    (h : Pair.wp (pair H) SameLog (f s.device) (f s.device) Q (s, t)) :
    Pair.wp (pair H) SameLog (device >>= f) (device >>= g) Q (s, t) := by
  apply wp_device hlog
  rw [← heq]
  apply h

theorem wp_update {k k' : BusDevice → BusDevice} {f : Unit → Driver α} {g : Unit → Driver β}
    (hlog : t.log = s.log)
    (h : Pair.wp (pair H) SameLog (f ()) (g ()) Q
      ({ s with device := k s.device }, { t with device := k' t.device })) :
    Pair.wp (pair H) SameLog (update k >>= f) (update k' >>= g) Q (s, t) :=
  wp_local (local_update k) (local_update k') hlog h

theorem wp_message {p : Pointer} {i : Nat} {f : BusMessage → Driver α} {g : BusMessage → Driver β}
    (hlog : t.log = s.log)
    (h : Pair.wp (pair H) SameLog (f (s.memory.message p i)) (g (t.memory.message p i)) Q (s, t)) :
    Pair.wp (pair H) SameLog (message p i >>= f) (message p i >>= g) Q (s, t) :=
  wp_local (local_message p i) (local_message p i) hlog h

theorem wp_load {a : Address} {f : Byte → Driver α} {g : Byte → Driver β} (hlog : t.log = s.log)
    (h : Pair.wp (pair H) SameLog (f (s.memory.byte a)) (g (t.memory.byte a)) Q (s, t)) :
    Pair.wp (pair H) SameLog (load a >>= f) (load a >>= g) Q (s, t) :=
  wp_local (local_load a) (local_load a) hlog h

theorem wp_readRegister {reg : Register} {f : Word → Driver α} {g : Word → Driver β}
    (hlog : t.log = s.log)
    (h : ∀ hw hw' v, H.Steps s.hw hw → H.Steps t.hw hw' → H.canRead reg hw v → H.canRead reg hw' v →
      Pair.wp (pair H) SameLog (f v) (g v) Q
        ({ s with hw := H.read reg v hw, log := s.log ++ [.read reg v] },
          { t with hw := H.read reg v hw', log := t.log ++ [.read reg v] })) :
    Pair.wp (pair H) SameLog (readRegister reg >>= f) (readRegister reg >>= g) Q (s, t) := by
  intro y henv
  rcases pair_env henv with ⟨hw, hw', hsteps, hsteps', rfl⟩
  refine ⟨hlog, ?_⟩
  rintro ⟨v, v'⟩ ⟨hv, hv', heq⟩
  have heq : v = v' := heq rfl
  subst heq
  apply h hw hw' v hsteps hsteps' hv hv'

theorem wp_writeRegister {v : Word} {reg : Register} {f : Unit → Driver α} {g : Unit → Driver β}
    (hlog : t.log = s.log)
    (h : ∀ hw hw', Pair.wp (pair H) SameLog (f ()) (g ()) Q
        ({ s with hw := H.write v reg hw, log := s.log ++ [.write v reg] },
          { t with hw := H.write v reg hw', log := t.log ++ [.write v reg] })) :
    Pair.wp (pair H) SameLog (writeRegister v reg >>= f) (writeRegister v reg >>= g) Q (s, t) := by
  intro y henv
  rcases pair_env henv with ⟨hw, hw', _, _, rfl⟩
  refine ⟨hlog, ?_⟩
  intro _ _
  apply h hw hw'

/-! Programs that do not look at what differs. -/

def Indifferent (D : BusDevice → BusDevice → Prop) (op : Op) (r r' : op.Ans) : Prop :=
  match op, r, r' with
  | .device, d, d' => D d d'
  | _, r, r' => r = r'

variable {D : BusDevice → BusDevice → Prop} {γ : Type}

theorem respects_of_performs {q : Driver γ} (hq : q.Performs fun op => op ≠ .device) :
    q.Respects (Indifferent D) := by
  apply hq.respects
  intro op r r' hop h
  cases op with
  | device => contradiction
  | _ => apply h

theorem respects_device_bind {f : BusDevice → Driver γ} (hD : ∀ d d', D d d' → f d = f d')
    (hf : ∀ d, (f d).Respects (Indifferent D)) : (device >>= f).Respects (Indifferent D) :=
  ⟨hD, hf⟩

end Isolation

end VoodooI2C
