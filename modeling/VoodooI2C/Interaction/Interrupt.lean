import VoodooI2C.Interaction.WP

/-!
This module contains a main program that is interrupted at any point by runs of a handler. A run of
the handler is not interrupted by the main program, the world may move at any point of both.
-/

namespace Interaction

variable {Op : Type} {Ans : Op → Type} {α β : Type}

/--
The world as the main program sees it: whole runs of the handler are moves of the world.
-/
abbrev World.interrupted (W : World Op Ans) (isr : Prog Op Ans Unit) : World Op Ans :=
  { W with env := fun s s' => W.env s s' ∨ Exec W isr s () s' }

theorem Exec.interrupted {W : World Op Ans} {isr : Prog Op Ans Unit} {p : Prog Op Ans α}
    {s s' : W.State} {a : α} (h : Exec W p s a s') : Exec (W.interrupted isr) p s a s' := by
  induction h with
  | ret => exact .ret
  | env henv _ ih => exact .env (.inl henv) ih
  | call hr _ ih => exact .call hr ih

theorem World.Stable.interrupted {W : World Op Ans} {isr : Prog Op Ans Unit} {A : W.State → Prop}
    (hA : W.Stable A) (hisr : ∀ s s', A s → Exec W isr s () s' → A s') :
    (W.interrupted isr).Stable A := by
  intro s s' h henv
  cases henv with
  | inl henv => exact hA s s' h henv
  | inr hexec => exact hisr s s' h hexec

/--
A state together with what is left to do of the main program and of the run of the handler that
interrupts it, if there is one.
-/
structure Config (W : World Op Ans) (α : Type) where
  state : W.State
  main : Prog Op Ans α
  handler : Option (Prog Op Ans Unit)

inductive Label (Op : Type) (Ans : Op → Type) : Type where
  | env
  | main (op : Op) (r : Ans op)
  | enter
  | handler (op : Op) (r : Ans op)
  | leave

inductive Step (W : World Op Ans) (isr : Prog Op Ans Unit) :
    Config W α → Label Op Ans → Config W α → Prop where
  | env : W.env s s' → Step W isr ⟨s, p, h⟩ .env ⟨s', p, h⟩
  | main : W.admits op s r →
      Step W isr ⟨s, .call op k, none⟩ (.main op r) ⟨W.next op s r, k r, none⟩
  | enter : Step W isr ⟨s, p, none⟩ .enter ⟨s, p, some isr⟩
  | handler : W.admits op s r →
      Step W isr ⟨s, p, some (.call op k)⟩ (.handler op r) ⟨W.next op s r, p, some (k r)⟩
  | leave : Step W isr ⟨s, p, some (.ret ())⟩ .leave ⟨s, p, none⟩

theorem Step.main_call {W : World Op Ans} {isr : Prog Op Ans Unit} {c c' : Config W α} {op : Op}
    {r : Ans op} (h : Step W isr c (.main op r) c') :
    c.handler = none ∧ ∃ k, c.main = .call op k := by
  cases h
  exact ⟨rfl, _, rfl⟩

theorem Step.handler_call {W : World Op Ans} {isr : Prog Op Ans Unit} {c c' : Config W α} {op : Op}
    {r : Ans op} (h : Step W isr c (.handler op r) c') : ∃ k, c.handler = some (.call op k) := by
  cases h
  exact ⟨_, rfl⟩

inductive Reachable (W : World Op Ans) (isr : Prog Op Ans Unit) (s₀ : W.State)
    (p : Prog Op Ans α) : Config W α → Prop where
  | start : Reachable W isr s₀ p ⟨s₀, p, none⟩
  | step : Reachable W isr s₀ p c → Step W isr c l c' → Reachable W isr s₀ p c'

theorem Exec.reachable {W : World Op Ans} {isr : Prog Op Ans Unit} {p₀ p : Prog Op Ans α}
    {s₀ s s' : W.State} {a : α} (hexec : Exec W p s a s')
    (hc : Reachable W isr s₀ p₀ ⟨s, p, none⟩) : Reachable W isr s₀ p₀ ⟨s', .ret a, none⟩ := by
  induction hexec with
  | ret => exact hc
  | env henv _ ih => exact ih (hc.step (.env henv))
  | call hr _ ih => exact ih (hc.step (.main hr))

theorem Exec.reachable_leave {W : World Op Ans} {isr h : Prog Op Ans Unit} {p₀ p : Prog Op Ans α}
    {s₀ s s' : W.State} {u : Unit} (hexec : Exec W h s u s')
    (hc : Reachable W isr s₀ p₀ ⟨s, p, some h⟩) : Reachable W isr s₀ p₀ ⟨s', p, none⟩ := by
  induction hexec with
  | ret => exact hc.step .leave
  | env henv _ ih => exact ih (hc.step (.env henv))
  | call hr _ ih => exact ih (hc.step (.handler hr))

theorem Reachable.wait {W : World Op Ans} {isr : Prog Op Ans Unit} {p₀ p : Prog Op Ans α}
    {s₀ s s' : W.State} (hc : Reachable W isr s₀ p₀ ⟨s, p, none⟩)
    (henv : (W.interrupted isr).Env s s') : Reachable W isr s₀ p₀ ⟨s', p, none⟩ := by
  induction henv with
  | refl => exact hc
  | tail _ hstep ih =>
    rcases hstep with hstep | hexec
    . exact ih.step (.env hstep)
    . exact hexec.reachable_leave (ih.step .enter)

theorem Reachable.exec {W : World Op Ans} {isr : Prog Op Ans Unit} {s₀ : W.State}
    {p : Prog Op Ans α} {c : Config W α} {a : α} (hc : Reachable W isr s₀ p c)
    (hnone : c.handler = none) (hmain : c.main = .ret a) :
    Exec (W.interrupted isr) p s₀ a c.state := by
  -- what is left of a run of the handler and of the main program completes the execution
  suffices h : ∀ s, (∀ h, c.handler = some h → Exec W h c.state () s) →
      (c.handler = none → s = c.state) → ∀ a s', Exec (W.interrupted isr) c.main s a s' →
      Exec (W.interrupted isr) p s₀ a s' by
    apply h c.state
    . intro h heq
      rw [hnone] at heq
      contradiction
    . intro _
      rfl
    . rw [hmain]
      apply Exec.ret
  clear hnone hmain
  induction hc with
  | start =>
    intro s _ hs a s' hexec
    rw [hs rfl] at hexec
    apply hexec
  | step _ hstep ih =>
    intro s hhandler hs a s' hexec
    cases hstep with
    | @env s₁ s₂ p₁ h henv =>
      cases h with
      | none =>
        apply ih s₁ (by simp) (by simp)
        have hs := hs rfl
        subst hs
        exact .env (.inl henv) hexec
      | some h =>
        apply ih s _ (by simp) a s' hexec
        rintro _ ⟨⟩
        exact .env henv (hhandler h rfl)
    | main hr =>
      apply ih _ (by simp) (fun _ => rfl)
      have hs := hs rfl
      subst hs
      exact .call hr hexec
    | enter =>
      apply ih _ (by simp) (fun _ => rfl)
      exact .env (.inr (hhandler _ rfl)) hexec
    | handler hr =>
      apply ih s _ (by simp) a s' hexec
      rintro _ ⟨⟩
      exact .call hr (hhandler _ rfl)
    | leave =>
      apply ih s _ (by simp) a s' hexec
      rintro _ ⟨⟩
      rw [hs rfl]
      exact .ret

variable {W : World Op Ans} {isr : Prog Op Ans Unit} {G G' : Op → W.State → Prop}
  {J : W.State → Prop} {Q : α → W.State → Prop}

/--
What holds between two steps if the main program has a weakest precondition in the interrupted world
whose guards establish the precondition `J` of the handler: the rest of the main program keeps its
weakest precondition, a run of the handler has the one of the handler and gives the main program
back its own.
-/
def Sound (W : World Op Ans) (isr : Prog Op Ans Unit) (G G' : Op → W.State → Prop)
    (Q : α → W.State → Prop) (c : Config W α) : Prop :=
  match c.handler with
  | none => wp (W.interrupted isr) G c.main Q c.state
  | some h =>
    wp W G' h (fun _ _ => True) c.state
      ∧
    ∀ s', Exec W h c.state () s' → wp (W.interrupted isr) G c.main Q s'

theorem wp_interrupted_now {p : Prog Op Ans α} {s : W.State} (hG : ∀ op s, G op s → J s)
    (hQ : ∀ a s, Q a s → J s) (h : wp (W.interrupted isr) G p Q s) : J s := by
  cases p with
  | ret a => exact hQ a s (h s .refl)
  | call op k => exact hG op s (h s .refl).1

theorem Step.sound {c c' : Config W α} {l : Label Op Ans} (hG : ∀ op s, G op s → J s)
    (hQ : ∀ a s, Q a s → J s) (hJ : ∀ s, J s → wp W G' isr (fun _ _ => True) s)
    (hstep : Step W isr c l c') (h : Sound W isr G G' Q c) : Sound W isr G G' Q c' := by
  cases hstep with
  | @env s s' p hd henv =>
    cases hd with
    | none => exact wp_stable (W := W.interrupted isr) _ _ h (.inl henv)
    | some hd =>
      refine ⟨wp_stable _ _ h.1 henv, ?_⟩
      intro s'' hexec
      exact h.2 s'' (.env henv hexec)
  | main hr => exact (h _ .refl).2 _ hr
  | enter =>
    refine ⟨hJ _ (wp_interrupted_now hG hQ h), ?_⟩
    intro s' hexec
    exact wp_stable (W := W.interrupted isr) _ _ h (.inr hexec)
  | handler hr =>
    refine ⟨(h.1 _ .refl).2 _ hr, ?_⟩
    intro s' hexec
    exact h.2 s' (.call hr hexec)
  | leave => exact h.2 _ .ret

theorem Reachable.sound {s₀ : W.State} {p : Prog Op Ans α} {c : Config W α}
    (hG : ∀ op s, G op s → J s) (hQ : ∀ a s, Q a s → J s)
    (hJ : ∀ s, J s → wp W G' isr (fun _ _ => True) s)
    (hp : wp (W.interrupted isr) G p Q s₀) (hc : Reachable W isr s₀ p c) :
    Sound W isr G G' Q c := by
  induction hc with
  | start => exact hp
  | step _ hstep ih => exact hstep.sound hG hQ hJ ih

variable {s₀ : W.State} {p : Prog Op Ans α} {c : Config W α}

theorem Reachable.idle (hG : ∀ op s, G op s → J s) (hQ : ∀ a s, Q a s → J s)
    (hJ : ∀ s, J s → wp W G' isr (fun _ _ => True) s)
    (hp : wp (W.interrupted isr) G p Q s₀) (hc : Reachable W isr s₀ p c)
    (hnone : c.handler = none) : J c.state := by
  have := hc.sound hG hQ hJ hp
  rw [Sound, hnone] at this
  exact wp_interrupted_now hG hQ this

theorem Reachable.main_guard (hG : ∀ op s, G op s → J s) (hQ : ∀ a s, Q a s → J s)
    (hJ : ∀ s, J s → wp W G' isr (fun _ _ => True) s)
    (hp : wp (W.interrupted isr) G p Q s₀) (hc : Reachable W isr s₀ p c)
    (hnone : c.handler = none) (hmain : c.main = .call op k) : G op c.state := by
  have := hc.sound hG hQ hJ hp
  rw [Sound, hnone, hmain] at this
  exact (this _ .refl).1

theorem Reachable.main_returns (hG : ∀ op s, G op s → J s) (hQ : ∀ a s, Q a s → J s)
    (hJ : ∀ s, J s → wp W G' isr (fun _ _ => True) s)
    (hp : wp (W.interrupted isr) G p Q s₀) (hc : Reachable W isr s₀ p c)
    (hnone : c.handler = none) (hmain : c.main = .ret a) : Q a c.state := by
  have := hc.sound hG hQ hJ hp
  rw [Sound, hnone, hmain] at this
  exact this _ .refl

theorem Reachable.handler_guard (hG : ∀ op s, G op s → J s) (hQ : ∀ a s, Q a s → J s)
    (hJ : ∀ s, J s → wp W G' isr (fun _ _ => True) s)
    (hp : wp (W.interrupted isr) G p Q s₀) (hc : Reachable W isr s₀ p c)
    (hsome : c.handler = some (.call op k)) : G' op c.state := by
  have := hc.sound hG hQ hJ hp
  rw [Sound, hsome] at this
  exact (this.1 _ .refl).1

end Interaction
