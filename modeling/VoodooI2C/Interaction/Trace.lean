import VoodooI2C.Interaction.Interrupt

/-!
This module contains runs of a main program together with the operations that it has performed so far.
-/

namespace Interaction

variable {Op : Type} {Ans : Op → Type} {α β : Type}

structure Performed (W : World Op Ans) where
  op : Op
  state : W.State
  answer : Ans op

/--
The program `p` is answered as in `t` and comes to `q`.
-/
inductive Prog.Follows {W : World Op Ans} :
    Prog Op Ans α → List (Performed W) → Prog Op Ans α → Prop where
  | nil : Follows p [] p
  | cons {k : Ans op → Prog Op Ans α} : Follows (k r) t q → Follows (.call op k) (⟨op, s, r⟩ :: t) q

def Label.performed {W : World Op Ans} (l : Label Op Ans) (s : W.State) : List (Performed W) :=
  match l with
  | .main op r => [⟨op, s, r⟩]
  | _ => []

/--
The configurations that the main program `p` gets to with the operations `t`.
-/
inductive Recorded (W : World Op Ans) (isr : Prog Op Ans Unit) (s₀ : W.State) (p : Prog Op Ans α) :
    List (Performed W) → Config W α → Prop where
  | start : Recorded W isr s₀ p [] ⟨s₀, p, none⟩
  | step : Recorded W isr s₀ p t c → Step W isr c l c' → Recorded W isr s₀ p (t ++ l.performed c.state) c'

variable {W : World Op Ans} {isr : Prog Op Ans Unit} {p q : Prog Op Ans α} {t : List (Performed W)}
  {s₀ : W.State} {c : Config W α}

namespace Prog.Follows

theorem concat {k : Ans op → Prog Op Ans α} {s : W.State} {r : Ans op}
    (h : p.Follows t (.call op k)) : p.Follows (t ++ [⟨op, s, r⟩]) (k r) := by
  generalize hq : Prog.call op k = q at h
  induction h with
  | nil =>
    subst hq
    exact .cons .nil
  | cons _ ih => exact .cons (ih hq)

theorem unique {q' : Prog Op Ans α} (h : p.Follows t q) (h' : p.Follows t q') : q = q' := by
  induction h with
  | nil =>
    cases h'
    rfl
  | cons _ ih =>
    cases h' with
    | cons h' => exact ih h'

theorem forall_op {P : Op → Prop} (h : p.Follows t q) (hp : p.Performs P) : ∀ e ∈ t, P e.op := by
  induction h with
  | nil => simp
  | cons _ ih =>
    rw [List.forall_mem_cons]
    exact ⟨hp.1, ih (hp.2 _)⟩

end Prog.Follows

namespace Recorded

theorem reachable (h : Recorded W isr s₀ p t c) : Reachable W isr s₀ p c := by
  induction h with
  | start => exact .start
  | step _ hstep ih => exact ih.step hstep

theorem main (h : Recorded W isr s₀ p t c) {s : W.State} {op : Op} {k : Ans op → Prog Op Ans α}
    {r : Ans op} (hc : c = ⟨s, .call op k, none⟩) (hr : W.admits op s r) :
    Recorded W isr s₀ p (t ++ [⟨op, s, r⟩]) ⟨W.next op s r, k r, none⟩ := by
  subst hc
  exact h.step (.main hr)

theorem other {c' : Config W α} {l : Label Op Ans} (h : Recorded W isr s₀ p t c)
    (hstep : Step W isr c l c') (hl : l.performed c.state = []) : Recorded W isr s₀ p t c' := by
  have := h.step hstep
  rwa [hl, List.append_nil] at this

theorem follows (h : Recorded W isr s₀ p t c) : p.Follows t c.main := by
  induction h with
  | start => exact .nil
  | step _ hstep ih =>
    cases hstep with
    | main _ => exact ih.concat
    | _ =>
      rw [show Label.performed _ _ = [] from rfl, List.append_nil]
      exact ih

theorem cons {op : Op} {k : Ans op → Prog Op Ans α} {r : Ans op} (hr : W.admits op s₀ r)
    (h : Recorded W isr (W.next op s₀ r) (k r) t c) :
    Recorded W isr s₀ (.call op k) (⟨op, s₀, r⟩ :: t) c := by
  induction h with
  | start => exact Recorded.start.step (.main hr)
  | step _ hstep ih => exact ih.step hstep

theorem bind (h : Recorded W isr s₀ p t c) (f : α → Prog Op Ans β) :
    Recorded W isr s₀ (p >>= f) t ⟨c.state, c.main >>= f, c.handler⟩ := by
  induction h with
  | start => exact .start
  | step _ hstep ih =>
    cases hstep with
    | env henv => exact ih.step (.env henv)
    | @main op s r k hr => exact ih.step (Step.main (k := fun r => k r >>= f) hr)
    | enter => exact ih.step .enter
    | handler hr => exact ih.step (.handler hr)
    | leave => exact ih.step .leave

theorem bind_cases {f : α → Prog Op Ans β} {c : Config W β} (h : Recorded W isr s₀ (p >>= f) t c) :
    (∃ c' : Config W α, Recorded W isr s₀ p t c' ∧ c = ⟨c'.state, c'.main >>= f, c'.handler⟩)
      ∨ ∃ a s op k r t₁ t₂, Recorded W isr s₀ p t₁ ⟨s, .ret a, none⟩ ∧ f a = .call op k
          ∧ W.admits op s r ∧ Recorded W isr (W.next op s r) (k r) t₂ c ∧ t = t₁ ++ ⟨op, s, r⟩ :: t₂ := by
  induction h with
  | start => exact .inl ⟨_, .start, rfl⟩
  | step _ hstep ih =>
    rcases ih with ⟨⟨s, q, hd⟩, hc', rfl⟩ | ⟨a, s, op, k, r, t₁, t₂, hc', hf, hr, hrest, rfl⟩
    . generalize hq : q >>= f = q' at hstep
      cases hstep with
      | env henv => exact .inl ⟨_, hc'.step (.env henv), by rw [hq]⟩
      | enter => exact .inl ⟨_, hc'.step .enter, by rw [hq]⟩
      | leave => exact .inl ⟨_, hc'.step .leave, by rw [hq]⟩
      | handler hr => exact .inl ⟨_, hc'.step (.handler hr), by rw [hq]⟩
      | main hr =>
        -- the operation of `q`, or the first one after it has returned
        cases q with
        | ret a => exact .inr ⟨a, s, _, _, _, _, [], hc', hq, hr, .start, rfl⟩
        | call op k =>
          left
          injection hq with hop hk
          subst hop
          rw [← eq_of_heq hk]
          exact ⟨_, hc'.step (.main hr), rfl⟩
    . right
      refine ⟨a, s, op, k, r, t₁, _, hc', hf, hr, hrest.step hstep, ?_⟩
      rw [List.append_assoc, List.cons_append]

theorem perform_cases {op : Op} {f : Ans op → Prog Op Ans β} {c : Config W β}
    (h : Recorded W isr s₀ (Prog.perform op >>= f) t c) :
    (c.main = (Prog.perform op >>= f) ∧ t = []
        ∧ Reachable W isr s₀ (.ret ()) ⟨c.state, .ret (), c.handler⟩)
      ∨ ∃ s r t', Reachable W isr s₀ (.ret ()) ⟨s, .ret (), none⟩ ∧ W.admits op s r
          ∧ Recorded W isr (W.next op s r) (f r) t' c ∧ t = ⟨op, s, r⟩ :: t' := by
  induction h with
  | start => exact .inl ⟨rfl, rfl, .start⟩
  | @step t c l c' _ hstep ih =>
    rcases ih with ⟨hmain, rfl, hwait⟩ | ⟨s, r, t', hwait, hr, hrest, rfl⟩
    . cases hstep with
      | env henv => exact .inl ⟨hmain, rfl, hwait.step (.env henv)⟩
      | enter => exact .inl ⟨hmain, rfl, hwait.step .enter⟩
      | leave => exact .inl ⟨hmain, rfl, hwait.step .leave⟩
      | handler hr => exact .inl ⟨hmain, rfl, hwait.step (.handler hr)⟩
      | main hr =>
        right
        injection hmain with hop hk
        subst hop
        rw [eq_of_heq hk]
        exact ⟨_, _, [], hwait, hr, .start, rfl⟩
    . exact .inr ⟨s, r, _, hwait, hr, hrest.step hstep, rfl⟩

end Recorded

end Interaction
