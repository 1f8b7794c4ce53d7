import VoodooI2C.Interaction.Basic

/-!
This module contains worlds, which answer the operations of a program, the executions of a program
in a world and the weakest precondition calculus for them. A world may move on its own between any
two operations of the program.
-/

namespace Interaction

variable {Op : Type} {Ans : Op → Type} {α β : Type}

/--
What answers the operations of a program. `admits op s r` holds if `r` is a possible answer to `op`
in the state `s`, `next op s r` is the state after it and `env` is what may happen to the state
without the program.
-/
structure World (Op : Type) (Ans : Op → Type) where
  State : Type
  admits : (op : Op) → State → Ans op → Prop
  next : (op : Op) → State → Ans op → State
  env : State → State → Prop

namespace World

abbrev Env (W : World Op Ans) : W.State → W.State → Prop :=
  Relation.ReflTransGen W.env

def Stable (W : World Op Ans) (A : W.State → Prop) : Prop :=
  ∀ s s', A s → W.env s s' → A s'

theorem Stable.env {W : World Op Ans} {A : W.State → Prop} {s s' : W.State} (hA : W.Stable A)
    (h : A s) (henv : W.Env s s') : A s' := by
  induction henv with
  | refl => exact h
  | tail _ hstep ih => exact hA _ _ ih hstep

theorem Stable.and {W : World Op Ans} {A B : W.State → Prop} (hA : W.Stable A) (hB : W.Stable B) :
    W.Stable fun s => A s ∧ B s := by
  intro s s' h henv
  exact ⟨hA s s' h.1 henv, hB s s' h.2 henv⟩

end World

/--
`Exec W p s a s'` holds if the program `p` started in `s` can return `a` in `s'`.
-/
inductive Exec (W : World Op Ans) : Prog Op Ans α → W.State → α → W.State → Prop where
  | ret : Exec W (.ret a) s a s
  | env : W.env s s' → Exec W p s' a s'' → Exec W p s a s''
  | call : W.admits op s r → Exec W (k r) (W.next op s r) a s' → Exec W (.call op k) s a s'

/--
The weakest precondition for `p` to perform every operation `op` in a state where `G op` holds and
to return only with `Q`, whatever the world does in between.
-/
def wp (W : World Op Ans) (G : Op → W.State → Prop) (p : Prog Op Ans α)
    (Q : α → W.State → Prop) (s : W.State) : Prop :=
  match p with
  | .ret a => ∀ s', W.Env s s' → Q a s'
  | .call op k => ∀ s', W.Env s s' → G op s' ∧ ∀ r, W.admits op s' r → wp W G (k r) Q (W.next op s' r)

variable {W : World Op Ans} {G G' : Op → W.State → Prop} {s s' : W.State}

theorem wp_stable {p : Prog Op Ans α} {Q : α → W.State → Prop} : W.Stable (wp W G p Q) := by
  intro s s' h henv
  cases p with
  | ret a =>
    intro s'' h'
    exact h s'' (.head henv h')
  | call op k =>
    intro s'' h'
    exact h s'' (.head henv h')

theorem wp_pure {a : α} {Q : α → W.State → Prop} (hQ : W.Stable (Q a)) (h : Q a s) :
    wp W G (pure a) Q s := by
  intro s' henv
  exact hQ.env h henv

theorem wp_bind {p : Prog Op Ans α} {f : α → Prog Op Ans β} {Q : β → W.State → Prop} :
    wp W G (p >>= f) Q s ↔ wp W G p (fun a s => wp W G (f a) Q s) s := by
  induction p generalizing s with
  | ret a =>
    constructor
    . intro h s' henv
      exact wp_stable.env h henv
    . intro h
      exact h s .refl
  | call op k ih =>
    rw [Prog.call_bind]
    constructor
    . intro h s' henv
      refine ⟨(h s' henv).1, ?_⟩
      intro r hr
      rw [← ih]
      exact (h s' henv).2 r hr
    . intro h s' henv
      refine ⟨(h s' henv).1, ?_⟩
      intro r hr
      rw [ih]
      exact (h s' henv).2 r hr

theorem wp_tail {p : Prog Op Ans α} {Q : α → W.State → Prop} (h : wp W G (p >>= pure) Q s) :
    wp W G p Q s := by
  rw [bind_pure] at h
  apply h

theorem wp_perform {op : Op} {Q : Ans op → W.State → Prop} (hQ : ∀ r, W.Stable (Q r))
    (h : ∀ s', W.Env s s' → G op s' ∧ ∀ r, W.admits op s' r → Q r (W.next op s' r)) :
    wp W G (Prog.perform op) Q s := by
  intro s' henv
  refine ⟨(h s' henv).1, ?_⟩
  intro r hr s'' henv'
  exact (hQ r).env ((h s' henv).2 r hr) henv'

theorem wp_perform_bind {op : Op} {f : Ans op → Prog Op Ans β} {Q : β → W.State → Prop} :
    wp W G (Prog.perform op >>= f) Q s
      ↔
    ∀ s', W.Env s s' → G op s' ∧ ∀ r, W.admits op s' r → wp W G (f r) Q (W.next op s' r) := by
  rfl

theorem wp_step {op : Op} {f : Ans op → Prog Op Ans β} {Q : β → W.State → Prop}
    {A : W.State → Prop} (hA : W.Stable A) (h : A s)
    (hstep : ∀ s', A s' → G op s' ∧ ∀ r, W.admits op s' r → wp W G (f r) Q (W.next op s' r)) :
    wp W G (Prog.perform op >>= f) Q s := by
  rw [wp_perform_bind]
  intro s' henv
  apply hstep s' (hA.env h henv)

/--
An operation whose answer and effect do not depend on what the world does can be performed first.
-/
theorem wp_silent {op : Op} {f : Ans op → Prog Op Ans β} {Q : β → W.State → Prop}
    (answer : W.State → Ans op) (hanswer : ∀ s r, W.admits op s r → r = answer s)
    (henv : ∀ s s', W.env s s' →
      answer s' = answer s ∧ W.env (W.next op s (answer s)) (W.next op s' (answer s')))
    (hG : ∀ s', W.Env s s' → G op s')
    (h : wp W G (f (answer s)) Q (W.next op s (answer s))) :
    wp W G (Prog.perform op >>= f) Q s := by
  rw [wp_perform_bind]
  intro s' hs'
  refine ⟨hG s' hs', ?_⟩
  intro r hr
  rw [hanswer s' r hr]
  have : answer s' = answer s ∧ W.Env (W.next op s (answer s)) (W.next op s' (answer s')) := by
    clear hr
    induction hs' with
    | refl => exact ⟨rfl, .refl⟩
    | tail _ hstep ih =>
      rename_i s₁ s₂ h₁
      rcases ih with ⟨heq, hnext⟩
      rcases henv s₁ s₂ hstep with ⟨heq', hnext'⟩
      exact ⟨heq'.trans heq, hnext.tail hnext'⟩
  rcases this with ⟨heq, hnext⟩
  rw [heq] at hnext ⊢
  exact wp_stable.env h hnext

theorem wp_mono {p : Prog Op Ans α} {Q Q' : α → W.State → Prop} (h : wp W G p Q s)
    (hG : ∀ op s, G op s → G' op s) (hQ : ∀ a s, Q a s → Q' a s) : wp W G' p Q' s := by
  induction p generalizing s with
  | ret a =>
    intro s' henv
    exact hQ a s' (h s' henv)
  | call op k ih =>
    intro s' henv
    refine ⟨hG op s' (h s' henv).1, ?_⟩
    intro r hr
    exact ih r ((h s' henv).2 r hr)

theorem wp_post {p : Prog Op Ans α} {Q Q' : α → W.State → Prop} (h : wp W G p Q s)
    (hQ : ∀ a s, Q a s → Q' a s) : wp W G p Q' s :=
  wp_mono h (fun _ _ h => h) hQ

theorem wp_true {p : Prog Op Ans α} {Q : α → W.State → Prop} (h : wp W G p Q s) :
    wp W (fun _ _ => True) p Q s :=
  wp_mono h (fun _ _ _ => trivial) (fun _ _ h => h)

theorem wp_and {p : Prog Op Ans α} {Q Q' : α → W.State → Prop} (h : wp W G p Q s)
    (h' : wp W G' p Q' s) :
    wp W (fun op s => G op s ∧ G' op s) p (fun a s => Q a s ∧ Q' a s) s := by
  induction p generalizing s with
  | ret a =>
    intro s' henv
    exact ⟨h s' henv, h' s' henv⟩
  | call op k ih =>
    intro s' henv
    refine ⟨⟨(h s' henv).1, (h' s' henv).1⟩, ?_⟩
    intro r hr
    exact ih r ((h s' henv).2 r hr) ((h' s' henv).2 r hr)

/--
A predicate that all operations of the program keep is kept by the program.
-/
theorem wp_performs {P : Op → Prop} {A : W.State → Prop} {p : Prog Op Ans α} (hp : p.Performs P)
    (hA : W.Stable A) (hG : ∀ op s, P op → A s → G op s)
    (hnext : ∀ op s r, P op → A s → W.admits op s r → A (W.next op s r)) (h : A s) :
    wp W G p (fun _ => A) s := by
  induction p generalizing s with
  | ret a =>
    intro s' henv
    exact hA.env h henv
  | call op k ih =>
    intro s' henv
    have hs' := hA.env h henv
    constructor
    . apply hG op s' hp.1 hs'
    . intro r hr
      apply ih r (hp.2 r)
      apply hnext op s' r hp.1 hs' hr

theorem wp_of_performs {P : Op → Prop} {p : Prog Op Ans α} (hp : p.Performs P) :
    wp W (fun op _ => P op) p (fun _ _ => True) s := by
  apply wp_performs hp (A := fun _ => True)
  . intro _ _ _ _
    trivial
  . intro _ _ hop _
    apply hop
  . intro _ _ _ _ _ _
    trivial
  . trivial

theorem wp_keeping {A : W.State → Prop} {p : Prog Op Ans α} {Q : α → W.State → Prop}
    (h : wp W G p Q s) (hA : W.Stable A)
    (hnext : ∀ op s r, G op s → A s → W.admits op s r → A (W.next op s r)) (hs : A s) :
    wp W (fun op s => G op s ∧ A s) p (fun a s => Q a s ∧ A s) s := by
  induction p generalizing s with
  | ret a =>
    intro s' henv
    constructor
    . apply h s' henv
    . apply hA.env hs henv
  | call op k ih =>
    intro s' henv
    have hs' := hA.env hs henv
    constructor
    . exact ⟨(h s' henv).1, hs'⟩
    . intro r hr
      apply ih r ((h s' henv).2 r hr)
      apply hnext op s' r (h s' henv).1 hs' hr

theorem Exec.bind {p : Prog Op Ans α} {f : α → Prog Op Ans β} {s s' s'' : W.State} {a : α} {b : β}
    (hp : Exec W p s a s') (hf : Exec W (f a) s' b s'') : Exec W (p >>= f) s b s'' := by
  induction hp with
  | ret => exact hf
  | env henv _ ih => exact .env henv (ih hf)
  | call hr _ ih => exact .call hr (ih hf)

theorem Exec.wp {p : Prog Op Ans α} {Q : α → W.State → Prop} (hexec : Exec W p s a s')
    (h : wp W G p Q s) : Q a s' := by
  induction hexec with
  | ret => exact h _ .refl
  | env henv _ ih => exact ih (wp_stable _ _ h henv)
  | call hr _ ih => exact ih ((h _ .refl).2 _ hr)

theorem exists_exec {P : Op → Prop} {p : Prog Op Ans α} (hp : p.Performs P)
    (hadmits : ∀ op s, P op → ∃ r, W.admits op s r) (s : W.State) : ∃ a s', Exec W p s a s' := by
  induction p generalizing s with
  | ret a => exact ⟨a, s, .ret⟩
  | call op k ih =>
    rcases hadmits op s hp.1 with ⟨r, hr⟩
    rcases ih r (hp.2 r) (W.next op s r) with ⟨a, s', h⟩
    exact ⟨a, s', .call hr h⟩

end Interaction
