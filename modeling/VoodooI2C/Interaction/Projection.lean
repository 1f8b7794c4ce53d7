import VoodooI2C.Interaction.Interrupt

/-!
This module contains projections: maps of the states of a world to the states of another one that
knows less. What can happen in the first world can happen in the second one.
-/

namespace Interaction

variable {Op : Type} {Ans : Op → Type} {α : Type}

structure Projection (W W' : World Op Ans) where
  map : W.State → W'.State
  admits : W.admits op s r → W'.admits op (map s) r
  next : map (W.next op s r) = W'.next op (map s) r
  env : W.env s s' → W'.env (map s) (map s')

namespace Projection

variable {W W' : World Op Ans} (π : Projection W W') {isr : Prog Op Ans Unit}

theorem exec {p : Prog Op Ans α} {s s' : W.State} {a : α} (h : Exec W p s a s') :
    Exec W' p (π.map s) a (π.map s') := by
  induction h with
  | ret => exact .ret
  | env henv _ ih => exact .env (π.env henv) ih
  | call hr _ ih =>
    rw [π.next] at ih
    exact .call (π.admits hr) ih

def interrupted (isr : Prog Op Ans Unit) : Projection (W.interrupted isr) (W'.interrupted isr) where
  map := π.map
  admits := π.admits
  next := π.next
  env henv := henv.imp π.env π.exec

def config (c : Config W α) : Config W' α := ⟨π.map c.state, c.main, c.handler⟩

theorem step {c c' : Config W α} {l : Label Op Ans} (h : Step W isr c l c') :
    Step W' isr (π.config c) l (π.config c') := by
  cases h with
  | env henv => exact .env (π.env henv)
  | main hr =>
    unfold config
    rw [π.next]
    exact .main (π.admits hr)
  | enter => exact .enter
  | handler hr =>
    unfold config
    rw [π.next]
    exact .handler (π.admits hr)
  | leave => exact .leave

theorem reachable {s₀ : W.State} {p : Prog Op Ans α} {c : Config W α}
    (hc : Reachable W isr s₀ p c) : Reachable W' isr (π.map s₀) p (π.config c) := by
  induction hc with
  | start => exact .start
  | step _ hstep ih => exact ih.step (π.step hstep)

end Projection

end Interaction
