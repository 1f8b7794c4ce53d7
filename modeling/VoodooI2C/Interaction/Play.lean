import VoodooI2C.Interaction.Interrupt

/-!
This module contains a way to compute executions: a player picks the answers and the moves of the
world, a list of turns says who comes when.
-/

namespace Interaction

variable {Op : Type} {Ans : Op → Type} {α β : Type}

structure Player (W : World Op Ans) where
  answer : (op : Op) → W.State → Option (Ans op)
  move : W.State → Option W.State
  admits_answer : ∀ op s r, answer op s = some r → W.admits op s r
  env_move : ∀ s s', move s = some s' → W.env s s'

inductive Turn where
  | env
  | main
  | handler
  | handlerStep
  deriving DecidableEq, Repr

namespace Player

variable {W : World Op Ans} (player : Player W) (isr : Prog Op Ans Unit)

/--
Run a program while the world does not move.
-/
def run (p : Prog Op Ans α) (s : W.State) : Option (α × W.State) :=
  match p with
  | .ret a => some (a, s)
  | .call op k =>
    match player.answer op s with
    | none => none
    | some r => run (k r) (W.next op s r)

/--
One turn: a move of the world, an operation of the main program, a whole run of the handler or one
step of it. A turn that is not possible is skipped.
-/
def turn (t : Turn) (c : Config W α) : Config W α :=
  match t, c with
  | .env, ⟨s, p, h⟩ =>
    match player.move s with
    | some s' => ⟨s', p, h⟩
    | none => ⟨s, p, h⟩
  | .main, ⟨s, .call op k, none⟩ =>
    match player.answer op s with
    | some r => ⟨W.next op s r, k r, none⟩
    | none => ⟨s, .call op k, none⟩
  | .handler, ⟨s, p, none⟩ =>
    match player.run isr s with
    | some (_, s') => ⟨s', p, none⟩
    | none => ⟨s, p, none⟩
  | .handlerStep, ⟨s, p, none⟩ => ⟨s, p, some isr⟩
  | .handlerStep, ⟨s, p, some (.call op k)⟩ =>
    match player.answer op s with
    | some r => ⟨W.next op s r, p, some (k r)⟩
    | none => ⟨s, p, some (.call op k)⟩
  | .handlerStep, ⟨s, p, some (.ret ())⟩ => ⟨s, p, none⟩
  | _, c => c

def play (turns : List Turn) (c : Config W α) : Config W α :=
  turns.foldl (fun c t => player.turn isr t c) c

theorem exec_run {p : Prog Op Ans α} {s s' : W.State} {a : α}
    (h : player.run p s = some (a, s')) : Exec W p s a s' := by
  induction p generalizing s with
  | ret b =>
    simp only [run, Option.some.injEq, Prod.mk.injEq] at h
    rcases h with ⟨rfl, rfl⟩
    apply Exec.ret
  | call op k ih =>
    unfold run at h
    split at h
    . contradiction
    . next hr =>
      apply Exec.call
      . apply player.admits_answer _ _ _ hr
      . apply ih _ h

def final (p : Prog Op Ans α) (s : W.State) : W.State :=
  match player.run p s with
  | some (_, s') => s'
  | none => s

theorem exec_final {p : Prog Op Ans α} {s : W.State} {a : α}
    (h : (player.run p s).map Prod.fst = some a) : Exec W p s a (player.final p s) := by
  unfold final
  split
  . next b s' hrun =>
    rw [hrun] at h
    simp only [Option.map_some, Option.some.injEq] at h
    subst h
    apply player.exec_run hrun
  . next hrun =>
    rw [hrun] at h
    contradiction

theorem reachable_exec {p : Prog Op Ans α} {s₀ s s' : W.State} {q : Prog Op Ans α}
    {h : Prog Op Ans Unit} (hexec : Exec W h s () s')
    (hc : Reachable W isr s₀ p ⟨s, q, some h⟩) : Reachable W isr s₀ p ⟨s', q, none⟩ := by
  generalize ha : () = a at hexec
  induction hexec with
  | ret => exact hc.step .leave
  | env henv _ ih => exact ih (hc.step (.env henv)) ha
  | call hr _ ih => exact ih (hc.step (.handler hr)) ha

theorem reachable_turn {p : Prog Op Ans α} {s₀ : W.State} {c : Config W α} (t : Turn)
    (hc : Reachable W isr s₀ p c) : Reachable W isr s₀ p (player.turn isr t c) := by
  unfold turn
  split
  . split
    . next hs =>
      apply hc.step
      apply Step.env
      apply player.env_move _ _ hs
    . apply hc
  . split
    . next hr =>
      apply hc.step
      apply Step.main
      apply player.admits_answer _ _ _ hr
    . apply hc
  . split
    . next hrun =>
      apply reachable_exec isr (player.exec_run hrun)
      apply hc.step
      apply Step.enter
    . apply hc
  . apply hc.step
    apply Step.enter
  . split
    . next hr =>
      apply hc.step
      apply Step.handler
      apply player.admits_answer _ _ _ hr
    . apply hc
  . apply hc.step
    apply Step.leave
  . apply hc

theorem reachable_play {p : Prog Op Ans α} {s₀ : W.State} (turns : List Turn) :
    Reachable W isr s₀ p (player.play isr turns ⟨s₀, p, none⟩) := by
  have : ∀ c, Reachable W isr s₀ p c → Reachable W isr s₀ p (player.play isr turns c) := by
    induction turns with
    | nil =>
      intro c hc
      apply hc
    | cons t turns ih =>
      intro c hc
      apply ih
      apply player.reachable_turn isr t hc
  apply this
  apply Reachable.start

end Player

end Interaction
