import VoodooI2C.Interaction.WP

/-!
This module contains a main program and a second thread that runs one program after the other. The
operations of the two threads come in any order.
-/

namespace Interaction

variable {Op : Type} {Ans : Op → Type} {α : Type}

structure Threads (W : World Op Ans) (α : Type) where
  state : W.State
  main : Prog Op Ans α
  other : Option (Prog Op Ans Unit)

namespace Threads

inductive Label (Op : Type) (Ans : Op → Type) where
  | main (op : Op) (r : Ans op)
  | call (p : Prog Op Ans Unit)
  | other (op : Op) (r : Ans op)
  | leave

/--
The second thread can begin with the programs that `calls` holds of.
-/
inductive Step (W : World Op Ans) (calls : W.State → Prog Op Ans Unit → Prop) :
    Threads W α → Label Op Ans → Threads W α → Prop where
  | main : W.admits op s r →
      Step W calls ⟨s, .call op k, o⟩ (.main op r) ⟨W.next op s r, k r, o⟩
  | call : calls s p → Step W calls ⟨s, m, none⟩ (.call p) ⟨s, m, some p⟩
  | other : W.admits op s r →
      Step W calls ⟨s, m, some (.call op k)⟩ (.other op r) ⟨W.next op s r, m, some (k r)⟩
  | leave : Step W calls ⟨s, m, some (.ret ())⟩ .leave ⟨s, m, none⟩

/--
What the main program `p` started in `s₀` gets to by steps that meet the condition `M`.
-/
inductive Reachable (W : World Op Ans) (calls : W.State → Prog Op Ans Unit → Prop)
    (M : Threads W α → Label Op Ans → Prop) (s₀ : W.State) (p : Prog Op Ans α) :
    Threads W α → Prop where
  | start : Reachable W calls M s₀ p ⟨s₀, p, none⟩
  | step : Reachable W calls M s₀ p c → Step W calls c l c' → M c l →
      Reachable W calls M s₀ p c'

/--
The world as the main program sees it: the other thread makes moves that `R` holds of, and the
answers that the main program gets satisfy `A`.
-/
abbrev relying (W : World Op Ans) (A : (op : Op) → W.State → Ans op → Prop)
    (R : W.State → W.State → Prop) : World Op Ans :=
  { W with admits := A, env := R }

section Rule

variable {W : World Op Ans} {calls : W.State → Prog Op Ans Unit → Prop}
  {M : Threads W α → Label Op Ans → Prop} {A : (op : Op) → W.State → Ans op → Prop}
  {R : W.State → W.State → Prop} {G : Op → W.State → Prop} {I : W.State → Prop}
  {J : W.State → Prog Op Ans Unit → Prop} {Q : α → W.State → Prop} {s : W.State}
  {p : Prog Op Ans α} {c c' : Threads W α} {l : Label Op Ans}

def Ahead (G : Op → W.State → Prop) (Q : α → W.State → Prop) (m : Prog Op Ans α) (s : W.State) :
    Prop :=
  match m with
  | .ret a => Q a s
  | .call op _ => G op s

/--
`I` holds of the state, and `J` of what is left of a program of the second thread.
-/
structure Rule (W : World Op Ans) (calls : W.State → Prog Op Ans Unit → Prop)
    (M : Threads W α → Label Op Ans → Prop) (A : (op : Op) → W.State → Ans op → Prop)
    (R : W.State → W.State → Prop) (G : Op → W.State → Prop) (I : W.State → Prop)
    (J : W.State → Prog Op Ans Unit → Prop) (Q : α → W.State → Prop) : Prop where
  guard : ∀ op s, G op s → I s
  returned : ∀ a s, Q a s → I s
  main : ∀ s op k o r, W.admits op s r → M ⟨s, .call op k, o⟩ (.main op r) → A op s r
  keeps : ∀ s op k p r, W.admits op s r → M ⟨s, .call op k, some p⟩ (.main op r) → G op s →
    J s p → J (W.next op s r) p
  call : ∀ s m p, calls s p → M ⟨s, m, none⟩ (.call p) → Ahead (W := W) G Q m s → J s p
  other : ∀ s op k r, J s (.call op k) → W.admits op s r →
    J (W.next op s r) (k r) ∧ R s (W.next op s r)

def Sound (W : World Op Ans) (A : (op : Op) → W.State → Ans op → Prop)
    (R : W.State → W.State → Prop) (G : Op → W.State → Prop)
    (J : W.State → Prog Op Ans Unit → Prop) (Q : α → W.State → Prop) (c : Threads W α) : Prop :=
  wp (relying W A R) G c.main Q c.state ∧ ∀ p, c.other = some p → J c.state p

theorem Sound.ahead (hc : Sound W A R G J Q c) : Ahead (W := W) G Q c.main c.state := by
  rcases c with ⟨s, m, o⟩
  cases m with
  | ret a => exact hc.1 s .refl
  | call op k => exact (hc.1 s .refl).1

theorem Rule.invariant (h : Rule W calls M A R G I J Q) (hc : Sound W A R G J Q c) : I c.state := by
  have hahead := hc.ahead
  rcases c with ⟨s, m, o⟩
  cases m with
  | ret a => exact h.returned a s hahead
  | call op k => exact h.guard op s hahead

theorem Rule.step (h : Rule W calls M A R G I J Q) (hstep : Step W calls c l c') (hM : M c l)
    (hc : Sound W A R G J Q c) : Sound W A R G J Q c' := by
  have hahead := hc.ahead
  cases hstep with
  | main hr =>
    refine ⟨(hc.1 _ .refl).2 _ (h.main _ _ _ _ _ hr hM), ?_⟩
    intro p hp
    subst hp
    apply h.keeps _ _ _ p _ hr hM (hc.1 _ .refl).1 (hc.2 p rfl)
  | call hp =>
    refine ⟨hc.1, ?_⟩
    intro p heq
    injection heq with heq
    subst heq
    apply h.call _ _ _ hp hM hahead
  | other hr =>
    have hother := h.other _ _ _ _ (hc.2 _ rfl) hr
    refine ⟨wp_stable (W := relying W A R) _ _ hc.1 hother.2, ?_⟩
    intro p heq
    injection heq with heq
    rw [← heq]
    apply hother.1
  | leave =>
    refine ⟨hc.1, ?_⟩
    intro p heq
    contradiction

theorem Rule.reachable (h : Rule W calls M A R G I J Q) (hp : wp (relying W A R) G p Q s)
    (hc : Reachable W calls M s p c) : Sound W A R G J Q c := by
  induction hc with
  | start =>
    refine ⟨hp, ?_⟩
    intro p heq
    contradiction
  | step _ hstep hM ih => apply h.step hstep hM ih

end Rule

/--
Picks the answers and the programs of the second thread, and tells which steps meet the condition.
-/
structure Player (W : World Op Ans) (calls : W.State → Prog Op Ans Unit → Prop)
    (M : Threads W α → Label Op Ans → Prop) where
  answer : (op : Op) → W.State → Ans op
  program : Nat → Prog Op Ans Unit
  may : W.State → Nat → Bool
  meets : Threads W α → Label Op Ans → Bool
  admits_answer : ∀ op s, W.admits op s (answer op s)
  calls_program : ∀ s i, may s i = true → calls s (program i)
  meets_sound : ∀ c l, meets c l = true → M c l

inductive Turn where
  | main
  | call (i : Nat)
  | other
  deriving DecidableEq, Repr

namespace Player

variable {W : World Op Ans} {calls : W.State → Prog Op Ans Unit → Prop}
  {M : Threads W α → Label Op Ans → Prop} (player : Player W calls M) {s₀ : W.State}
  {p : Prog Op Ans α}

def next (t : Turn) (c : Threads W α) : Option (Label Op Ans × Threads W α) :=
  match t, c with
  | .main, ⟨s, .call op k, o⟩ =>
    some (.main op (player.answer op s), ⟨W.next op s (player.answer op s), k (player.answer op s), o⟩)
  | .call i, ⟨s, m, none⟩ =>
    if player.may s i then some (.call (player.program i), ⟨s, m, some (player.program i)⟩) else none
  | .other, ⟨s, m, some (.call op k)⟩ =>
    some (.other op (player.answer op s),
      ⟨W.next op s (player.answer op s), m, some (k (player.answer op s))⟩)
  | .other, ⟨s, m, some (.ret ())⟩ => some (.leave, ⟨s, m, none⟩)
  | _, _ => none

def turn (c : Threads W α) (t : Turn) : Threads W α :=
  match player.next t c with
  | some (l, c') => if player.meets c l then c' else c
  | none => c

def play (turns : List Turn) (c : Threads W α) : Threads W α := turns.foldl player.turn c

theorem step_next {t : Turn} {c c' : Threads W α} {l : Label Op Ans}
    (h : player.next t c = some (l, c')) : Step W calls c l c' := by
  unfold next at h
  split at h
  . injection h with h
    injection h with hl hc
    subst hl hc
    exact .main (player.admits_answer _ _)
  . split at h
    . next hmay =>
      injection h with h
      injection h with hl hc
      subst hl hc
      exact .call (player.calls_program _ _ hmay)
    . contradiction
  . injection h with h
    injection h with hl hc
    subst hl hc
    exact .other (player.admits_answer _ _)
  . injection h with h
    injection h with hl hc
    subst hl hc
    exact .leave
  . contradiction

theorem reachable_turn {c : Threads W α} (t : Turn) (hc : Reachable W calls M s₀ p c) :
    Reachable W calls M s₀ p (player.turn c t) := by
  unfold turn
  split
  . next hnext =>
    split
    . next hmeets => exact hc.step (player.step_next hnext) (player.meets_sound _ _ hmeets)
    . apply hc
  . apply hc

theorem reachable_play (turns : List Turn) :
    Reachable W calls M s₀ p (player.play turns ⟨s₀, p, none⟩) := by
  suffices h : ∀ c, Reachable W calls M s₀ p c → Reachable W calls M s₀ p (player.play turns c) from
    h _ .start
  induction turns with
  | nil =>
    intro c hc
    apply hc
  | cons t turns ih =>
    intro c hc
    apply ih
    apply player.reachable_turn t hc

end Player

end Threads

end Interaction
