import VoodooI2C.Interaction.Play

/-!
This module contains two interrupted programs that run side by side, each in a state of its own.
Whenever both perform an operation the two answers may have to agree, and the handler interrupts both
at the same time.
-/

namespace Interaction

variable {Op : Type} {Ans : Op → Type} {α α' β β' : Type}

namespace Prog

/--
Perform the operations of two programs in pairs. There is no result if one program returns and the
other one goes on.
-/
def zip (p : Prog Op Ans α) (q : Prog Op Ans β) :
    Prog (Op × Op) (fun o => Ans o.1 × Ans o.2) (Option (α × β)) :=
  match p, q with
  | .ret a, .ret b => .ret (some (a, b))
  | .call op k, .call op' k' => .call (op, op') fun r => (k r.1).zip (k' r.2)
  | _, _ => .ret none

/--
The program goes on in the same way after two answers that `S` relates.
-/
def Respects (S : (op : Op) → Ans op → Ans op → Prop) (p : Prog Op Ans α) : Prop :=
  match p with
  | .ret _ => True
  | .call op k => (∀ r r', S op r r' → k r = k r') ∧ ∀ r, (k r).Respects S

variable {S : (op : Op) → Ans op → Ans op → Prop}

theorem respects_pure (a : α) : (pure a : Prog Op Ans α).Respects S :=
  trivial

theorem respects_bind {p : Prog Op Ans α} {f : α → Prog Op Ans β} (hp : p.Respects S)
    (hf : ∀ a, (f a).Respects S) : (p >>= f).Respects S := by
  induction p with
  | ret a => apply hf
  | call op k ih =>
    rw [call_bind]
    constructor
    . intro r r' h
      simp only [hp.1 r r' h]
    . intro r
      apply ih r (hp.2 r)

theorem Performs.respects {P : Op → Prop} {p : Prog Op Ans α} (hp : p.Performs P)
    (hS : ∀ op r r', P op → S op r r' → r = r') : p.Respects S := by
  induction p with
  | ret a => trivial
  | call op k ih =>
    constructor
    . intro r r' h
      rw [hS op r r' hp.1 h]
    . intro r
      apply ih r (hp.2 r)

end Prog

/--
Two copies of a world that answer two operations at a time, `agree` says which answers go together.
-/
abbrev World.twice (W : World Op Ans)
    (agree : (op : Op) → Ans op → (op' : Op) → Ans op' → Prop) :
    World (Op × Op) (fun o => Ans o.1 × Ans o.2) where
  State := W.State × W.State
  admits := fun o x r => W.admits o.1 x.1 r.1 ∧ W.admits o.2 x.2 r.2 ∧ agree o.1 r.1 o.2 r.2
  next := fun o x r => (W.next o.1 x.1 r.1, W.next o.2 x.2 r.2)
  env := fun x y => W.env x.1 y.1 ∧ x.2 = y.2 ∨ x.1 = y.1 ∧ W.env x.2 y.2

namespace Pair

variable {V : World (Op × Op) (fun o => Ans o.1 × Ans o.2)} {G G' : Op × Op → V.State → Prop}
  {x y : V.State}

/--
The two programs perform all their operations in pairs and return with `Q`.
-/
def wp (V : World (Op × Op) (fun o => Ans o.1 × Ans o.2)) (G : Op × Op → V.State → Prop)
    (p : Prog Op Ans α) (q : Prog Op Ans β) (Q : α → β → V.State → Prop) (x : V.State) : Prop :=
  Interaction.wp V G (p.zip q) (fun o y => ∃ a b, o = some (a, b) ∧ Q a b y) x

theorem wp_stable {p : Prog Op Ans α} {q : Prog Op Ans β} {Q : α → β → V.State → Prop} :
    V.Stable (wp V G p q Q) :=
  Interaction.wp_stable

theorem not_wp_call_ret {op : Op} {k : Ans op → Prog Op Ans α} {b : β}
    {Q : α → β → V.State → Prop} : ¬ wp V G (.call op k) (.ret b) Q x := by
  intro h
  rcases h x .refl with ⟨_, _, heq, _⟩
  contradiction

theorem not_wp_ret_call {op : Op} {k : Ans op → Prog Op Ans β} {a : α}
    {Q : α → β → V.State → Prop} : ¬ wp V G (.ret a) (.call op k) Q x := by
  intro h
  rcases h x .refl with ⟨_, _, heq, _⟩
  contradiction

theorem wp_ret_ret {a : α} {b : β} {Q : α → β → V.State → Prop} (h : wp V G (.ret a) (.ret b) Q x) :
    Q a b x := by
  rcases h x .refl with ⟨_, _, heq, h⟩
  cases heq
  apply h

theorem wp_pure {a : α} {b : β} {Q : α → β → V.State → Prop} (hQ : V.Stable (Q a b))
    (h : Q a b x) : wp V G (pure a) (pure b) Q x := by
  intro y henv
  exact ⟨a, b, rfl, hQ.env h henv⟩

theorem wp_mono {p : Prog Op Ans α} {q : Prog Op Ans β} {Q Q' : α → β → V.State → Prop}
    (h : wp V G p q Q x) (hG : ∀ o x, G o x → G' o x) (hQ : ∀ a b x, Q a b x → Q' a b x) :
    wp V G' p q Q' x := by
  apply Interaction.wp_mono h hG
  rintro _ y ⟨a, b, rfl, hab⟩
  exact ⟨a, b, rfl, hQ a b y hab⟩

theorem wp_post {p : Prog Op Ans α} {q : Prog Op Ans β} {Q Q' : α → β → V.State → Prop}
    (h : wp V G p q Q x) (hQ : ∀ a b x, Q a b x → Q' a b x) : wp V G p q Q' x :=
  wp_mono h (fun _ _ h => h) hQ

theorem wp_bind {p : Prog Op Ans α} {q : Prog Op Ans β} {f : α → Prog Op Ans α'}
    {g : β → Prog Op Ans β'} {Q : α' → β' → V.State → Prop}
    (h : wp V G p q (fun a b y => wp V G (f a) (g b) Q y) x) :
    wp V G (p >>= f) (q >>= g) Q x := by
  induction p generalizing q x with
  | ret a =>
    cases q with
    | ret b => apply wp_ret_ret h
    | call op' k' => exact absurd h not_wp_ret_call
  | call op k ih =>
    cases q with
    | ret b => exact absurd h not_wp_call_ret
    | call op' k' =>
      intro y henv
      refine ⟨(h y henv).1, ?_⟩
      intro r hr
      apply ih r.1
      apply (h y henv).2 r hr

theorem wp_tail {p : Prog Op Ans α} {q : Prog Op Ans β} {Q : α → β → V.State → Prop}
    (h : wp V G (p >>= pure) (q >>= pure) Q x) : wp V G p q Q x := by
  rw [bind_pure, bind_pure] at h
  apply h

theorem wp_now {J : V.State → Prop} {p : Prog Op Ans α} {q : Prog Op Ans β}
    {Q : α → β → V.State → Prop} (hG : ∀ o x, G o x → J x) (hQ : ∀ a b x, Q a b x → J x)
    (h : wp V G p q Q x) : J x := by
  cases p with
  | ret a =>
    cases q with
    | ret b => apply hQ a b x (wp_ret_ret h)
    | call op' k' => exact absurd h not_wp_ret_call
  | call op k =>
    cases q with
    | ret b => exact absurd h not_wp_call_ret
    | call op' k' => apply hG _ x (h x .refl).1

theorem wp_perform_bind {op op' : Op} {f : Ans op → Prog Op Ans α} {g : Ans op' → Prog Op Ans β}
    {Q : α → β → V.State → Prop} :
    wp V G (Prog.perform op >>= f) (Prog.perform op' >>= g) Q x
      ↔
    ∀ y, V.Env x y → G (op, op') y
      ∧ ∀ r : Ans op × Ans op', V.admits (op, op') y r →
          wp V G (f r.1) (g r.2) Q (V.next (op, op') y r) := by
  rfl

theorem wp_step {op op' : Op} {f : Ans op → Prog Op Ans α} {g : Ans op' → Prog Op Ans β}
    {Q : α → β → V.State → Prop} {A : V.State → Prop} (hA : V.Stable A) (h : A x)
    (hstep : ∀ y, A y → G (op, op') y
      ∧ ∀ r : Ans op × Ans op', V.admits (op, op') y r →
          wp V G (f r.1) (g r.2) Q (V.next (op, op') y r)) :
    wp V G (Prog.perform op >>= f) (Prog.perform op' >>= g) Q x := by
  rw [wp_perform_bind]
  intro y henv
  apply hstep y (hA.env h henv)

theorem wp_silent {op op' : Op} {f : Ans op → Prog Op Ans α} {g : Ans op' → Prog Op Ans β}
    {Q : α → β → V.State → Prop} (answer : V.State → Ans op × Ans op')
    (hanswer : ∀ x r, V.admits (op, op') x r → r = answer x)
    (henv : ∀ x y, V.env x y → answer y = answer x
      ∧ V.env (V.next (op, op') x (answer x)) (V.next (op, op') y (answer y)))
    (hG : ∀ y, V.Env x y → G (op, op') y)
    (h : wp V G (f (answer x).1) (g (answer x).2) Q (V.next (op, op') x (answer x))) :
    wp V G (Prog.perform op >>= f) (Prog.perform op' >>= g) Q x := by
  have hpair : Interaction.wp V G
      (Prog.perform (op, op') >>= fun r : Ans op × Ans op' => (f r.1).zip (g r.2))
      (fun o y => ∃ a b, o = some (a, b) ∧ Q a b y) x :=
    Interaction.wp_silent answer hanswer henv hG h
  exact hpair

theorem wp_same {P : Op → Prop} {S : (op : Op) → Ans op → Ans op → Prop} {A : V.State → Prop}
    {p : Prog Op Ans α} (hp : p.Performs P) (hS : p.Respects S) (hA : V.Stable A)
    (hG : ∀ op x, P op → A x → G (op, op) x)
    (hnext : ∀ op x (r : Ans op × Ans op), P op → A x → V.admits (op, op) x r →
      S op r.1 r.2 ∧ A (V.next (op, op) x r)) (h : A x) :
    wp V G p p (fun a b y => a = b ∧ A y) x := by
  induction p generalizing x with
  | ret a =>
    intro y henv
    exact ⟨a, a, rfl, rfl, hA.env h henv⟩
  | call op k ih =>
    intro y henv
    have h' := hA.env h henv
    refine ⟨hG op y hp.1 h', ?_⟩
    intro r hr
    have hr' := hnext op y r hp.1 h' hr
    have heq : k r.1 = k r.2 := hS.1 r.1 r.2 hr'.1
    simp only [← heq]
    apply ih r.1 (hp.2 r.1) (hS.2 r.1) hr'.2

def both (isr : Prog Op Ans Unit) : Prog (Op × Op) (fun o => Ans o.1 × Ans o.2) Unit :=
  isr.zip isr >>= fun _ => pure ()

theorem stable_interrupted {isr : Prog Op Ans Unit} {A : V.State → Prop} (hA : V.Stable A)
    (hisr : ∀ x, A x → wp V (fun _ _ => True) isr isr (fun _ _ => A) x) :
    (V.interrupted (both isr)).Stable A := by
  apply hA.interrupted
  intro x y h hexec
  apply hexec.wp (G := fun _ _ => True) (Q := fun _ => A)
  unfold both
  rw [Interaction.wp_bind]
  apply Interaction.wp_post (hisr x h)
  rintro _ y ⟨_, _, _, h⟩
  apply Interaction.wp_pure (Q := fun _ => A) hA h

/--
Two steps that get the same from outside: the handler is called on both sides or on none, and
answers to operations that both perform go together.
-/
def SameInput (agree : (op : Op) → Ans op → (op' : Op) → Ans op' → Prop) (l l' : Label Op Ans) :
    Prop :=
  match l, l' with
  | .env, _ | _, .env => False
  | .enter, .enter => True
  | .enter, _ | _, .enter => False
  | .main op r, .main op' r' | .handler op r, .handler op' r' => agree op r op' r'
  | _, _ => True

/--
The pairs of configurations that `p` started in `s₀` and `q` started in `t₀` get to if they get the
same from outside in every step. The world moves on each side on its own.
-/
inductive Abreast (W : World Op Ans) (isr : Prog Op Ans Unit)
    (agree : (op : Op) → Ans op → (op' : Op) → Ans op' → Prop) (s₀ t₀ : W.State)
    (p : Prog Op Ans α) (q : Prog Op Ans β) : Config W α → Config W β → Prop where
  | start : Abreast W isr agree s₀ t₀ p q ⟨s₀, p, none⟩ ⟨t₀, q, none⟩
  | left : Abreast W isr agree s₀ t₀ p q c d → Step W isr c .env c' →
      Abreast W isr agree s₀ t₀ p q c' d
  | right : Abreast W isr agree s₀ t₀ p q c d → Step W isr d .env d' →
      Abreast W isr agree s₀ t₀ p q c d'
  | both : Abreast W isr agree s₀ t₀ p q c d → Step W isr c l c' → Step W isr d l' d' →
      SameInput agree l l' → Abreast W isr agree s₀ t₀ p q c' d'

section Rule

variable {W : World Op Ans} {isr : Prog Op Ans Unit}
  {agree : (op : Op) → Ans op → (op' : Op) → Ans op' → Prop}
  {G G' : Op × Op → W.State × W.State → Prop} {J R : W.State × W.State → Prop}
  {Q : α → β → W.State × W.State → Prop} {c c' : Config W α} {d d' : Config W β}
  {l l' : Label Op Ans}

inductive Sound (W : World Op Ans) (isr : Prog Op Ans Unit)
    (agree : (op : Op) → Ans op → (op' : Op) → Ans op' → Prop)
    (G G' : Op × Op → W.State × W.State → Prop) (Q : α → β → W.State × W.State → Prop) :
    Config W α → Config W β → Prop where
  | main : wp ((W.twice agree).interrupted (both isr)) G p q Q (s, t) →
      Sound W isr agree G G' Q ⟨s, p, none⟩ ⟨t, q, none⟩
  | handler : wp (W.twice agree) G' h h' (fun _ _ _ => True) (s, t) →
      (∀ y, Exec (W.twice agree) (h.zip h') (s, t) (some ((), ())) y →
        wp ((W.twice agree).interrupted (both isr)) G p q Q y) →
      Sound W isr agree G G' Q ⟨s, p, some h⟩ ⟨t, q, some h'⟩

theorem Sound.left (hstep : Step W isr c .env c') (h : Sound W isr agree G G' Q c d) :
    Sound W isr agree G G' Q c' d := by
  cases h with
  | main h =>
    cases hstep with
    | env henv =>
      apply Sound.main
      exact wp_stable _ _ h (.inl (.inl ⟨henv, rfl⟩))
  | handler h hmain =>
    cases hstep with
    | env henv =>
      apply Sound.handler
      . exact wp_stable _ _ h (.inl ⟨henv, rfl⟩)
      . intro y hexec
        apply hmain y
        apply Exec.env _ hexec
        exact .inl ⟨henv, rfl⟩

theorem Sound.right (hstep : Step W isr d .env d') (h : Sound W isr agree G G' Q c d) :
    Sound W isr agree G G' Q c d' := by
  cases h with
  | main h =>
    cases hstep with
    | env henv =>
      apply Sound.main
      exact wp_stable _ _ h (.inl (.inr ⟨rfl, henv⟩))
  | handler h hmain =>
    cases hstep with
    | env henv =>
      apply Sound.handler
      . exact wp_stable _ _ h (.inr ⟨rfl, henv⟩)
      . intro y hexec
        apply hmain y
        apply Exec.env _ hexec
        exact .inr ⟨rfl, henv⟩

/--
`J` is the precondition of the handler.
-/
structure Rule (W : World Op Ans) (isr : Prog Op Ans Unit)
    (agree : (op : Op) → Ans op → (op' : Op) → Ans op' → Prop)
    (G G' : Op × Op → W.State × W.State → Prop) (J : W.State × W.State → Prop)
    (Q : α → β → W.State × W.State → Prop) : Prop where
  guard : ∀ o x, G o x → J x
  returned : ∀ a b x, Q a b x → J x
  handler : ∀ x, J x → wp (W.twice agree) G' isr isr (fun _ _ _ => True) x

theorem Rule.both (hrule : Rule W isr agree G G' J Q) (hstep : Step W isr c l c')
    (hstep' : Step W isr d l' d') (hinput : SameInput agree l l')
    (h : Sound W isr agree G G' Q c d) : Sound W isr agree G G' Q c' d' := by
  cases h with
  | main h =>
    cases hstep with
    | env _ => contradiction
    | main hr =>
      cases hstep' with
      | env _ | enter => contradiction
      | main hr' =>
        apply Sound.main
        apply (h _ .refl).2 (_, _) ⟨hr, hr', hinput⟩
    | enter =>
      cases hstep' with
      | env _ | main _ => contradiction
      | enter =>
        apply Sound.handler
        . apply hrule.handler
          apply wp_now hrule.guard hrule.returned h
        . intro y hexec
          apply wp_stable _ _ h
          right
          exact hexec.bind .ret
  | handler h hmain =>
    cases hstep with
    | env _ => contradiction
    | handler hr =>
      cases hstep' with
      | env _ => contradiction
      | handler hr' =>
        have hadmits : (W.twice agree).admits (_, _) (_, _) (_, _) := ⟨hr, hr', hinput⟩
        apply Sound.handler
        . apply (h _ .refl).2 _ hadmits
        . intro y hexec
          apply hmain y
          exact .call hadmits hexec
      | leave => exact absurd h not_wp_call_ret
    | leave =>
      cases hstep' with
      | env _ => contradiction
      | handler _ => exact absurd h not_wp_ret_call
      | leave =>
        apply Sound.main
        apply hmain _ .ret

variable {s₀ t₀ : W.State} {p : Prog Op Ans α} {q : Prog Op Ans β}

theorem Rule.abreast (hrule : Rule W isr agree G G' J Q)
    (h : wp ((W.twice agree).interrupted (Pair.both isr)) G p q Q (s₀, t₀))
    (hc : Abreast W isr agree s₀ t₀ p q c d) : Sound W isr agree G G' Q c d := by
  induction hc with
  | start => exact .main h
  | left _ hstep ih => exact ih.left hstep
  | right _ hstep ih => exact ih.right hstep
  | both _ hstep hstep' hinput ih => exact hrule.both hstep hstep' hinput ih

theorem Sound.always (hG : ∀ o x, G o x → R x) (hG' : ∀ o x, G' o x → R x)
    (hQ : ∀ a b x, Q a b x → R x) (h : Sound W isr agree G G' Q c d) : R (c.state, d.state) := by
  cases h with
  | main h => apply wp_now hG hQ h
  | @handler h h' s t p q hh hmain =>
    cases h with
    | ret =>
      cases h' with
      | ret => apply wp_now hG hQ (hmain _ .ret)
      | call op' k' => exact absurd hh not_wp_ret_call
    | call op k =>
      cases h' with
      | ret => exact absurd hh not_wp_call_ret
      | call op' k' => apply hG' _ _ (hh _ .refl).1

theorem Sound.handler_iff (h : Sound W isr agree G G' Q c d) :
    c.handler = none ↔ d.handler = none := by
  cases h with
  | main _ => exact ⟨fun _ => rfl, fun _ => rfl⟩
  | handler _ _ =>
    constructor
    . intro h
      contradiction
    . intro h
      contradiction

theorem Sound.returns (h : Sound W isr agree G G' Q c d) (hnone : c.handler = none) :
    (∃ op k op' k', c.main = .call op k ∧ d.main = .call op' k')
      ∨ ∃ a b, c.main = .ret a ∧ d.main = .ret b ∧ Q a b (c.state, d.state) := by
  cases h with
  | @main p q s t h =>
    cases p with
    | ret a =>
      cases q with
      | ret b => exact .inr ⟨a, b, rfl, rfl, wp_ret_ret h⟩
      | call op' k' => exact absurd h not_wp_ret_call
    | call op k =>
      cases q with
      | ret b => exact absurd h not_wp_call_ret
      | call op' k' => exact .inl ⟨op, k, op', k', rfl, rfl⟩
  | handler _ _ => contradiction

end Rule

end Pair

namespace Player

variable {W : World Op Ans} (player : Player W) (isr : Prog Op Ans Unit)
  (agree : (op : Op) → Ans op → (op' : Op) → Ans op' → Prop)

def label (t : Turn) (c : Config W α) : Option (Label Op Ans) :=
  match t, c with
  | .main, ⟨s, .call op _, none⟩ => (player.answer op s).map (.main op)
  | .handlerStep, ⟨_, _, none⟩ => some .enter
  | .handlerStep, ⟨s, _, some (.call op _)⟩ => (player.answer op s).map (.handler op)
  | .handlerStep, ⟨_, _, some (.ret ())⟩ => some .leave
  | _, _ => none

theorem step_turn {t : Turn} {c : Config W α} {l : Label Op Ans} (h : player.label t c = some l) :
    Step W isr c l (player.turn isr t c) := by
  unfold label at h
  split at h
  . rcases Option.map_eq_some_iff.mp h with ⟨r, hr, rfl⟩
    simp only [turn, hr]
    exact .main (player.admits_answer _ _ _ hr)
  . injection h with h
    subst h
    exact .enter
  . rcases Option.map_eq_some_iff.mp h with ⟨r, hr, rfl⟩
    simp only [turn, hr]
    exact .handler (player.admits_answer _ _ _ hr)
  . injection h with h
    subst h
    exact .leave
  . contradiction

variable [∀ op r op' r', Decidable (agree op r op' r')]

def inStep (l l' : Option (Label Op Ans)) : Bool :=
  match l, l' with
  | some .enter, some .enter | some .leave, some .leave => true
  | some (.main op r), some (.main op' r') | some (.handler op r), some (.handler op' r') =>
    agree op r op' r'
  | _, _ => false

def keepsAbreast (turns : List Turn) (c : Config W α) (d : Config W β) : Bool :=
  match turns with
  | [] => true
  | t :: turns =>
    (t == .env || inStep agree (player.label t c) (player.label t d))
      && keepsAbreast turns (player.turn isr t c) (player.turn isr t d)

variable {agree} {s₀ t₀ : W.State} {p : Prog Op Ans α} {q : Prog Op Ans β} {c : Config W α}
  {d : Config W β}

omit [∀ op r op' r', Decidable (agree op r op' r')] in
theorem turn_env (c : Config W α) :
    player.turn isr .env c = c ∨ Step W isr c .env (player.turn isr .env c) := by
  rcases c with ⟨s, p, h⟩
  unfold turn
  dsimp only
  split
  . next hs => exact .inr (.env (player.env_move _ _ hs))
  . exact .inl rfl

theorem sameInput_of_inStep {l l' : Label Op Ans} (h : inStep agree (some l) (some l') = true) :
    Pair.SameInput agree l l' := by
  cases l with
  | env => contradiction
  | enter => cases l' <;> trivial
  | leave => cases l' <;> trivial
  | main op r =>
    cases l' with
    | main op' r' =>
      exact of_decide_eq_true (p := agree op r op' r') h
    | _ => contradiction
  | handler op r =>
    cases l' with
    | handler op' r' =>
      exact of_decide_eq_true (p := agree op r op' r') h
    | _ => contradiction

theorem abreast_turn (t : Turn)
    (ht : (t == .env || inStep agree (player.label t c) (player.label t d)) = true)
    (hc : Pair.Abreast W isr agree s₀ t₀ p q c d) :
    Pair.Abreast W isr agree s₀ t₀ p q (player.turn isr t c) (player.turn isr t d) := by
  rw [Bool.or_eq_true, beq_iff_eq] at ht
  rcases ht with rfl | ht
  . have hleft : Pair.Abreast W isr agree s₀ t₀ p q (player.turn isr .env c) d := by
      rcases player.turn_env isr c with heq | hstep
      . rw [heq]
        apply hc
      . exact .left hc hstep
    rcases player.turn_env isr d with heq | hstep
    . rw [heq]
      apply hleft
    . exact .right hleft hstep
  . cases hl : player.label t c with
    | none =>
      rw [hl] at ht
      contradiction
    | some l =>
      cases hl' : player.label t d with
      | none =>
        rw [hl, hl'] at ht
        cases l <;> contradiction
      | some l' =>
        rw [hl, hl'] at ht
        apply Pair.Abreast.both hc (player.step_turn isr hl) (player.step_turn isr hl')
        apply sameInput_of_inStep ht

theorem abreast_play (turns : List Turn) (hturns : player.keepsAbreast isr agree turns c d = true)
    (hc : Pair.Abreast W isr agree s₀ t₀ p q c d) :
    Pair.Abreast W isr agree s₀ t₀ p q (player.play isr turns c) (player.play isr turns d) := by
  induction turns generalizing c d with
  | nil => apply hc
  | cons t turns ih =>
    unfold keepsAbreast at hturns
    rw [Bool.and_eq_true] at hturns
    apply ih hturns.2
    apply player.abreast_turn isr t hturns.1 hc

end Player

end Interaction
