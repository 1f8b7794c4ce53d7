import VoodooI2C.Interaction.WP

/-!
This module contains programs between whose operations other programs run. What runs before which
operation is a schedule.
-/

namespace Interaction

namespace Prog

variable {Op : Type} {Ans : Op → Type} {α : Type}

/--
`between n` runs before the `n`th operation, `n` counts from its value at the beginning.
-/
def interleave (between : Nat → Prog Op Ans Unit) (n : Nat) (p : Prog Op Ans α) : Prog Op Ans α :=
  match p with
  | .ret a => .ret a
  | .call op k => between n >>= fun _ => .call op fun r => (k r).interleave between (n + 1)

theorem interleave_perform_bind {between : Nat → Prog Op Ans Unit} {n : Nat} (op : Op)
    (f : Ans op → Prog Op Ans α) :
    (perform op >>= f).interleave between n
      = between n >>= fun _ => perform op >>= fun r => (f r).interleave between (n + 1) := by
  rfl

end Prog

variable {Op : Type} {Ans : Op → Type} {α : Type} {W : World Op Ans}
  {G : Op → W.State → Prop} {A : W.State → Prop} {s : W.State}

theorem wp_interleave {P : Op → Prop} {between : Nat → Prog Op Ans Unit} {n : Nat}
    {p : Prog Op Ans α} (hp : p.Performs P) (hA : W.Stable A)
    (hbetween : ∀ m s, n ≤ m → A s → wp W G (between m) (fun _ => A) s)
    (hG : ∀ op s, P op → A s → G op s)
    (hnext : ∀ op s r, P op → A s → W.admits op s r → A (W.next op s r)) (h : A s) :
    wp W G (p.interleave between n) (fun _ => A) s := by
  induction p generalizing n s with
  | ret a =>
    intro s' henv
    apply hA.env h henv
  | call op k ih =>
    unfold Prog.interleave
    rw [wp_bind]
    apply wp_post (hbetween n s (Nat.le_refl n) h)
    intro _ s₁ h₁ s₂ henv
    have h₂ := hA.env h₁ henv
    refine ⟨hG op s₂ hp.1 h₂, ?_⟩
    intro r hr
    apply ih r (hp.2 r)
    . intro m s hm
      apply hbetween m s (by omega)
    . apply hnext op s₂ r hp.1 h₂ hr

end Interaction
