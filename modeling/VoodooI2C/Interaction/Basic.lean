import Mathlib.Logic.Relation

/-!
This module contains programs as trees of operations: a program either returns or performs an
operation of an interface and goes on with the answer it gets. What an operation does is not fixed
here, it is up to a `World` to answer it.
-/

namespace Interaction

/--
A program over the operations `Op`, where the operation `op` is answered by an element of `Ans op`.
-/
inductive Prog (Op : Type) (Ans : Op → Type) (α : Type) : Type where
  | ret (a : α)
  | call (op : Op) (k : Ans op → Prog Op Ans α)

variable {Op : Type} {Ans : Op → Type} {α β γ : Type}

namespace Prog

protected def bind (p : Prog Op Ans α) (f : α → Prog Op Ans β) : Prog Op Ans β :=
  match p with
  | .ret a => f a
  | .call op k => .call op fun r => (k r).bind f

instance : Monad (Prog Op Ans) where
  pure := .ret
  bind := Prog.bind

def perform (op : Op) : Prog Op Ans (Ans op) :=
  .call op .ret

@[simp]
theorem ret_bind (a : α) (f : α → Prog Op Ans β) : (Prog.ret a >>= f) = f a := rfl

@[simp]
theorem call_bind (op : Op) (k : Ans op → Prog Op Ans α) (f : α → Prog Op Ans β) :
    (Prog.call op k >>= f) = .call op fun r => k r >>= f := rfl

theorem bind_ret (p : Prog Op Ans α) : (p >>= .ret) = p := by
  induction p with
  | ret a => rfl
  | call op k ih =>
    rw [call_bind]
    congr 1
    funext r
    apply ih

theorem bind_assoc (p : Prog Op Ans α) (f : α → Prog Op Ans β) (g : β → Prog Op Ans γ) :
    (p >>= f) >>= g = p >>= fun a => f a >>= g := by
  induction p with
  | ret a => rfl
  | call op k ih =>
    simp only [call_bind]
    congr 1
    funext r
    apply ih

instance : LawfulMonad (Prog Op Ans) :=
  LawfulMonad.mk' (Prog Op Ans) bind_ret (fun _ _ => rfl) bind_assoc

def Performs (P : Op → Prop) (p : Prog Op Ans α) : Prop :=
  match p with
  | .ret _ => True
  | .call op k => P op ∧ ∀ r, (k r).Performs P

variable {P P' : Op → Prop}

theorem performs_pure (a : α) : (pure a : Prog Op Ans α).Performs P :=
  trivial

theorem performs_perform {op : Op} (h : P op) : (perform op : Prog Op Ans (Ans op)).Performs P := by
  constructor
  . apply h
  . intro r
    apply performs_pure

theorem performs_bind {p : Prog Op Ans α} {f : α → Prog Op Ans β} (hp : p.Performs P)
    (hf : ∀ a, (f a).Performs P) : (p >>= f).Performs P := by
  induction p with
  | ret a => apply hf
  | call op k ih =>
    rw [call_bind]
    constructor
    . apply hp.1
    . intro r
      apply ih
      apply hp.2

theorem performs_ite {c : Prop} [Decidable c] {p q : Prog Op Ans α} (hp : p.Performs P)
    (hq : q.Performs P) : (if c then p else q).Performs P := by
  split
  . apply hp
  . apply hq

theorem performs_true (p : Prog Op Ans α) : p.Performs fun _ => True := by
  induction p with
  | ret a => trivial
  | call op k ih => exact ⟨trivial, ih⟩

theorem performs_mono {p : Prog Op Ans α} (hp : p.Performs P) (h : ∀ op, P op → P' op) :
    p.Performs P' := by
  induction p with
  | ret a => apply performs_pure
  | call op k ih =>
    constructor
    . apply h
      apply hp.1
    . intro r
      apply ih
      apply hp.2

end Prog

end Interaction
