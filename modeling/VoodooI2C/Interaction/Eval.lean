import VoodooI2C.Interaction.Basic

/-!
This module contains programs whose operations are questions to an oracle: the result of such a
program and the questions that it asks.
-/

namespace Interaction

namespace Prog

variable {Op : Type} {Ans : Op → Type} {α β : Type} (f : (op : Op) → Ans op)

def eval (p : Prog Op Ans α) : α :=
  match p with
  | .ret a => a
  | .call op k => (k (f op)).eval

def asked (p : Prog Op Ans α) : List Op :=
  match p with
  | .ret _ => []
  | .call op k => op :: (k (f op)).asked

@[simp]
theorem eval_pure (a : α) : (pure a : Prog Op Ans α).eval f = a := rfl

@[simp]
theorem asked_pure (a : α) : (pure a : Prog Op Ans α).asked f = [] := rfl

@[simp]
theorem eval_perform (op : Op) : (perform op : Prog Op Ans (Ans op)).eval f = f op := rfl

@[simp]
theorem asked_perform (op : Op) : (perform op : Prog Op Ans (Ans op)).asked f = [op] := rfl

@[simp]
theorem eval_bind (p : Prog Op Ans α) (g : α → Prog Op Ans β) :
    (p >>= g).eval f = (g (p.eval f)).eval f := by
  induction p with
  | ret a => rfl
  | call op k ih => apply ih

@[simp]
theorem asked_bind (p : Prog Op Ans α) (g : α → Prog Op Ans β) :
    (p >>= g).asked f = p.asked f ++ (g (p.eval f)).asked f := by
  induction p with
  | ret a => rfl
  | call op k ih =>
    rw [call_bind]
    simp only [asked, eval, ih, List.cons_append]

end Prog

end Interaction
