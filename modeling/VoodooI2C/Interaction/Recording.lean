import VoodooI2C.Interaction.Play
import Mathlib.Data.Set.Insert

/-!
This module contains worlds in which notes are taken of the operations and their answers, beside the
state. The notes have no effect on what happens. A ledger notes which resources are held. At the end are
worlds that do not move on their own.
-/

namespace Interaction

variable {Op : Type} {Ans : Op → Type} {Γ α β : Type}

/--
`note op s r` is what the operation `op` in the state `s` and its answer `r` make of the notes so far.
-/
abbrev World.recording (W : World Op Ans) (note : (op : Op) → W.State → Ans op → Γ → Γ) :
    World Op Ans where
  State := W.State × Γ
  admits := fun op s r => W.admits op s.1 r
  next := fun op s r => (W.next op s.1 r, note op s.1 r s.2)
  env := fun s s' => W.env s.1 s'.1 ∧ s'.2 = s.2

variable {W : World Op Ans}

def Player.recording (player : Player W) (note : (op : Op) → W.State → Ans op → Γ → Γ) :
    Player (W.recording note) where
  answer := fun op s => player.answer op s.1
  move := fun s => (player.move s.1).map fun s' => (s', s.2)
  admits_answer := fun op s r hr => player.admits_answer op s.1 r hr
  env_move := by
    intro s s' hs
    rcases Option.map_eq_some_iff.mp hs with ⟨s₁, hmove, rfl⟩
    exact ⟨player.env_move s.1 s₁ hmove, rfl⟩

/-! Resources. -/

inductive Entry (R : Type) where
  | take (r : R)
  | give (r : R)

namespace Entry

variable {R : Type}

def Fair (e : Entry R) (held : Set R) : Prop :=
  match e with
  | .take r => r ∉ held
  | .give r => r ∈ held

def book (e : Entry R) (held : Set R) : Set R :=
  match e with
  | .take r => insert r held
  | .give r => held \ {r}

/-! Resources that are owned according to a state. -/

variable {owns owns' : R → Bool} {r : R}

theorem fair_take [DecidableEq R] (h : owns r = false) (h' : owns' = Function.update owns r true) :
    (take r).Fair { r | owns r } ∧ { r | owns' r } = (take r).book { r | owns r } := by
  subst h'
  refine ⟨by simp [Fair, h], ?_⟩
  ext r'
  by_cases heq : r' = r
  . subst heq
    simp [book]
  . simp [book, heq]

theorem fair_give [DecidableEq R] (h : owns r = true) (h' : owns' = Function.update owns r false) :
    (give r).Fair { r | owns r } ∧ { r | owns' r } = (give r).book { r | owns r } := by
  subst h'
  refine ⟨by simp [Fair, h], ?_⟩
  ext r'
  by_cases heq : r' = r
  . subst heq
    simp [book]
  . simp [book, heq]

end Entry

section Ledger

variable {R : Type} {entry : (op : Op) → W.State → Ans op → Option (Entry R)}
  {owned : W.State → Set R} {G : Op → W.State → Prop}

abbrev World.ledger (W : World Op Ans)
    (entry : (op : Op) → W.State → Ans op → Option (Entry R)) : World Op Ans :=
  W.recording fun op s r held =>
    match entry op s r with
    | none => held
    | some e => e.book held

def Booked (entry : (op : Op) → W.State → Ans op → Option (Entry R)) (owned : W.State → Set R)
    (op : Op) (s : W.State) : Prop :=
  ∀ r, W.admits op s r →
    match entry op s r with
    | none => owned (W.next op s r) = owned s
    | some e => e.Fair (owned s) ∧ owned (W.next op s r) = e.book (owned s)

def FairOp (entry : (op : Op) → W.State → Ans op → Option (Entry R)) (op : Op)
    (s : W.State × Set R) : Prop :=
  ∀ r, W.admits op s.1 r → ∀ e, entry op s.1 r = some e → e.Fair s.2

/--
If the state tells which resources are owned, then these are the ones that are held.
-/
theorem wp_ledger {p : Prog Op Ans α} {Q : α → W.State → Prop} {s : W.State}
    (henv : ∀ s s', W.env s s' → owned s' = owned s)
    (hG : ∀ op s, G op s → Booked entry owned op s) (h : wp W G p Q s) :
    wp (W.ledger entry) (fun op x => G op x.1 ∧ FairOp entry op x) p
      (fun a x => Q a x.1 ∧ x.2 = owned x.1) (s, owned s) := by
  have hwait : ∀ x x' : W.State × Set R, (W.ledger entry).Env x x' → x.2 = owned x.1 →
      W.Env x.1 x'.1 ∧ x'.2 = owned x'.1 := by
    intro x x' hx hheld
    induction hx with
    | refl => exact ⟨.refl, hheld⟩
    | tail _ hstep ih => exact ⟨ih.1.tail hstep.1, by rw [hstep.2, ih.2, henv _ _ hstep.1]⟩
  induction p generalizing s with
  | ret a =>
    intro x hx
    rcases hwait _ _ hx rfl with ⟨henv, hheld⟩
    exact ⟨h x.1 henv, hheld⟩
  | call op k ih =>
    rintro ⟨s', held⟩ hx
    rcases hwait _ _ hx rfl with ⟨henv, hheld⟩
    obtain rfl : held = owned s' := hheld
    have hs' := h s' henv
    have hbooked := hG op s' hs'.1
    refine ⟨⟨hs'.1, ?_⟩, ?_⟩
    . intro r hr e he
      have hr := hbooked r hr
      rw [he] at hr
      exact hr.1
    . intro r hr
      have hnext : (W.ledger entry).next op (s', owned s') r
          = (W.next op s' r, owned (W.next op s' r)) := by
        have hr := hbooked r hr
        unfold World.ledger World.recording
        cases he : entry op s' r with
        | none =>
          rw [he] at hr
          simp only [he, hr]
        | some e =>
          rw [he] at hr
          simp only [he, hr.2]
      rw [hnext]
      apply ih r (hs'.2 r hr)

end Ledger

/-! Worlds that do not move. -/

class World.Still (W : World Op Ans) : Prop where
  not_env : ∀ s s', ¬ W.env s s'

section Still

variable [W.Still] {G : Op → W.State → Prop} {s : W.State}

theorem World.Still.eq_of_env {s s' : W.State} (h : W.Env s s') : s' = s := by
  cases h using Relation.ReflTransGen.head_induction_on with
  | refl => rfl
  | head hstep _ => exact absurd hstep (World.Still.not_env _ _)

@[simp]
theorem wp_pure_still {a : α} {Q : α → W.State → Prop} : wp W G (pure a) Q s ↔ Q a s := by
  constructor
  . intro h
    exact h s .refl
  . intro h s' henv
    rw [World.Still.eq_of_env henv]
    exact h

@[simp]
theorem wp_perform_bind_still {op : Op} {f : Ans op → Prog Op Ans α} {Q : α → W.State → Prop} :
    wp W G (Prog.perform op >>= f) Q s
      ↔ G op s ∧ ∀ r, W.admits op s r → wp W G (f r) Q (W.next op s r) := by
  rw [wp_perform_bind]
  constructor
  . intro h
    exact h s .refl
  . intro h s' henv
    rw [World.Still.eq_of_env henv]
    exact h

@[simp]
theorem wp_perform_still {op : Op} {Q : Ans op → W.State → Prop} :
    wp W G (Prog.perform op) Q s ↔ G op s ∧ ∀ r, W.admits op s r → Q r (W.next op s r) := by
  rw [← bind_pure (Prog.perform op), wp_perform_bind_still]
  simp only [wp_pure_still]

@[simp]
theorem wp_map_still {p : Prog Op Ans α} {f : α → β} {Q : β → W.State → Prop} :
    wp W G (f <$> p) Q s ↔ wp W G p (fun a => Q (f a)) s := by
  rw [← bind_pure_comp, wp_bind]
  simp only [wp_pure_still]

end Still

end Interaction
