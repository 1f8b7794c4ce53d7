import VoodooI2C.Interaction.Play
import Mathlib.Data.DFinsupp.WellFounded
import Mathlib.Data.Set.Insert

/-!
This module contains any number of threads that share locks. Whatever else they do is an operation
of a world, a handler comes between any two of these operations.
-/

namespace Interaction

inductive LockOp (L Op : Type) where
  | acquire (l : L)
  | tryAcquire (l : L)
  | release (l : L)
  | perform (op : Op)

/--
`tryAcquire` tells whether the lock has been taken.
-/
abbrev LockOp.Ans {L Op : Type} (Ans : Op → Type) : LockOp L Op → Type
  | .tryAcquire _ => Bool
  | .perform op => Ans op
  | _ => Unit

abbrev Thread (L : Type) {Op : Type} (Ans : Op → Type) (α : Type) :=
  Prog (LockOp L Op) (LockOp.Ans Ans) α

variable {L ι Op : Type} {Ans : Op → Type} {α β : Type}

namespace Thread

def acquire (l : L) : Thread L Ans Unit := Prog.perform (LockOp.acquire l)

def tryAcquire (l : L) : Thread L Ans Bool := Prog.perform (LockOp.tryAcquire l)

def release (l : L) : Thread L Ans Unit := Prog.perform (LockOp.release l)

def perform (op : Op) : Thread L Ans (Ans op) := Prog.perform (LockOp.perform op)

end Thread

/--
`owner` tells which thread has taken a lock, `thread` what is left to do of each thread.
-/
structure Pool (W : World Op Ans) (L ι α : Type) where
  state : W.State
  owner : L → Option ι
  thread : ι → Thread L Ans α
  handler : Option (Prog Op Ans Unit)

namespace Pool

variable {W : World Op Ans} {isr : Prog Op Ans Unit}

def held (owner : L → Option ι) (i : ι) : Set L := { l | owner l = some i }

section held

variable [DecidableEq L] {owner : L → Option ι} {i j : ι} {l : L}

theorem held_acquire : held (Function.update owner l (some i)) i = insert l (held owner i) := by
  ext l'
  by_cases heq : l' = l
  . subst heq
    simp [held]
  . simp [held, heq]

theorem held_acquire_ne (hl : owner l = none) (hne : j ≠ i) :
    held (Function.update owner l (some i)) j = held owner j := by
  ext l'
  by_cases heq : l' = l
  . subst heq
    simp [held, hl, Ne.symm hne]
  . simp [held, heq]

theorem held_release : held (Function.update owner l none) i = held owner i \ {l} := by
  ext l'
  by_cases heq : l' = l
  . subst heq
    simp [held]
  . simp [held, heq]

theorem held_release_ne (hl : owner l = some i) (hne : j ≠ i) :
    held (Function.update owner l none) j = held owner j := by
  ext l'
  by_cases heq : l' = l
  . subst heq
    simp [held, hl, Ne.symm hne]
  . simp [held, heq]

end held

inductive Move (W : World Op Ans) (isr : Prog Op Ans Unit) (c : Pool W L ι α) :
    Pool W L ι α → Prop where
  | env : W.env c.state s → Move W isr c { c with state := s }
  | enter : c.handler = none → Move W isr c { c with handler := some isr }
  | handler : c.handler = some (.call op k) → W.admits op c.state r →
      Move W isr c { c with state := W.next op c.state r, handler := some (k r) }
  | leave : c.handler = some (.ret ()) → Move W isr c { c with handler := none }

theorem Move.thread {c c' : Pool W L ι α} (h : Move W isr c c') : c'.thread = c.thread := by
  cases h <;> rfl

def Child (p' p : Thread L Ans α) : Prop :=
  ∃ op k, p = .call op k ∧ ∃ r, p' = k r

theorem wellFounded_child :
    WellFounded (Child : Thread L Ans α → Thread L Ans α → Prop) := by
  constructor
  intro p
  induction p with
  | ret a =>
    constructor
    rintro _ ⟨_, _, heq, _⟩
    contradiction
  | call op k ih =>
    constructor
    rintro _ ⟨_, _, heq, r, rfl⟩
    cases heq
    apply ih

variable [DecidableEq L] [DecidableEq ι]

inductive Turn (W : World Op Ans) (c : Pool W L ι α) (i : ι) : Pool W L ι α → Prop where
  | acquire : c.thread i = .call (.acquire l) k → c.owner l = none →
      Turn W c i { c with
        owner := Function.update c.owner l (some i)
        thread := Function.update c.thread i (k ()) }
  | tryAcquire : c.thread i = .call (.tryAcquire l) k → c.owner l = none →
      Turn W c i { c with
        owner := Function.update c.owner l (some i)
        thread := Function.update c.thread i (k true) }
  | taken : c.thread i = .call (.tryAcquire l) k → c.owner l = some j →
      Turn W c i { c with thread := Function.update c.thread i (k false) }
  | release : c.thread i = .call (.release l) k →
      Turn W c i { c with
        owner := Function.update c.owner l none
        thread := Function.update c.thread i (k ()) }
  | perform : c.thread i = .call (.perform op) k → c.handler = none → W.admits op c.state r →
      Turn W c i { c with
        state := W.next op c.state r
        thread := Function.update c.thread i (k r) }

inductive Reachable (W : World Op Ans) (isr : Prog Op Ans Unit) (s₀ : W.State)
    (threads : ι → Thread L Ans α) : Pool W L ι α → Prop where
  | start : Reachable W isr s₀ threads ⟨s₀, fun _ => none, threads, none⟩
  | move : Reachable W isr s₀ threads c → Move W isr c c' → Reachable W isr s₀ threads c'
  | turn : Reachable W isr s₀ threads c → Turn W c i c' → Reachable W isr s₀ threads c'

/-! Threads that take their locks in order. -/

section Ordered

variable {O : Type} [Preorder O] {level : L → O} {c c' : Pool W L ι α} {i : ι}

/--
The thread waits only for locks above all locks that it has taken, and it keeps none in the end.
-/
def Ordered (level : L → O) (p : Thread L Ans α) (taken : Set L) : Prop :=
  match p with
  | .ret _ => taken = ∅
  | .call (.acquire l) k =>
    (∀ l' ∈ taken, level l' < level l) ∧ Ordered level (k ()) (insert l taken)
  | .call (.tryAcquire l) k =>
    Ordered level (k true) (insert l taken) ∧ Ordered level (k false) taken
  | .call (.release l) k => l ∈ taken ∧ Ordered level (k ()) (taken \ {l})
  | .call (.perform _) k => ∀ r, Ordered level (k r) taken

omit [DecidableEq L] [DecidableEq ι] in
theorem ordered_tryAcquire_bind {l : L} {f : Bool → Thread L Ans α} {taken : Set L} :
    Ordered level (Thread.tryAcquire l >>= f) taken
      ↔ Ordered level (f true) (insert l taken) ∧ Ordered level (f false) taken := by
  rfl

def AllOrdered (level : L → O) (c : Pool W L ι α) : Prop :=
  ∀ i, Ordered level (c.thread i) (held c.owner i)

omit [DecidableEq L] in
theorem AllOrdered.update {owner : L → Option ι} {p : Thread L Ans α} {s : W.State}
    (h : AllOrdered level c) (hp : Ordered level p (held owner i))
    (howner : ∀ j, j ≠ i → held owner j = held c.owner j) :
    AllOrdered level
      { c with state := s, owner := owner, thread := Function.update c.thread i p } := by
  intro j
  by_cases heq : j = i
  . subst heq
    simp only [Function.update_self]
    apply hp
  . simp only [Function.update_of_ne heq, howner j heq]
    apply h

theorem AllOrdered.turn (h : AllOrdered level c) (hturn : Turn W c i c') : AllOrdered level c' := by
  have hi := h i
  cases hturn with
  | acquire hthread hl =>
    rw [hthread] at hi
    apply h.update
    . rw [held_acquire]
      apply hi.2
    . intro j hne
      apply held_acquire_ne hl hne
  | tryAcquire hthread hl =>
    rw [hthread] at hi
    apply h.update
    . rw [held_acquire]
      apply hi.1
    . intro j hne
      apply held_acquire_ne hl hne
  | taken hthread hl =>
    rw [hthread] at hi
    apply h.update hi.2
    intro j _
    rfl
  | release hthread =>
    rw [hthread] at hi
    apply h.update
    . rw [held_release]
      apply hi.2
    . intro j hne
      apply held_release_ne hi.1 hne
  | perform hthread _ _ =>
    rw [hthread] at hi
    apply h.update (hi _)
    intro j _
    rfl

omit [DecidableEq L] [DecidableEq ι] in
theorem AllOrdered.move (h : AllOrdered level c) (hmove : Move W isr c c') :
    AllOrdered level c' := by
  cases hmove <;> apply h

theorem Reachable.allOrdered {s₀ : W.State} {threads : ι → Thread L Ans α}
    (hthreads : ∀ i, Ordered level (threads i) ∅) (hc : Reachable W isr s₀ threads c) :
    AllOrdered level c := by
  induction hc with
  | start =>
    intro i
    have hheld : held (fun _ : L => none) i = ∅ := by
      ext l
      simp [held]
    simp only [hheld]
    apply hthreads
  | move _ hmove ih => exact ih.move hmove
  | turn _ hturn ih => exact ih.turn hturn

/--
Whoever waits for a lock waits for a thread that can go on, or that itself waits for a lock above
it.
-/
theorem AllOrdered.waiting [WellFoundedGT O] (h : AllOrdered level c)
    (hanswer : ∀ op s, ∃ r, W.admits op s r) (hidle : c.handler = none) (l : L) (i : ι)
    (hl : c.owner l = some i) : ∃ j c', Turn W c j c' := by
  -- the induction is on the level of the lock, from above
  generalize ho : level l = o
  induction o using WellFoundedGT.induction generalizing l i with
  | ind o ih =>
    have hi := h i
    cases hthread : c.thread i with
    | ret a =>
      rw [hthread] at hi
      have hmem : l ∈ held c.owner i := hl
      rw [hi] at hmem
      contradiction
    | call op k =>
      cases op with
      | acquire l' =>
        cases hl' : c.owner l' with
        | none => exact ⟨i, _, .acquire hthread hl'⟩
        | some j =>
          rw [hthread] at hi
          apply ih (level l') _ l' j hl' rfl
          rw [← ho]
          apply hi.1 l hl
      | tryAcquire l' =>
        cases hl' : c.owner l' with
        | none => exact ⟨i, _, .tryAcquire hthread hl'⟩
        | some j => exact ⟨i, _, .taken hthread hl'⟩
      | release l' => exact ⟨i, _, .release hthread⟩
      | perform op =>
        rcases hanswer op c.state with ⟨r, hr⟩
        exact ⟨i, _, .perform hthread hidle hr⟩

theorem AllOrdered.progress [WellFoundedGT O] (h : AllOrdered level c)
    (hanswer : ∀ op s, ∃ r, W.admits op s r) (hidle : c.handler = none)
    (hi : ∀ a, c.thread i ≠ .ret a) : ∃ j c', Turn W c j c' := by
  cases hthread : c.thread i with
  | ret a => exact absurd hthread (hi a)
  | call op k =>
    cases op with
    | acquire l =>
      cases hl : c.owner l with
      | none => exact ⟨i, _, .acquire hthread hl⟩
      | some j => apply h.waiting hanswer hidle l j hl
    | tryAcquire l =>
      cases hl : c.owner l with
      | none => exact ⟨i, _, .tryAcquire hthread hl⟩
      | some j => exact ⟨i, _, .taken hthread hl⟩
    | release l => exact ⟨i, _, .release hthread⟩
    | perform op =>
      rcases hanswer op c.state with ⟨r, hr⟩
      exact ⟨i, _, .perform hthread hidle hr⟩

end Ordered

/-! All threads return. -/

/--
`P` holds in the end as long as a thread takes a turn again and again, whichever thread and whatever
happens between the turns. Between two runs of the handler some thread can take a turn.
-/
inductive Inevitable (W : World Op Ans) (isr : Prog Op Ans Unit) (P : Pool W L ι α → Prop) :
    Pool W L ι α → Prop where
  | now : P c → Inevitable W isr P c
  | later :
      (∀ c', Relation.ReflTransGen (Move W isr) c c' → c'.handler = none →
        ∃ i c'', Turn W c' i c'') →
      (∀ c' i c'', Relation.ReflTransGen (Move W isr) c c' → Turn W c' i c'' →
        Inevitable W isr P c'') →
      Inevitable W isr P c

def AllReturned (c : Pool W L ι α) : Prop := ∀ i, ∃ a, c.thread i = .ret a

def Fewer (threads' threads : ι → Thread L Ans α) : Prop :=
  ∃ i p, threads' = Function.update threads i p ∧ Child p (threads i)

omit [DecidableEq L] in
theorem wellFounded_fewer [Finite ι] :
    WellFounded (Fewer : (ι → Thread L Ans α) → (ι → Thread L Ans α) → Prop) := by
  apply Subrelation.wf _
    (Pi.Lex.wellFounded (WellOrderingRel (α := ι)) fun _ => wellFounded_child)
  rintro threads' threads ⟨i, p, rfl, hchild⟩
  refine ⟨i, ?_, ?_⟩
  . intro j hlt
    apply Function.update_of_ne
    rintro rfl
    exact irrefl_of WellOrderingRel j hlt
  . rw [Function.update_self]
    apply hchild

theorem Turn.fewer {c c' : Pool W L ι α} {i : ι} (h : Turn W c i c') :
    Fewer c'.thread c.thread := by
  cases h with
  | acquire hthread _ | tryAcquire hthread _ | taken hthread _ | release hthread
  | perform hthread _ _ =>
    exact ⟨i, _, rfl, _, _, hthread, _, rfl⟩

theorem AllOrdered.inevitable {O : Type} [Preorder O] [WellFoundedGT O] [Finite ι]
    {level : L → O} {c : Pool W L ι α} (hanswer : ∀ op s, ∃ r, W.admits op s r) (h : AllOrdered level c) :
    Inevitable W isr AllReturned c := by
  generalize hthreads : c.thread = threads
  have hwf : WellFounded (Fewer : (ι → Thread L Ans α) → (ι → Thread L Ans α) → Prop) :=
    wellFounded_fewer
  induction threads using hwf.induction generalizing c with
  | h threads ih =>
    by_cases hreturned : AllReturned c
    . exact .now hreturned
    . have hkept : ∀ c', Relation.ReflTransGen (Move W isr) c c' →
          AllOrdered level c' ∧ c'.thread = threads := by
        intro c' hmoves
        induction hmoves with
        | refl => exact ⟨h, hthreads⟩
        | tail _ hmove ih => exact ⟨ih.1.move hmove, hmove.thread.trans ih.2⟩
      apply Inevitable.later
      . intro c' hmoves hidle
        have hnot : ∃ i, ∀ a, c'.thread i ≠ .ret a := by
          simpa only [AllReturned, not_forall, not_exists, hthreads, (hkept c' hmoves).2]
            using hreturned
        rcases hnot with ⟨i, hi⟩
        apply (hkept c' hmoves).1.progress hanswer hidle hi
      . intro c' i c'' hmoves hturn
        apply ih c''.thread _ ((hkept c' hmoves).1.turn hturn) rfl
        rw [← (hkept c' hmoves).2]
        apply hturn.fewer

end Pool

/-! What is played with threads. -/

inductive PoolTurn (ι : Type) where
  | env
  | handler
  | thread (i : ι)
  deriving DecidableEq, Repr

namespace Player

open Pool

variable {W : World Op Ans} (player : Player W) (isr : Prog Op Ans Unit) [DecidableEq L]
  [DecidableEq ι]

/--
One step of the world, of the handler or of a thread. A turn that is not possible is skipped.
-/
def poolTurn (t : PoolTurn ι) (c : Pool W L ι α) : Pool W L ι α :=
  match t with
  | .env =>
    match player.move c.state with
    | some s => { c with state := s }
    | none => c
  | .handler =>
    match c.handler with
    | none => { c with handler := some isr }
    | some (.ret ()) => { c with handler := none }
    | some (.call op k) =>
      match player.answer op c.state with
      | some r => { c with state := W.next op c.state r, handler := some (k r) }
      | none => c
  | .thread i =>
    match c.thread i with
    | .ret _ => c
    | .call (.acquire l) k =>
      match c.owner l with
      | none =>
        { c with
          owner := Function.update c.owner l (some i)
          thread := Function.update c.thread i (k ()) }
      | some _ => c
    | .call (.tryAcquire l) k =>
      match c.owner l with
      | none =>
        { c with
          owner := Function.update c.owner l (some i)
          thread := Function.update c.thread i (k true) }
      | some _ => { c with thread := Function.update c.thread i (k false) }
    | .call (.release l) k =>
      { c with
        owner := Function.update c.owner l none
        thread := Function.update c.thread i (k ()) }
    | .call (.perform op) k =>
      match c.handler, player.answer op c.state with
      | none, some r =>
        { c with state := W.next op c.state r, thread := Function.update c.thread i (k r) }
      | _, _ => c

def poolPlay (turns : List (PoolTurn ι)) (c : Pool W L ι α) : Pool W L ι α :=
  turns.foldl (fun c t => player.poolTurn isr t c) c

variable {s₀ : W.State} {threads : ι → Thread L Ans α}

theorem reachable_poolTurn {c : Pool W L ι α} (t : PoolTurn ι)
    (hc : Pool.Reachable W isr s₀ threads c) :
    Pool.Reachable W isr s₀ threads (player.poolTurn isr t c) := by
  unfold poolTurn
  split
  . split
    . next hs => exact hc.move (.env (player.env_move _ _ hs))
    . apply hc
  . split
    . next hidle => exact hc.move (.enter hidle)
    . next hhandler => exact hc.move (.leave hhandler)
    . next hhandler =>
      split
      . next hr => exact hc.move (.handler hhandler (player.admits_answer _ _ _ hr))
      . apply hc
  . split
    . apply hc
    . next hthread =>
      split
      . next hl => exact hc.turn (.acquire hthread hl)
      . apply hc
    . next hthread =>
      split
      . next hl => exact hc.turn (.tryAcquire hthread hl)
      . next hl => exact hc.turn (.taken hthread hl)
    . next hthread => exact hc.turn (.release hthread)
    . next hthread =>
      split
      . next hidle hr => exact hc.turn (.perform hthread hidle (player.admits_answer _ _ _ hr))
      . apply hc

theorem reachable_poolPlay (turns : List (PoolTurn ι)) :
    Pool.Reachable W isr s₀ threads
      (player.poolPlay isr turns ⟨s₀, fun _ => none, threads, none⟩) := by
  suffices h : ∀ c, Pool.Reachable W isr s₀ threads c →
      Pool.Reachable W isr s₀ threads (player.poolPlay isr turns c) from h _ .start
  induction turns with
  | nil =>
    intro c hc
    apply hc
  | cons t turns ih =>
    intro c hc
    apply ih
    apply player.reachable_poolTurn isr t hc

end Player

end Interaction
