import VoodooI2C.Interaction.Locks
import VoodooI2C.Interaction.Trace

/-!
This module contains threads that perform the operations of a world only while they have taken one
and the same lock. What all of them do is what one main program does that runs the sections between
taking and releasing the lock one after the other.
-/

namespace Interaction

variable {L ι K Op : Type} {Ans : Op → Type} {α β : Type} {W : World Op Ans} {isr : Prog Op Ans Unit}

namespace Prog

def sequence (ps : List (Prog Op Ans Unit)) : Prog Op Ans Unit :=
  match ps with
  | [] => pure ()
  | p :: ps => p >>= fun _ => sequence ps

theorem sequence_concat (ps : List (Prog Op Ans Unit)) (p : Prog Op Ans Unit) :
    sequence (ps ++ [p]) = sequence ps >>= fun _ => p := by
  induction ps with
  | nil =>
    apply bind_ret
  | cons q ps ih =>
    unfold sequence
    rw [bind_assoc, ← ih]
    rfl

end Prog

namespace Pool

variable [DecidableEq L] [DecidableEq ι] {l : L}

def untilRelease (l : L) (p : Thread L Ans α) : Prog Op Ans Unit :=
  match p with
  | .ret _ => .ret ()
  | .call (.perform op) k => .call op fun r => untilRelease l (k r)
  | .call (.acquire _) k => untilRelease l (k ())
  | .call (.tryAcquire _) k => untilRelease l (k false)
  | .call (.release l') k => if l' = l then .ret () else untilRelease l (k ())

@[simp]
theorem untilRelease_perform_bind (op : Op) (f : Ans op → Thread L Ans α) :
    untilRelease l (Thread.perform op >>= f) = Prog.perform op >>= fun r => untilRelease l (f r) :=
  rfl

@[simp]
theorem untilRelease_acquire_bind (l' : L) (f : Unit → Thread L Ans α) :
    untilRelease l (Thread.acquire l' >>= f) = untilRelease l (f ()) :=
  rfl

@[simp]
theorem untilRelease_release_bind (l' : L) (f : Unit → Thread L Ans α) :
    untilRelease l (Thread.release l' >>= f)
      = if l' = l then pure () else untilRelease l (f ()) :=
  rfl

/--
The thread performs operations only while it has taken `l`. What it does from then on until it
releases `l` are the bodies of `ks` in this order, some may be missing. In between it never looks
whether a lock is taken.
-/
def Guarded (l : L) (body : K → Prog Op Ans Unit) (ks : List K) (p : Thread L Ans α)
    (taken : Prop) : Prop :=
  match p with
  | .ret _ => ¬ taken
  | .call (.perform _) k => taken ∧ ∀ r, Guarded l body ks (k r) taken
  | .call (.acquire l') k =>
    if l' = l then
      ¬ taken
        ∧ ∃ key rest, (key :: rest).Sublist ks ∧ untilRelease l (k ()) = body key
            ∧ Guarded l body rest (k ()) True
    else
      Guarded l body ks (k ()) taken
  | .call (.tryAcquire l') k => l' ≠ l ∧ ¬ taken ∧ ∀ b, Guarded l body ks (k b) False
  | .call (.release l') k =>
    if l' = l then taken ∧ Guarded l body ks (k ()) False else Guarded l body ks (k ()) taken

section Guarded

variable {body : K → Prog Op Ans Unit} {ks ks' : List K} {taken : Prop} {l' : L}

theorem guarded_perform_bind {op : Op} {f : Ans op → Thread L Ans α} :
    Guarded l body ks (Thread.perform op >>= f) taken
      ↔ taken ∧ ∀ r, Guarded l body ks (f r) taken := by
  rfl

theorem guarded_tryAcquire_bind {f : Bool → Thread L Ans α} :
    Guarded l body ks (Thread.tryAcquire l' >>= f) taken
      ↔ l' ≠ l ∧ ¬ taken ∧ ∀ b, Guarded l body ks (f b) False := by
  rfl

theorem guarded_acquire_bind {f : Unit → Thread L Ans α} :
    Guarded l body ks (Thread.acquire l >>= f) taken
      ↔ ¬ taken
        ∧ ∃ key rest, (key :: rest).Sublist ks ∧ untilRelease l (f ()) = body key
            ∧ Guarded l body rest (f ()) True := by
  apply iff_of_eq
  apply if_pos rfl

theorem guarded_acquire_bind_ne {f : Unit → Thread L Ans α} (h : l' ≠ l) :
    Guarded l body ks (Thread.acquire l' >>= f) taken ↔ Guarded l body ks (f ()) taken := by
  apply iff_of_eq
  apply if_neg h

theorem guarded_release_bind {f : Unit → Thread L Ans α} :
    Guarded l body ks (Thread.release l >>= f) taken
      ↔ taken ∧ Guarded l body ks (f ()) False := by
  apply iff_of_eq
  apply if_pos rfl

theorem guarded_release_bind_ne {f : Unit → Thread L Ans α} (h : l' ≠ l) :
    Guarded l body ks (Thread.release l' >>= f) taken ↔ Guarded l body ks (f ()) taken := by
  apply iff_of_eq
  apply if_neg h

theorem guarded_mono {p : Thread L Ans α} (h : Guarded l body ks p taken) (hks : ks.Sublist ks') :
    Guarded l body ks' p taken := by
  induction p generalizing ks ks' taken with
  | ret a => apply h
  | call op k ih =>
    cases op with
    | perform op => exact ⟨h.1, fun r => ih r (h.2 r) hks⟩
    | tryAcquire l' => exact ⟨h.1, h.2.1, fun b => ih b (h.2.2 b) hks⟩
    | acquire l' =>
      unfold Guarded at h ⊢
      split
      . next heq =>
        rw [if_pos heq] at h
        rcases h with ⟨hfree, key, rest, hsub, hbody, hk⟩
        exact ⟨hfree, key, rest, hsub.trans hks, hbody, hk⟩
      . next heq =>
        rw [if_neg heq] at h
        apply ih () h hks
    | release l' =>
      unfold Guarded at h ⊢
      split
      . next heq =>
        rw [if_pos heq] at h
        exact ⟨h.1, ih () h.2 hks⟩
      . next heq =>
        rw [if_neg heq] at h
        apply ih () h hks

end Guarded

def current (l : L) (c : Pool W L ι α) : Prog Op Ans Unit :=
  match c.owner l with
  | none => .ret ()
  | some i => untilRelease l (c.thread i)

def keysOf (keys : List (ι × K)) (i : ι) : List K :=
  keys.filterMap fun key => if key.1 = i then some key.2 else none

def begun (l : L) (c : Pool W L ι α) (i : ι) : List (ι × Prog Op Ans Unit) :=
  match c.thread i with
  | .call (.acquire l') k => if l' = l then [(i, untilRelease l (k ()))] else []
  | .call (.tryAcquire l') k =>
    if l' = l ∧ c.owner l = none then [(i, untilRelease l (k true))] else []
  | _ => []

/--
What the threads get to that are started in `s₀`. Whenever a thread has taken `l`, `taken` says which
one and what it does until it releases `l`. The operations that the threads have performed are `t`.
-/
inductive Ran (W : World Op Ans) (isr : Prog Op Ans Unit) (s₀ : W.State)
    (threads : ι → Thread L Ans α) (l : L) :
    List (ι × Prog Op Ans Unit) → List (Performed W) → Pool W L ι α → Prop where
  | start : Ran W isr s₀ threads l [] [] ⟨s₀, fun _ => none, threads, none⟩
  | move : Ran W isr s₀ threads l taken t c → Move W isr c c' → Ran W isr s₀ threads l taken t c'
  | lock : Ran W isr s₀ threads l taken t c → Turn W c i c' →
      (∀ op k, c.thread i ≠ .call (.perform op) k) →
      Ran W isr s₀ threads l (taken ++ begun l c i) t c'
  | perform : Ran W isr s₀ threads l taken t c → c.thread i = .call (.perform op) k →
      c.handler = none → W.admits op c.state r →
      Ran W isr s₀ threads l taken (t ++ [⟨op, c.state, r⟩])
        { c with state := W.next op c.state r, thread := Function.update c.thread i (k r) }

theorem Ran.reachable {s₀ : W.State} {threads : ι → Thread L Ans α}
    {taken : List (ι × Prog Op Ans Unit)} {t : List (Performed W)} {c : Pool W L ι α}
    (h : Ran W isr s₀ threads l taken t c) : Reachable W isr s₀ threads c := by
  induction h with
  | start => exact .start
  | move _ hmove ih => exact ih.move hmove
  | lock _ hturn _ ih => exact ih.turn hturn
  | perform _ hthread hidle hr ih => exact ih.turn (.perform hthread hidle hr)

theorem Reachable.exists_ran {s₀ : W.State} {threads : ι → Thread L Ans α} {c : Pool W L ι α} (l : L)
    (h : Reachable W isr s₀ threads c) : ∃ taken t, Ran W isr s₀ threads l taken t c := by
  induction h with
  | start => exact ⟨[], [], .start⟩
  | move _ hmove ih =>
    rcases ih with ⟨taken, t, ih⟩
    exact ⟨taken, t, ih.move hmove⟩
  | turn _ hturn ih =>
    rcases ih with ⟨taken, t, ih⟩
    cases hturn with
    | perform hthread hidle hr => exact ⟨_, _, ih.perform hthread hidle hr⟩
    | acquire hthread hfree => exact ⟨_, _, ih.lock (.acquire hthread hfree) (by simp [hthread])⟩
    | tryAcquire hthread hfree =>
      exact ⟨_, _, ih.lock (.tryAcquire hthread hfree) (by simp [hthread])⟩
    | taken hthread howner => exact ⟨_, _, ih.lock (.taken hthread howner) (by simp [hthread])⟩
    | release hthread => exact ⟨_, _, ih.lock (.release hthread) (by simp [hthread])⟩

/--
The run of the threads is the run of the sections `keys` one after the other, the last one is the one
that the owner of the lock is in. The sections `rest` of each thread are still to come.
-/
structure Serial (W : World Op Ans) (isr : Prog Op Ans Unit) (s₀ : W.State) (l : L)
    (body : K → Prog Op Ans Unit) (sections : ι → List K) (keys : List (ι × K))
    (rest : ι → List K) (taken : List (ι × Prog Op Ans Unit)) (t : List (Performed W))
    (c : Pool W L ι α) : Prop where
  guarded : ∀ i, Guarded l body (rest i) (c.thread i) (c.owner l = some i)
  order : ∀ i, (keysOf keys i ++ rest i).Sublist (sections i)
  last : ∀ i, c.owner l = some i → ∃ key, keys.getLast? = some (i, key)
  acquired : taken = keys.map fun key => (key.1, body key.2)
  run : Recorded W isr s₀ (Prog.sequence (keys.map fun key => body key.2)) t
    ⟨c.state, current l c, c.handler⟩

variable {s₀ : W.State} {body : K → Prog Op Ans Unit} {sections : ι → List K}
  {c c' : Pool W L ι α} {i : ι} {keys : List (ι × K)} {rest : ι → List K} {q : Thread L Ans α}
  {owner : L → Option ι} {taken : List (ι × Prog Op Ans Unit)} {t : List (Performed W)}

theorem Serial.move (h : Serial W isr s₀ l body sections keys rest taken t c)
    (hmove : Move W isr c c') :
    Serial W isr s₀ l body sections keys rest taken t c' := by
  cases hmove with
  | env henv => exact { h with run := h.run.other (.env henv) rfl }
  | enter hidle =>
    have hrun := h.run
    rw [hidle] at hrun
    exact { h with run := hrun.other .enter rfl }
  | handler hhandler hr =>
    have hrun := h.run
    rw [hhandler] at hrun
    exact { h with run := hrun.other (.handler hr) rfl }
  | leave hhandler =>
    have hrun := h.run
    rw [hhandler] at hrun
    exact { h with run := hrun.other .leave rfl }

theorem guarded_update (owner : L → Option ι) (i : ι) {T : Prop}
    {rest' : List K} (h : ∀ i, Guarded l body (rest i) (c.thread i) (c.owner l = some i))
    (hq : Guarded l body rest' q T) (hT : T = (owner l = some i))
    (howner : ∀ j, j ≠ i → (owner l = some j ↔ c.owner l = some j)) (j : ι) :
    Guarded l body (Function.update rest i rest' j) (Function.update c.thread i q j)
      (owner l = some j) := by
  by_cases heq : j = i
  . subst heq
    simp only [Function.update_self, ← hT]
    apply hq
  . simp only [Function.update_of_ne heq, howner j heq]
    apply h

theorem Serial.skip (h : Serial W isr s₀ l body sections keys rest taken t c)
    (howner : owner l = c.owner l)
    (hq : Guarded l body (rest i) q (c.owner l = some i))
    (huntil : c.owner l = some i → untilRelease l q = untilRelease l (c.thread i)) :
    Serial W isr s₀ l body sections keys rest taken t
      { c with owner := owner, thread := Function.update c.thread i q } where
  guarded j := by
    have hj := guarded_update owner i h.guarded hq (by rw [howner]) (by simp [howner]) j
    rwa [Function.update_eq_self] at hj
  order := h.order
  acquired := h.acquired
  last j hj := h.last j (howner.symm.trans hj)
  run := by
    have hcurrent : current l { c with owner := owner, thread := Function.update c.thread i q }
        = current l c := by
      unfold current
      simp only [howner]
      split
      . rfl
      . next j hl =>
        by_cases heq : j = i
        . subst heq
          rw [Function.update_self, huntil hl]
        . rw [Function.update_of_ne heq]
    rw [hcurrent]
    apply h.run

theorem Serial.acquire {k : Unit → Thread L Ans α}
    (h : Serial W isr s₀ l body sections keys rest taken t c)
    (hthread : c.thread i = .call (.acquire l) k) (hfree : c.owner l = none) :
    ∃ keys' rest', Serial W isr s₀ l body sections keys' rest' (taken ++ begun l c i) t { c with
      owner := Function.update c.owner l (some i)
      thread := Function.update c.thread i (k ()) } := by
  have hi := h.guarded i
  rw [hthread] at hi
  simp only [Guarded, if_pos] at hi
  rcases hi with ⟨_, key, rest', hsub, hbody, hk⟩
  refine ⟨keys ++ [(i, key)], Function.update rest i rest', ?_⟩
  constructor
  . apply guarded_update _ i h.guarded hk
    . simp
    . intro j hne
      simp [hfree, Ne.symm hne]
  . intro j
    unfold keysOf
    rw [List.filterMap_append]
    apply List.Sublist.trans _ (h.order j)
    by_cases heq : j = i
    . subst heq
      simp only [Function.update_self, List.filterMap_cons, if_pos, List.filterMap_nil,
        List.append_assoc, List.singleton_append]
      apply hsub.append_left
    . simp only [Function.update_of_ne heq, List.filterMap_cons, if_neg (Ne.symm heq),
        List.filterMap_nil, List.append_nil]
      apply List.Sublist.refl
  . intro j hj
    simp only [Function.update_self, Option.some.injEq] at hj
    subst hj
    exact ⟨_, List.getLast?_concat⟩
  . unfold begun
    rw [hthread, h.acquired, List.map_append]
    simp only [if_pos, hbody, List.map_cons, List.map_nil]
  . have hrun := h.run
    simp only [current, hfree] at hrun
    simp only [current, Function.update_self, List.map_append, List.map_cons, List.map_nil,
      Prog.sequence_concat, hbody]
    apply hrun.bind

theorem Serial.release {k : Unit → Thread L Ans α}
    (h : Serial W isr s₀ l body sections keys rest taken t c)
    (hthread : c.thread i = .call (.release l) k) :
    Serial W isr s₀ l body sections keys rest taken t { c with
      owner := Function.update c.owner l none
      thread := Function.update c.thread i (k ()) } := by
  have hi := h.guarded i
  rw [hthread] at hi
  simp only [Guarded, if_pos] at hi
  rcases hi with ⟨hl, hk⟩
  constructor
  . intro j
    have hj := guarded_update (Function.update c.owner l none) i h.guarded hk (by simp)
      (by
        intro j hne
        simp [hl, Ne.symm hne]) j
    rwa [Function.update_eq_self] at hj
  . apply h.order
  . intro j hj
    simp at hj
  . apply h.acquired
  . have hrun := h.run
    simp only [current, hl, hthread, untilRelease, if_pos] at hrun
    simp only [current, Function.update_self]
    apply hrun

theorem Serial.perform {op : Op} {k : Ans op → Thread L Ans α} {r : Ans op}
    (h : Serial W isr s₀ l body sections keys rest taken t c)
    (hthread : c.thread i = .call (.perform op) k)
    (hidle : c.handler = none) (hr : W.admits op c.state r) :
    Serial W isr s₀ l body sections keys rest taken (t ++ [⟨op, c.state, r⟩]) { c with
      state := W.next op c.state r
      thread := Function.update c.thread i (k r) } := by
  have hi := h.guarded i
  rw [hthread] at hi
  rcases hi with ⟨hl, hk⟩
  constructor
  . intro j
    have hj := guarded_update c.owner i h.guarded (hk r) rfl (by simp) j
    rwa [Function.update_eq_self] at hj
  . apply h.order
  . apply h.last
  . apply h.acquired
  . have hrun := h.run
    simp only [current, hl, hthread, untilRelease, hidle] at hrun
    simp only [current, hl, Function.update_self, hidle]
    exact hrun.step (.main hr)

omit [DecidableEq ι] in
theorem begun_eq_nil (hacquire : ∀ k, c.thread i ≠ .call (.acquire l) k)
    (htry : ∀ k, c.thread i ≠ .call (.tryAcquire l) k) : begun l c i = [] := by
  unfold begun
  split
  . next l' k hthread =>
    apply if_neg
    rintro rfl
    exact hacquire k hthread
  . next l' k hthread =>
    apply if_neg
    rintro ⟨rfl, _⟩
    exact htry k hthread
  . rfl

theorem Serial.lock (h : Serial W isr s₀ l body sections keys rest taken t c) (hturn : Turn W c i c')
    (hnot : ∀ op k, c.thread i ≠ .call (.perform op) k) :
    ∃ keys' rest', Serial W isr s₀ l body sections keys' rest' (taken ++ begun l c i) t c' := by
  have hi := h.guarded i
  cases hturn with
  | @acquire l' k hthread hfree =>
    by_cases heq : l' = l
    . subst heq
      apply h.acquire hthread hfree
    . rw [hthread] at hi
      simp only [Guarded, if_neg heq] at hi
      rw [begun_eq_nil (by simp [hthread, heq]) (by simp [hthread]), List.append_nil]
      refine ⟨keys, rest, h.skip ?_ hi ?_⟩
      . rw [Function.update_of_ne (Ne.symm heq)]
      . intro _
        rw [hthread]
        rfl
  | @tryAcquire l' k hthread _ =>
    rw [hthread] at hi
    rcases hi with ⟨hne, hl, hk⟩
    rw [begun_eq_nil (by simp [hthread]) (by simp [hthread, hne]), List.append_nil]
    refine ⟨keys, rest, h.skip ?_ ?_ ?_⟩
    . rw [Function.update_of_ne (Ne.symm hne)]
    . rw [eq_false hl]
      apply hk
    . intro heq
      exact absurd heq hl
  | @taken l' j k hthread _ =>
    rw [hthread] at hi
    rcases hi with ⟨hne, hl, hk⟩
    rw [begun_eq_nil (by simp [hthread]) (by simp [hthread, hne]), List.append_nil]
    refine ⟨keys, rest, h.skip rfl ?_ ?_⟩
    . rw [eq_false hl]
      apply hk
    . intro heq
      exact absurd heq hl
  | @release l' k hthread =>
    rw [begun_eq_nil (by simp [hthread]) (by simp [hthread]), List.append_nil]
    by_cases heq : l' = l
    . subst heq
      exact ⟨keys, rest, h.release hthread⟩
    . rw [hthread] at hi
      simp only [Guarded, if_neg heq] at hi
      refine ⟨keys, rest, h.skip ?_ hi ?_⟩
      . rw [Function.update_of_ne (Ne.symm heq)]
      . intro _
        rw [hthread]
        simp only [untilRelease, if_neg heq]
  | perform hthread _ _ => exact absurd hthread (hnot _ _)

/--
Whatever the threads do is done by a single thread, too.
-/
theorem Ran.serial {threads : ι → Thread L Ans α}
    (hthreads : ∀ i, Guarded l body (sections i) (threads i) False)
    (hc : Ran W isr s₀ threads l taken t c) :
    ∃ keys rest, Serial W isr s₀ l body sections keys rest taken t c := by
  induction hc with
  | start =>
    refine ⟨[], sections, ?_⟩
    constructor
    . intro i
      simp only [reduceCtorEq]
      apply hthreads
    . intro i
      apply List.Sublist.refl
    . intro i hi
      contradiction
    . rfl
    . exact .start
  | move _ hmove ih =>
    rcases ih with ⟨keys, rest, ih⟩
    exact ⟨keys, rest, ih.move hmove⟩
  | lock _ hturn hnot ih =>
    rcases ih with ⟨keys, rest, ih⟩
    apply ih.lock hturn hnot
  | perform _ hthread hidle hr ih =>
    rcases ih with ⟨keys, rest, ih⟩
    exact ⟨keys, rest, ih.perform hthread hidle hr⟩

end Pool

end Interaction
