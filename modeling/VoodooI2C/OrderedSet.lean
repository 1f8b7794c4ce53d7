import Mathlib.Data.List.Sort

/-!
This module contains sets whose objects are kept in the order of their priority, objects of the same
priority in the order in which they were added.
-/

namespace OrderedSet

variable {α : Type} {order : α → α → Int} {l arrived : List α} {a b : α}

/--
`order a b` is not negative if `a` stands before `b` or they have the same priority.
-/
structure Priority (order : α → α → Int) : Prop where
  refl : ∀ a, 0 ≤ order a a
  total : ∀ a b, order a b < 0 → 0 ≤ order b a
  trans : ∀ a b c, 0 ≤ order a b → 0 ≤ order b c → 0 ≤ order a c

def Tied (order : α → α → Int) (a b : α) : Prop := 0 ≤ order a b ∧ 0 ≤ order b a

instance : Decidable (Tied order a b) := inferInstanceAs (Decidable (_ ∧ _))

/--
The objects that came, by priority, objects of the same priority in the order in which they came.
-/
structure Arranged (order : α → α → Int) (arrived l : List α) : Prop where
  nodup : arrived.Nodup
  perm : l.Perm arrived
  sorted : l.Pairwise (fun a b => 0 ≤ order a b)
  ties : ∀ a, l.filter (Tied order a) = arrived.filter (Tied order a)

theorem arranged_nil : Arranged order [] [] where
  nodup := List.nodup_nil
  perm := .refl _
  sorted := .nil
  ties _ := rfl

theorem pairwise_orderedInsert (ho : Priority order) (h : l.Pairwise (fun a b => 0 ≤ order a b)) :
    (l.orderedInsert (fun a b => order b a < 0) a).Pairwise (fun a b => 0 ≤ order a b) := by
  induction l with
  | nil => simp
  | cons b l ih =>
    rw [List.pairwise_cons] at h
    rw [List.orderedInsert_cons]
    split
    . next hlt =>
      have hab := ho.total b a hlt
      rw [List.pairwise_cons, List.pairwise_cons]
      refine ⟨?_, h⟩
      intro c hc
      cases hc with
      | head => apply hab
      | tail _ hc => apply ho.trans a b c hab (h.1 c hc)
    . next hnlt =>
      rw [List.pairwise_cons]
      refine ⟨?_, ih h.2⟩
      intro c hc
      rw [List.mem_orderedInsert] at hc
      cases hc with
      | inl hc =>
        rw [hc]
        omega
      | inr hc => apply h.1 c hc

theorem filter_orderedInsert (ho : Priority order) (h : l.Pairwise (fun a b => 0 ≤ order a b)) (c : α) :
    (l.orderedInsert (fun a b => order b a < 0) a).filter (Tied order c)
      = l.filter (Tied order c) ++ [a].filter (Tied order c) := by
  induction l with
  | nil => simp
  | cons b l ih =>
    rw [List.pairwise_cons] at h
    rw [List.orderedInsert_cons]
    split
    . next hlt =>
      by_cases hc : Tied order c a
      . have hnone : (b :: l).filter (Tied order c) = [] := by
          rw [List.filter_eq_nil_iff]
          intro d hd
          simp only [decide_eq_true_eq]
          intro hcd
          have hda := ho.trans d c a hcd.2 hc.1
          cases hd with
          | head => omega
          | tail _ hd =>
            have := ho.trans b d a (h.1 d hd) hda
            omega
        rw [List.filter_cons, hnone]
        simp [hc]
      . rw [List.filter_cons, if_neg (by simpa using hc)]
        simp [hc]
    . rw [List.filter_cons, List.filter_cons, ih h.2]
      split <;> rfl

variable [DecidableEq α]

def containsObject (l : List α) (a : α) : Bool := a ∈ l

def setObject (order : α → α → Int) (l : List α) (a : α) : List α :=
  if containsObject l a then l else l.orderedInsert (fun a b => order b a < 0) a

def removeObject (l : List α) (a : α) : List α := l.erase a

def arrive (arrived : List α) (a : α) : List α := if a ∈ arrived then arrived else arrived ++ [a]

theorem Arranged.setObject (ho : Priority order) (h : Arranged order arrived l) :
    Arranged order (arrive arrived a) (setObject order l a) := by
  unfold arrive OrderedSet.setObject containsObject
  have hmem : a ∈ l ↔ a ∈ arrived := h.perm.mem_iff
  by_cases ha : a ∈ arrived
  . simp only [hmem, ha, decide_true, if_true]
    apply h
  . simp only [hmem, ha, decide_false, Bool.false_eq_true, if_false]
    constructor
    . rw [List.nodup_append]
      refine ⟨h.nodup, List.nodup_singleton a, ?_⟩
      intro b hb c hc
      rw [List.mem_singleton] at hc
      rw [hc]
      rintro rfl
      contradiction
    . apply (List.perm_orderedInsert _ a l).trans
      apply (h.perm.cons a).trans
      apply (List.perm_append_singleton a arrived).symm
    . apply pairwise_orderedInsert ho h.sorted
    . intro c
      rw [filter_orderedInsert ho h.sorted, List.filter_append, h.ties]

theorem Arranged.removeObject (h : Arranged order arrived l) :
    Arranged order (arrived.erase a) (removeObject l a) where
  nodup := h.nodup.erase a
  perm := h.perm.erase a
  sorted := h.sorted.sublist List.erase_sublist
  ties c := by
    have hl : l.Nodup := h.perm.nodup_iff.mpr h.nodup
    unfold OrderedSet.removeObject
    rw [hl.erase_eq_filter, h.nodup.erase_eq_filter, List.filter_comm, List.filter_comm _ _ arrived,
      h.ties]

theorem pairwise_idxOf (h : l.Nodup) : l.Pairwise (fun a b => l.idxOf a < l.idxOf b) := by
  rw [List.pairwise_iff_getElem]
  intro i j hi hj hij
  rw [h.idxOf_getElem i hi, h.idxOf_getElem j hj]
  apply hij

theorem Arranged.pairwise_idxOf (ho : Priority order) (h : Arranged order arrived l) :
    l.Pairwise (fun a b => Tied order a b → arrived.idxOf a < arrived.idxOf b) := by
  rw [List.pairwise_iff_forall_sublist]
  intro a b hab htied
  have hfilter : [a, b].filter (Tied order a) = [a, b] := by
    have ha : Tied order a a := ⟨ho.refl a, ho.refl a⟩
    simp [ha, htied]
  have hsub := hab.filter (Tied order a)
  rw [hfilter, h.ties] at hsub
  apply List.pairwise_iff_forall_sublist.mp (OrderedSet.pairwise_idxOf h.nodup)
  apply hsub.trans List.filter_sublist

end OrderedSet
