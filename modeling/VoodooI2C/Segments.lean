import Mathlib.Data.List.Basic

/-!
This module contains positions in the concatenation of a list of segments, for loops that go through
the segments one after the other and can stop inside a segment and resume there later. A position is
given by the index of the current segment and the number of elements that are left of it.
-/

namespace Segments

variable {α : Type} {segs : List (List α)} {seg : List α} {n i left : Nat}

def rest (segs : List (List α)) (i left : Nat) : List α :=
  match segs.drop i with
  | [] => []
  | seg :: later => seg.drop (seg.length - left) ++ later.flatten

theorem rest_eq (h : segs[i]? = some seg) :
    rest segs i left = seg.drop (seg.length - left) ++ (segs.drop (i + 1)).flatten := by
  rcases List.getElem?_eq_some_iff.mp h with ⟨hi, heq⟩
  unfold rest
  rw [List.drop_eq_getElem_cons hi, heq]

theorem rest_zero (h : segs[i]? = some seg) :
    rest segs i 0 = (segs.drop (i + 1)).flatten := by
  rw [rest_eq h]
  simp

theorem rest_length (h : segs[i]? = some seg) :
    rest segs i seg.length = (segs.drop i).flatten := by
  rcases List.getElem?_eq_some_iff.mp h with ⟨hi, heq⟩
  rw [rest_eq h, List.drop_eq_getElem_cons hi, heq]
  simp

theorem rest_succ (h : segs[i]? = some seg) (hleft : left < seg.length) :
    rest segs i (left + 1) = seg[seg.length - (left + 1)] :: rest segs i left := by
  have hlt : seg.length - (left + 1) < seg.length := by omega
  have hsucc : seg.length - (left + 1) + 1 = seg.length - left := by omega
  rw [rest_eq h, rest_eq h, List.drop_eq_getElem_cons hlt, hsucc]
  simp

/--
`n` elements of the concatenation are done, what remains are `left` elements of segment `i` and all
later segments.
-/
structure At (segs : List (List α)) (n i left : Nat) : Prop where
  le : n ≤ segs.flatten.length
  drop : segs.flatten.drop n = rest segs i left

structure Before (segs : List (List α)) (n i : Nat) : Prop where
  le : n ≤ segs.flatten.length
  drop : segs.flatten.drop n = (segs.drop i).flatten

theorem Before.zero : Before segs 0 0 := by
  constructor <;> simp

theorem Before.at (h : Before segs n i) (hseg : segs[i]? = some seg) :
    At segs n i seg.length := by
  constructor
  . apply h.le
  . rw [h.drop, rest_length hseg]

theorem Before.skip (h : Before segs n i) (hseg : segs[i]? = some []) :
    Before segs n (i + 1) := by
  rcases List.getElem?_eq_some_iff.mp hseg with ⟨hi, heq⟩
  constructor
  . apply h.le
  . rw [h.drop, List.drop_eq_getElem_cons hi, heq]
    simp

theorem Before.finished (h : Before segs n i) (hi : segs.length ≤ i) :
    n = segs.flatten.length := by
  have hdrop := h.drop
  rw [List.drop_eq_nil_of_le hi, List.flatten_nil, List.drop_eq_nil_iff] at hdrop
  have := h.le
  omega

theorem At.before_succ (h : At segs n i 0) (hseg : segs[i]? = some seg) :
    Before segs n (i + 1) := by
  constructor
  . apply h.le
  . rw [h.drop, rest_zero hseg]

theorem At.getElem? (h : At segs n i (left + 1)) (hseg : segs[i]? = some seg)
    (hleft : left < seg.length) :
    segs.flatten[n]? = some (seg[seg.length - (left + 1)]) := by
  have hdrop := congrArg List.head? h.drop
  rw [rest_succ hseg hleft, List.head?_drop] at hdrop
  simpa using hdrop

theorem At.succ (h : At segs n i (left + 1)) (hseg : segs[i]? = some seg)
    (hleft : left < seg.length) : At segs (n + 1) i left := by
  have hlt : n < segs.flatten.length := by
    by_contra hge
    have hdrop := h.drop
    rw [rest_succ hseg hleft, List.drop_eq_nil_of_le (by omega)] at hdrop
    simp at hdrop
  constructor
  . omega
  . have hdrop := congrArg List.tail h.drop
    rw [rest_succ hseg hleft, List.tail_drop] at hdrop
    simpa using hdrop

theorem At.lt (h : At segs n i (left + 1)) (hseg : segs[i]? = some seg)
    (hleft : left < seg.length) : n < segs.flatten.length := by
  have := (h.succ hseg hleft).le
  omega

end Segments
