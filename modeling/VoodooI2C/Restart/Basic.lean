import VoodooI2C.Transfer.Extend
import Mathlib.Algebra.GroupWithZero.Nat

/-!
This module contains what the log of a transfer says about the restart bits: which words begin a
message and whether the FIFOs had room when their levels were read.
-/

namespace VoodooI2C

variable {list : List BusMessage} {d : BusDevice} {m : BusMessage} {log : List Event} {e : Event}
  {i : Nat} {txflr rxflr : Word}

def firstWord (list : List BusMessage) (i : Nat) : Nat :=
  ((list.take i).map fun m => m.length.toNat).sum

/--
The word with the number `n` is the first one of a message after the first one.
-/
def StartsMessage (list : List BusMessage) (n : Nat) : Prop :=
  ∃ i, 0 < i ∧ i < list.length ∧ n = firstWord list i

/--
The restart bit is in the first word of every message after the first one and in no other word.
-/
def Restarted (list : List BusMessage) (log : List Event) : Prop :=
  ∀ before v after, log = before ++ .write v .dataCmd :: after →
    (v &&& 0x400 ≠ 0 ↔ StartsMessage list (words before).length)

/--
With these levels there is room for a command of `m` and, if it is a read command, for its byte and
all bytes that are still to come.
-/
def HasRoom (d : BusDevice) (m : BusMessage) (log : List Event) (txflr rxflr : Word) : Prop :=
  0 < (d.transactionFifoDepth - txflr).toInt
    ∧ 0 < (d.receiveFifoDepth - rxflr).toInt
    ∧ (m.IsRead →
        (readCommands (words log) : Int) - (pops log).length < (d.receiveFifoDepth - rxflr).toInt)

/--
Whenever the levels were read for the first word of the message `i`, there was room for it. Only
`transferMessageToBus` reads `IC_TXFLR`, and `IC_RXFLR` right after it.
-/
def RoomAt (d : BusDevice) (list : List BusMessage) (i : Nat) (log : List Event) : Prop :=
  ∀ before txflr rxflr after m,
    log = before ++ .read .txflr txflr :: .read .rxflr rxflr :: after →
    list[i]? = some m → (words before).length = firstWord list i → HasRoom d m before txflr rxflr

/--
There was room for the first word of every message after the first one, of those that were begun.
-/
def Roomy (d : BusDevice) (list : List BusMessage) (log : List Event) : Prop :=
  ∀ before v after i, log = before ++ .write v .dataCmd :: after → 0 < i → i < list.length →
    (words before).length = firstWord list i → RoomAt d list i before

instance (n : Nat) : Decidable (StartsMessage list n) :=
  decidable_of_iff (∃ i : Fin list.length, 0 < i.val ∧ n = firstWord list i) <| by
    constructor
    . rintro ⟨i, hi, hn⟩
      exact ⟨i, hi, i.isLt, hn⟩
    . rintro ⟨i, hi, hlt, hn⟩
      exact ⟨⟨i, hlt⟩, hi, hn⟩

theorem exists_split_of_words {n : Nat} {v : Word} (h : (words log)[n]? = some v) :
    ∃ before after, log = before ++ .write v .dataCmd :: after ∧ (words before).length = n := by
  induction log generalizing n with
  | nil => simp at h
  | cons e log ih =>
    by_cases he : ∃ v', e = .write v' .dataCmd
    . rcases he with ⟨v', rfl⟩
      rw [words_write_dataCmd] at h
      cases n with
      | zero =>
        rw [List.getElem?_cons_zero, Option.some.injEq] at h
        exact ⟨[], log, by rw [h, List.nil_append], rfl⟩
      | succ n =>
        rw [List.getElem?_cons_succ] at h
        rcases ih h with ⟨before, after, rfl, hn⟩
        refine ⟨.write v' .dataCmd :: before, after, rfl, ?_⟩
        rw [words_write_dataCmd, List.length_cons, hn]
    . have hsilent : ∀ log, words (e :: log) = words log := by
        intro log
        cases e with
        | write v' reg =>
          apply words_write_ne
          rintro rfl
          exact he ⟨v', rfl⟩
        | _ => rfl
      rw [hsilent] at h
      rcases ih h with ⟨before, after, rfl, hn⟩
      refine ⟨e :: before, after, rfl, ?_⟩
      rw [hsilent, hn]

def WordsRestarted (list : List BusMessage) (ws : List Word) : Prop :=
  ∀ n : Fin ws.length, ws[n] &&& 0x400 ≠ 0 ↔ StartsMessage list n

instance (ws : List Word) : Decidable (WordsRestarted list ws) :=
  inferInstanceAs (Decidable (∀ n : Fin ws.length, ws[n] &&& 0x400 ≠ 0 ↔ StartsMessage list n))

theorem restarted_iff : Restarted list log ↔ WordsRestarted list (words log) := by
  constructor
  . intro h n
    rcases exists_split_of_words (List.getElem?_eq_getElem n.isLt) with ⟨before, after, heq, hn⟩
    have := h before _ after heq
    rw [hn] at this
    apply this
  . rintro h before v after rfl
    have := h ⟨(words before).length, by simp⟩
    simpa using this

theorem firstWord_succ (hm : list[i]? = some m) :
    firstWord list (i + 1) = firstWord list i + m.length.toNat := by
  unfold firstWord
  rw [List.take_add_one, hm]
  simp

theorem firstWord_le (list : List BusMessage) {i j : Nat} (h : i ≤ j) : firstWord list i ≤ firstWord list j := by
  induction h with
  | refl => apply Nat.le_refl
  | @step j _ ih =>
    apply Nat.le_trans ih
    cases hm : list[j]? with
    | none =>
      unfold firstWord
      rw [List.take_add_one, hm]
      simp
    | some m =>
      rw [firstWord_succ hm]
      apply Nat.le_add_right

theorem not_startsMessage {n : Nat} (h : firstWord list i < n) (h' : n < firstWord list (i + 1)) :
    ∀ j, n ≠ firstWord list j := by
  rintro j rfl
  by_cases hij : j ≤ i
  . have := firstWord_le list hij
    omega
  . have := firstWord_le list (show i + 1 ≤ j by omega)
    omega

theorem firstWord_lt {j : Nat} (hlist : ∀ m ∈ list, m.length ≠ 0) (h : i < j) (hj : i < list.length) :
    firstWord list i < firstWord list j := by
  have hm := List.getElem?_eq_getElem hj
  have hlength : (list[i].length).toNat ≠ 0 := by
    intro hzero
    apply hlist _ (List.getElem_mem hj)
    apply BitVec.eq_of_toNat_eq hzero
  have := firstWord_succ hm
  have := firstWord_le list (show i + 1 ≤ j from h)
  omega

theorem firstWord_inj {j : Nat} (hlist : ∀ m ∈ list, m.length ≠ 0) (hi : i < list.length)
    (hj : j < list.length) (h : firstWord list i = firstWord list j) : i = j := by
  rcases Nat.lt_trichotomy i j with hlt | heq | hlt
  . have := firstWord_lt hlist hlt hi
    omega
  . apply heq
  . have := firstWord_lt hlist hlt hj
    omega

/-! The looks at the levels. -/

def Closed (log : List Event) : Prop := ∀ v, log.getLast? ≠ some (.read .txflr v)

theorem Closed.concat (he : ∀ v, e ≠ .read .txflr v) : Closed (log ++ [e]) := by
  intro v
  rw [List.getLast?_concat]
  intro h
  apply he v
  injection h

def Fresh (log : List Event) : Prop :=
  ∀ before txflr rxflr after,
    log = before ++ .read .txflr txflr :: .read .rxflr rxflr :: after →
    (words before).length < (words log).length

theorem look_concat {before after : List Event} {a b : Event} :
    log ++ [e] = before ++ a :: b :: after ↔
      (∃ after', after = after' ++ [e] ∧ log = before ++ a :: b :: after')
        ∨ (after = [] ∧ e = b ∧ log = before ++ [a]) := by
  rcases List.eq_nil_or_concat after with rfl | ⟨after, e', rfl⟩
  . rw [show before ++ [a, b] = (before ++ [a]) ++ [b] by simp]
    constructor
    . intro h
      rcases List.append_inj' h rfl with ⟨rfl, hlast⟩
      right
      exact ⟨rfl, by simpa using hlast, rfl⟩
    . rintro (⟨after', h, _⟩ | ⟨_, rfl, rfl⟩)
      . simp at h
      . rfl
  . rw [List.concat_eq_append]
    rw [show before ++ a :: b :: (after ++ [e']) = (before ++ a :: b :: after) ++ [e'] by simp]
    constructor
    . intro h
      rcases List.append_inj' h rfl with ⟨rfl, hlast⟩
      left
      simp only [List.cons.injEq, and_true] at hlast
      exact ⟨after, by rw [hlast], rfl⟩
    . rintro (⟨after', h, rfl⟩ | ⟨h, _, _⟩)
      . rcases List.append_inj' h rfl with ⟨rfl, hlast⟩
        rw [hlast]
      . simp at h

theorem roomAt_concat (h : Closed log ∨ ∀ v, e ≠ .read .rxflr v) :
    RoomAt d list i (log ++ [e]) ↔ RoomAt d list i log := by
  constructor
  . intro hroom before txflr rxflr after m heq
    apply hroom before txflr rxflr (after ++ [e]) m
    rw [heq]
    simp
  . intro hroom before txflr rxflr after m heq
    rcases look_concat.mp heq with ⟨after', _, hlog⟩ | ⟨_, he, hlog⟩
    . apply hroom before txflr rxflr after' m hlog
    . rcases h with h | h
      . exfalso
        apply h txflr
        rw [hlog]
        simp
      . exact absurd he (h rxflr)

theorem roomAt_look :
    RoomAt d list i (log ++ [.read .txflr txflr] ++ [.read .rxflr rxflr]) ↔
      RoomAt d list i log
        ∧ ∀ m, list[i]? = some m → (words log).length = firstWord list i →
            HasRoom d m log txflr rxflr := by
  constructor
  . intro hroom
    constructor
    . intro before txflr' rxflr' after m heq
      apply hroom before txflr' rxflr' (after ++ [.read .txflr txflr] ++ [.read .rxflr rxflr]) m
      rw [heq]
      simp
    . intro m
      apply hroom log txflr rxflr [] m
      simp
  . rintro ⟨hroom, hlook⟩ before txflr' rxflr' after m heq
    rcases look_concat.mp heq with ⟨after', _, hlog⟩ | ⟨_, he, hlog⟩
    . rw [← roomAt_concat (e := .read .txflr txflr) (.inr (by simp))] at hroom
      apply hroom before txflr' rxflr' after' m hlog
    . rcases List.append_inj' hlog rfl with ⟨rfl, hlast⟩
      simp only [List.cons.injEq, Event.read.injEq, true_and, and_true] at he hlast
      rw [← he, ← hlast]
      apply hlook m

theorem Fresh.concat (h : Fresh log) (hclosed : Closed log) : Fresh (log ++ [e]) := by
  intro before txflr rxflr after heq
  rcases look_concat.mp heq with ⟨after', _, hlog⟩ | ⟨_, _, hlog⟩
  . have := h before txflr rxflr after' hlog
    rw [words_append, List.length_append]
    omega
  . exfalso
    apply hclosed txflr
    rw [hlog]
    simp

theorem length_words_le {before after : List Event} (h : log = before ++ after) :
    (words before).length ≤ (words log).length := by
  rw [h, words_append, List.length_append]
  apply Nat.le_add_right

theorem Fresh.write (v : Word) : Fresh (log ++ [.write v .dataCmd]) := by
  intro before txflr rxflr after heq
  rcases look_concat.mp heq with ⟨after', _, hlog⟩ | ⟨_, he, _⟩
  . have := length_words_le hlog
    rw [words_append, words_write_dataCmd, List.length_append]
    simp
    omega
  . contradiction

theorem Fresh.roomAt (h : Fresh log) (hn : (words log).length = firstWord list i) :
    RoomAt d list i log := by
  intro before txflr rxflr after m heq _ hstart
  have := h before txflr rxflr after heq
  omega

end VoodooI2C
