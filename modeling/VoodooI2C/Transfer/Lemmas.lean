import VoodooI2C.Transfer.Basic

/-!
This module contains the lemmas about the words and the addresses of a transfer.
-/

namespace VoodooI2C

variable {log : List Event} {list : List BusMessage} {m : BusMessage} {byte : Address → Byte}

@[simp]
theorem words_nil : words [] = [] := rfl

@[simp]
theorem words_append (log' : List Event) : words (log ++ log') = words log ++ words log' := by
  simp [words]

@[simp]
theorem words_read (reg : Register) (v : Word) : words (.read reg v :: log) = words log := rfl

@[simp]
theorem words_write_dataCmd (v : Word) : words (.write v .dataCmd :: log) = v :: words log := rfl

@[simp]
theorem words_write_ne (v : Word) {reg : Register} (h : reg ≠ .dataCmd) :
    words (.write v reg :: log) = words log := by
  cases reg <;> first | rfl | contradiction

@[simp]
theorem words_store (a : Address) (b : Byte) : words (.store a b :: log) = words log := rfl

@[simp]
theorem words_enterSleep : words (.enterSleep :: log) = words log := rfl

@[simp]
theorem words_sleep (r : SleepResult) : words (.sleep r :: log) = words log := rfl

@[simp]
theorem words_wakeup : words (.wakeup :: log) = words log := rfl

@[simp]
theorem pops_nil : pops [] = [] := rfl

@[simp]
theorem pops_append (log' : List Event) : pops (log ++ log') = pops log ++ pops log' := by
  simp [pops]

@[simp]
theorem pops_read_dataCmd (v : Word) :
    pops (.read .dataCmd v :: log) = v.setWidth 8 :: pops log := rfl

@[simp]
theorem pops_read_ne (v : Word) {reg : Register} (h : reg ≠ .dataCmd) :
    pops (.read reg v :: log) = pops log := by
  cases reg <;> first | rfl | contradiction

@[simp]
theorem pops_write (v : Word) (reg : Register) : pops (.write v reg :: log) = pops log := rfl

@[simp]
theorem pops_store (a : Address) (b : Byte) : pops (.store a b :: log) = pops log := rfl

@[simp]
theorem pops_enterSleep : pops (.enterSleep :: log) = pops log := rfl

@[simp]
theorem pops_sleep (r : SleepResult) : pops (.sleep r :: log) = pops log := rfl

@[simp]
theorem pops_wakeup : pops (.wakeup :: log) = pops log := rfl

@[simp]
theorem stores_nil : stores [] = [] := rfl

@[simp]
theorem stores_append (log' : List Event) : stores (log ++ log') = stores log ++ stores log' := by
  simp [stores]

@[simp]
theorem stores_read (reg : Register) (v : Word) : stores (.read reg v :: log) = stores log := rfl

@[simp]
theorem stores_write (v : Word) (reg : Register) : stores (.write v reg :: log) = stores log := rfl

@[simp]
theorem stores_store (a : Address) (b : Byte) :
    stores (.store a b :: log) = (a, b) :: stores log := rfl

@[simp]
theorem stores_enterSleep : stores (.enterSleep :: log) = stores log := rfl

@[simp]
theorem stores_sleep (r : SleepResult) : stores (.sleep r :: log) = stores log := rfl

@[simp]
theorem stores_wakeup : stores (.wakeup :: log) = stores log := rfl

@[simp]
theorem readCommands_nil : readCommands [] = 0 := rfl

@[simp]
theorem readCommands_append (ws ws' : List Word) :
    readCommands (ws ++ ws') = readCommands ws + readCommands ws' := by
  simp [readCommands]

@[simp]
theorem applyStores_nil : applyStores byte [] = byte := rfl

theorem applyStores_concat (l : List (Address × Byte)) (a : Address) (b : Byte) :
    applyStores byte (l ++ [(a, b)]) = Function.update (applyStores byte l) a b := by
  simp [applyStores]

theorem applyStores_of_not_mem {l : List (Address × Byte)} {a : Address}
    (h : a ∉ l.map Prod.fst) : applyStores byte l a = byte a := by
  induction l generalizing byte with
  | nil => rfl
  | cons e l ih =>
    rcases e with ⟨a', b⟩
    simp only [List.map_cons, List.mem_cons, not_or] at h
    have : applyStores byte ((a', b) :: l) = applyStores (Function.update byte a' b) l := rfl
    rw [this, ih h.2, Function.update_of_ne h.1]

theorem applyStores_zip {as : List Address} {bs : List Byte} (hnodup : as.Nodup) {k : Nat}
    {a : Address} {b : Byte} (ha : as[k]? = some a) (hb : bs[k]? = some b) :
    applyStores byte (as.zip bs) a = b := by
  induction as generalizing byte bs k with
  | nil => simp at ha
  | cons a' as ih =>
    cases bs with
    | nil => simp at hb
    | cons b' bs =>
      rw [List.nodup_cons] at hnodup
      have hcons : applyStores byte ((a' :: as).zip (b' :: bs))
          = applyStores (Function.update byte a' b') (as.zip bs) := rfl
      rw [hcons]
      cases k with
      | zero =>
        simp only [List.getElem?_cons_zero, Option.some.injEq] at ha hb
        subst ha hb
        rw [applyStores_of_not_mem]
        . simp
        . intro hmem
          apply hnodup.1
          rw [List.mem_map] at hmem
          rcases hmem with ⟨e, he, rfl⟩
          apply (List.of_mem_zip he).1
      | succ k =>
        apply ih hnodup.2
        . simpa using ha
        . simpa using hb

namespace BusMessage

@[simp]
theorem length_places (last : Bool) : (m.places last).length = m.length.toNat := by
  simp [places]

@[simp]
theorem getElem_places {last : Bool} {k : Nat} (h : k < (m.places last).length) :
    (m.places last)[k] = ⟨m, k, last && k + 1 == m.length.toNat⟩ := by
  simp [places]

@[simp]
theorem length_addresses : m.addresses.length = m.length.toNat := by
  simp [addresses]

@[simp]
theorem getElem_addresses {k : Nat} (h : k < m.addresses.length) :
    m.addresses[k] = m.buffer + k := by
  simp [addresses]

end BusMessage

theorem getElem?_goodSegments {a : BitVec 16} {i : Nat} (hi : list[i]? = some m)
    (hgood : ∀ j m, j ≤ i → list[j]? = some m → m.Good a) :
    (goodSegments a list)[i]? = some (m.places (i + 1 == list.length)) := by
  induction list generalizing i with
  | nil => simp at hi
  | cons m' list ih =>
    have hm' : m'.Good a := hgood 0 m' (by omega) rfl
    rw [goodSegments, if_pos hm']
    cases i with
    | zero =>
      simp only [List.getElem?_cons_zero, Option.some.injEq] at hi
      subst hi
      cases list <;> simp
    | succ i =>
      simp only [List.getElem?_cons_succ] at hi ⊢
      rw [ih hi]
      . simp
      . intro j m hj hm
        exact hgood (j + 1) m (by omega) hm

theorem length_goodSegments_le (a : BitVec 16) : (goodSegments a list).length ≤ list.length := by
  induction list with
  | nil => simp [goodSegments]
  | cons m list ih =>
    rw [goodSegments]
    split
    . simpa using ih
    . simp

def GoodBefore (list : List BusMessage) (i : Nat) : Prop :=
  ∀ j m m₀, j < i → list[j]? = some m → list[0]? = some m₀ → m.Good m₀.address

theorem GoodBefore.zero : GoodBefore list 0 := by
  intro j m m₀ hj
  omega

theorem GoodBefore.succ {i : Nat} {m₀ : BusMessage} (h : GoodBefore list i)
    (hi : list[i]? = some m) (h₀ : list[0]? = some m₀) (hm : m.Good m₀.address) :
    GoodBefore list (i + 1) := by
  intro j m' m₀' hj hj' h₀'
  rw [h₀] at h₀'
  injection h₀' with h₀'
  subst h₀'
  cases Nat.lt_succ_iff_lt_or_eq.mp hj with
  | inl hlt => exact h j m' m₀ hlt hj' h₀
  | inr heq =>
    subst heq
    rw [hi] at hj'
    injection hj' with hj'
    subst hj'
    apply hm

theorem getElem?_placeSegments {i : Nat} (hi : list[i]? = some m)
    (hgood : GoodBefore list (i + 1)) :
    (placeSegments list)[i]? = some (m.places (i + 1 == list.length)) := by
  cases list with
  | nil => simp at hi
  | cons m₀ list =>
    apply getElem?_goodSegments hi
    intro j m hj hm
    exact hgood j m m₀ (by omega) hm rfl

theorem length_placeSegments_le : (placeSegments list).length ≤ list.length := by
  cases list with
  | nil => simp [placeSegments]
  | cons m list => apply length_goodSegments_le

theorem getElem?_readSegments {i : Nat} (hi : list[i]? = some m) :
    (readSegments list)[i]? = some (if m.IsRead then m.addresses else []) := by
  simp [readSegments, hi]

@[simp]
theorem length_readSegments : (readSegments list).length = list.length := by
  simp [readSegments]

theorem add_sub_succ_add_one {a b left : Nat} (h : left < b) :
    a + (b - (left + 1)) + 1 = a + (b - left) := by
  omega

theorem zip_concat {α β : Type} {as : List α} {bs : List β} {a : α} (b : β)
    (h : as[bs.length]? = some a) : as.zip (bs ++ [b]) = as.zip bs ++ [(a, b)] := by
  induction as generalizing bs with
  | nil => simp at h
  | cons a' as ih =>
    cases bs with
    | nil =>
      simp only [List.length_nil, List.getElem?_cons_zero, Option.some.injEq] at h
      simp [h]
    | cons b' bs =>
      simp only [List.length_cons, List.getElem?_cons_succ] at h
      simp [ih h]

end VoodooI2C
