import Mathlib.Data.List.Induction
import VoodooI2C.Multitouch.Basic

/-!
This module contains the order in which the engines get an interrupt report.
-/

namespace VoodooI2C

open Interaction

namespace Multitouch

variable {Engine : Type} {getScore : Engine → BitVec 8}

theorem orderEngines_nonneg_iff (a b : Engine) :
    0 ≤ orderEngines getScore a b ↔ (getScore b).toNat ≤ (getScore a).toNat := by
  unfold orderEngines
  have hgt : getScore a > getScore b ↔ (getScore b).toNat < (getScore a).toNat := Iff.rfl
  have hlt : getScore a < getScore b ↔ (getScore a).toNat < (getScore b).toNat := Iff.rfl
  split
  . next h =>
    rw [hgt] at h
    constructor <;> intro _ <;> omega
  . next h =>
    rw [hgt] at h
    split
    . next h' =>
      rw [hlt] at h'
      constructor <;> intro _ <;> omega
    . next h' =>
      rw [hlt] at h'
      constructor <;> intro _ <;> omega

theorem orderEngines_priority : OrderedSet.Priority (orderEngines getScore) where
  refl a := by
    rw [orderEngines_nonneg_iff]
  total a b h := by
    have hnot := mt (orderEngines_nonneg_iff a b).mpr (Int.not_le.mpr h)
    rw [orderEngines_nonneg_iff]
    omega
  trans a b c hab hbc := by
    rw [orderEngines_nonneg_iff] at *
    omega

theorem tied_iff (a b : Engine) :
    OrderedSet.Tied (orderEngines getScore) a b ↔ getScore b = getScore a := by
  unfold OrderedSet.Tied
  rw [orderEngines_nonneg_iff, orderEngines_nonneg_iff, BitVec.toNat_eq]
  omega

def IsOpen (requests : List (Request Engine)) (engine : Engine) : Prop :=
  ∃ before after, requests = before ++ .handleOpen (some engine) :: after
    ∧ .handleClose (some engine) ∉ after

theorem isOpen_append (requests : List (Request Engine)) (request : Request Engine)
    (engine : Engine) :
    IsOpen (requests ++ [request]) engine
      ↔ request = .handleOpen (some engine)
        ∨ IsOpen requests engine ∧ request ≠ .handleClose (some engine) := by
  constructor
  . intro ⟨before, after, heq, hafter⟩
    cases after using List.reverseRecOn with
    | nil =>
      left
      have hlast := congrArg List.getLast? heq
      simpa using hlast
    | append_singleton after last =>
      right
      rw [← List.cons_append, ← List.append_assoc] at heq
      rcases List.append_inj' heq rfl with ⟨hrequests, hlast⟩
      injection hlast with hlast
      rw [List.mem_append, not_or] at hafter
      refine ⟨⟨before, after, hrequests, hafter.1⟩, ?_⟩
      rw [hlast]
      intro h
      rw [h] at hafter
      simp at hafter
  . rintro (hopen | ⟨⟨before, after, heq, hafter⟩, hne⟩)
    . exact ⟨requests, [], by rw [hopen], by simp⟩
    . refine ⟨before, after ++ [request], by simp [heq], ?_⟩
      rw [List.mem_append, List.mem_singleton, not_or]
      exact ⟨hafter, hne.symm⟩

theorem exists_skipped (engines : List Engine) (respond : Engine → MultitouchReturn) :
    ∃ skipped, engines = (handleInterruptReport engines).asked respond ++ skipped
      ∧ (∀ e ∈ ((handleInterruptReport engines).asked respond).dropLast,
        respond e ≠ multitouchReturnBreak)
      ∧ (skipped ≠ [] → ∃ e, ((handleInterruptReport engines).asked respond).getLast? = some e
        ∧ respond e = multitouchReturnBreak) := by
  induction engines with
  | nil => exact ⟨[], rfl, by simp [handleInterruptReport], by simp⟩
  | cons engine engines ih =>
    rw [handleInterruptReport, Prog.asked_bind, Prog.asked_perform, Prog.eval_perform]
    by_cases hbreak : respond engine = multitouchReturnBreak
    . rw [if_pos hbreak]
      exact ⟨engines, rfl, by simp, fun _ => ⟨engine, rfl, hbreak⟩⟩
    . rw [if_neg hbreak]
      rcases ih with ⟨skipped, heq, hcontinue, hlast⟩
      refine ⟨skipped, by rw [List.append_assoc, ← heq]; rfl, ?_, ?_⟩
      . intro e he
        cases hrest : (handleInterruptReport engines).asked respond with
        | nil =>
          rw [hrest] at he
          contradiction
        | cons e' rest =>
          rw [hrest] at he hcontinue
          cases he with
          | head => apply hbreak
          | tail _ he => apply hcontinue e he
      . intro hskipped
        rcases hlast hskipped with ⟨e, he, hbreak⟩
        refine ⟨e, ?_, hbreak⟩
        rw [List.getLast?_append, he]
        rfl

variable [DecidableEq Engine]

def openedStep (opened : List Engine) (request : Request Engine) : List Engine :=
  match request with
  | .handleOpen (some engine) => OrderedSet.arrive opened engine
  | .handleClose (some engine) => opened.erase engine
  | _ => opened

def opened (requests : List (Request Engine)) : List Engine := requests.foldl openedStep []

theorem arranged_step {opened engines : List Engine}
    (h : OrderedSet.Arranged (orderEngines getScore) opened engines) (request : Request Engine) :
    OrderedSet.Arranged (orderEngines getScore) (openedStep opened request)
      (request.run getScore engines) := by
  cases request with
  | handleOpen forClient =>
    cases forClient with
    | none => apply h
    | some engine => apply h.setObject orderEngines_priority
  | handleClose forClient =>
    cases forClient with
    | none => apply h
    | some engine => apply h.removeObject

theorem arranged_runRequests (requests : List (Request Engine)) :
    OrderedSet.Arranged (orderEngines getScore) (opened requests) (runRequests getScore requests) := by
  unfold opened runRequests
  induction requests using List.reverseRecOn with
  | nil => apply OrderedSet.arranged_nil
  | append_singleton requests request ih =>
    rw [List.foldl_append, List.foldl_append]
    apply arranged_step ih

theorem mem_openedStep {l : List Engine} (h : l.Nodup) (request : Request Engine)
    (engine : Engine) :
    engine ∈ openedStep l request
      ↔ request = .handleOpen (some engine)
        ∨ engine ∈ l ∧ request ≠ .handleClose (some engine) := by
  cases request with
  | handleOpen forClient =>
    cases forClient with
    | none => simp [openedStep]
    | some e =>
      simp only [openedStep, OrderedSet.arrive]
      split
      . next hmem =>
        simp
        rintro rfl
        apply hmem
      . simp [or_comm, eq_comm]
  | handleClose forClient =>
    cases forClient with
    | none => simp [openedStep]
    | some e =>
      simp [openedStep, h.mem_erase_iff, and_comm, eq_comm]

theorem mem_opened_iff (requests : List (Request Engine)) (engine : Engine) :
    engine ∈ opened requests ↔ IsOpen requests engine := by
  induction requests using List.reverseRecOn with
  | nil => simp [opened, IsOpen]
  | append_singleton requests request ih =>
    have harranged : OrderedSet.Arranged (orderEngines (fun _ => 0)) (opened requests) _ :=
      arranged_runRequests requests
    have hopened : opened (requests ++ [request]) = openedStep (opened requests) request := by
      simp [opened]
    rw [isOpen_append, hopened, mem_openedStep harranged.nodup, ih]

def Before (getScore : Engine → BitVec 8) (opened : List Engine) (a b : Engine) : Prop :=
  getScore b < getScore a ∨ getScore b = getScore a ∧ opened.idxOf a < opened.idxOf b

theorem handleInterruptReport_dispatch (getScore : Engine → BitVec 8)
    (requests : List (Request Engine)) (respond : Engine → MultitouchReturn) :
    ∃ called skipped : List Engine,
      (handleInterruptReport (runRequests getScore requests)).asked respond = called
        ∧ (called ++ skipped).Nodup
        ∧ (∀ e, e ∈ called ++ skipped ↔ IsOpen requests e)
        ∧ (called ++ skipped).Pairwise (Before getScore (opened requests))
        ∧ (∀ e ∈ called.dropLast, respond e ≠ multitouchReturnBreak)
        ∧ (skipped ≠ [] → ∃ e, called.getLast? = some e ∧ respond e = multitouchReturnBreak) := by
  have harranged : OrderedSet.Arranged (orderEngines getScore) (opened requests) _ :=
    arranged_runRequests requests
  rcases exists_skipped (runRequests getScore requests) respond with ⟨skipped, heq, hcontinue, hlast⟩
  refine ⟨_, skipped, rfl, ?_, ?_, ?_, hcontinue, hlast⟩
  . rw [← heq, harranged.perm.nodup_iff]
    apply harranged.nodup
  . intro e
    rw [← heq, harranged.perm.mem_iff, mem_opened_iff]
  . rw [← heq]
    apply (harranged.sorted.and (harranged.pairwise_idxOf orderEngines_priority)).imp
    intro a b ⟨hscore, hties⟩
    rw [orderEngines_nonneg_iff] at hscore
    rw [tied_iff] at hties
    rcases Nat.lt_or_eq_of_le hscore with hlt | heq
    . left
      apply hlt
    . right
      have heq := BitVec.eq_of_toNat_eq heq
      exact ⟨heq, hties heq⟩

end Multitouch

end VoodooI2C
