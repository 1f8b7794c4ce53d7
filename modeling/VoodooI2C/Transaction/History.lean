import VoodooI2C.Concurrency.Run
import VoodooI2C.Transaction.Steady
import VoodooI2C.Transaction.Wire
import Mathlib.Data.List.TakeWhile

/-!
This module contains what the devices on the bus see of any number of calls: one transfer after the
other, each of them whole if it succeeds and otherwise the beginning of it.
-/

namespace VoodooI2C

open Interaction RegisterFile

variable {B : Bus} {txDepth rxDepth : Word} {α : Type}

theorem Depths.of_constants {d d' : BusDevice} (h : Depths txDepth rxDepth d)
    (heq : d'.constants = d.constants) : Depths txDepth rxDepth d' where
  transaction := by
    simp only [BusDevice.constants, Prod.mk.injEq] at heq
    rw [heq.2.2.1, h.transaction]
  receive := by
    simp only [BusDevice.constants, Prod.mk.injEq] at heq
    rw [heq.2.2.2.1, h.receive]

section Rest

variable {H : Hardware} [RegisterFile H] {K : H.State → Prop} {s : State H}

theorem dataFree_of_atRest (hK : Calm K) {q : Driver α} {c : Config (system H) α}
    (hq : wp (interrupted H) (fun op s => AtRest K s ∧ DataFree op) q (fun _ => AtRest K) s)
    (hc : Reachable (system H) handleInterrupt s q c) :
    (∀ op k, c.handler = none → c.main = .call op k → DataFree op)
      ∧ ∀ op k, c.handler = some (.call op k) → DataFree op := by
  have hhandler : ∀ s : State H, AtRest K s →
      wp (system H) (fun op _ => DataFree op) handleInterrupt (fun _ _ => True) s := by
    intro s h
    apply wp_post ((AtRest.idle hK).wp_handleInterrupt _ h)
    . intro _ _ _
      trivial
    . intro op _ hop _
      cases op with
      | readRegister reg => apply hop.1
      | writeRegister v reg => contradiction
      | _ => trivial
  have hG : ∀ (op : Op) (s : State H), AtRest K s ∧ DataFree op → AtRest K s := fun _ _ h => h.1
  have hQ : ∀ (_ : α) (s : State H), AtRest K s → AtRest K s := fun _ _ h => h
  constructor
  . intro op k hnone hmain
    apply (hc.main_guard hG hQ hhandler hq hnone hmain).2
  . intro op k hhd
    apply hc.handler_guard hG hQ hhandler hq hhd

theorem CallOp.dataFree {op : Op} (h : CallOp op) : DataFree op := by
  cases op with
  | readRegister _ | writeRegister _ _ => apply h
  | _ => trivial

theorem AtRest.wp_return (hK : Calm K) (h : AtRest K s) (a : α) :
    wp (interrupted H) (fun op s => AtRest K s ∧ DataFree op) (pure a) (fun _ => AtRest K) s :=
  wp_main_return (AtRest.idle hK).stable_interrupted h fun _ h => h

theorem AtRest.wp_run_setPowerState (hK : Calm K) (h : AtRest K s) (whichState : Nat)
    (forThis : Bool) :
    wp (interrupted H) (fun op s => AtRest K s ∧ DataFree op) (Call.setPowerState whichState forThis).run
      (fun _ => AtRest K) s := by
  unfold Call.run
  rw [wp_bind]
  apply wp_post (wp_setPowerState hK (fun _ _ hop h => ⟨h, hop.dataFree⟩) h)
  intro _ s h
  apply h.wp_return hK

theorem AtRest.wp_run_losePower (hK : Calm K) (h : AtRest K s) :
    wp (interrupted H) (fun op s => AtRest K s ∧ DataFree op) Call.losePower.run
      (fun _ => AtRest K) s := by
  unfold Call.run
  apply wp_main_device (AtRest.idle hK).stable_interrupted h
  intro s₁ h₁
  refine ⟨⟨h₁, trivial⟩, ?_⟩
  split
  . next hawake =>
    have hasleep : Asleep K s₁ := { h₁ with asleep := by simpa using hawake }
    apply wp_step (Asleep.idle hK).stable_interrupted hasleep
    intro s₂ h₂
    refine ⟨⟨h₂.atRest, trivial⟩, fun f _ => ?_⟩
    have h₃ : Asleep K { s₂ with hw := H.reset f s₂.hw } :=
      { h₂ with calm := hK.reset _ _ h₂.calm }
    apply h₃.atRest.wp_return hK
  . apply h₁.wp_return hK

theorem atRest_of_returned (hK : Calm K) {p : Pointer} {list : List BusMessage} {memory : Memory}
    {c : Config (system H) IOReturn} {ret : IOReturn} (h : AtRest K s)
    (hmessage : ∀ i m, list[i]? = some m → memory.message p i = m)
    (hc : Reachable (system H) handleInterrupt (State.next (.beginTransfer p list) s memory)
      (transferI2C p list.length) c)
    (hnone : c.handler = none) (hret : c.main = .ret ret) : AtRest K c.state := by
  have hresting := h.resting hK hmessage
  have hreturns := (hc.exec hnone hret).wp (Contract.wp_transferI2C hresting)
  rcases hreturns.1 with ⟨_, preparing, h'⟩ | ⟨r, _, h'⟩
  . exact
      { sleeper := h'.sleeper
        calm := h'.calm
        off := by
          rw [h'.device]
          apply h'.off }
  . exact
      { sleeper := h'.sleeper
        calm := h'.calm
        off := fun _ => h'.disabled }

omit [RegisterFile H] in
theorem Between.wait {s' : State H} (h : Between s)
    (hexec : Exec (interrupted H) (.ret ()) s () s') : Between s' := by
  rcases h with ⟨s₀, calls, hstarted, hlists, hcalls⟩
  refine ⟨s₀, calls, hstarted, hlists, ?_⟩
  rw [← Prog.bind_ret (runCalls calls)]
  apply hcalls.bind hexec

theorem runCalls_concat (calls : List Call) (call : Call) :
    runCalls (calls ++ [call]) = runCalls calls >>= fun _ => call.run := by
  induction calls with
  | nil => apply Prog.bind_ret
  | cons c calls ih =>
    rw [List.cons_append]
    unfold runCalls
    rw [ih, bind_assoc]

omit [RegisterFile H] in
theorem Between.call {s' : State H} {call : Call} (h : Between s)
    (hvalid : ∀ p list, call = .transferI2C p list → list ≠ [])
    (hexec : Exec (interrupted H) call.run s () s') : Between s' := by
  rcases h with ⟨s₀, calls, hstarted, hlists, hcalls⟩
  refine ⟨s₀, calls ++ [call], hstarted, ?_, ?_⟩
  . intro p list hmem
    rw [List.mem_append, List.mem_singleton] at hmem
    rcases hmem with hmem | heq
    . apply hlists p list hmem
    . apply hvalid p list heq.symm
  . rw [runCalls_concat]
    apply hcalls.bind hexec

end Rest

/-! Calls that leave the bus alone. -/

section Unmoved

variable {s : State (B.attach txDepth rxDepth)}

theorem unmoved_of_atRest {q : Driver α} {c : Config (system (B.attach txDepth rxDepth)) α}
    (h : AtRest Fifo.Empty s.detach)
    (hq : wp (interrupted (fifo txDepth rxDepth)) (fun op s => AtRest Fifo.Empty s ∧ DataFree op) q
      (fun _ => AtRest Fifo.Empty) s.detach)
    (hc : Reachable (system (B.attach txDepth rxDepth)) handleInterrupt s q c) :
    Unmoved s c.state := by
  have hfree : ∀ c : Config (system (B.attach txDepth rxDepth)) α,
      Reachable (system (B.attach txDepth rxDepth)) handleInterrupt s q c → _ :=
    fun c hc => dataFree_of_atRest (Fifo.Empty.calm txDepth rxDepth) hq
      ((detached B txDepth rxDepth).reachable hc)
  apply Unmoved.of_reachable h.calm _ _ hc
  . intro c op k hc hnone hmain
    apply (hfree c hc).1 op k hnone hmain
  . intro c op k hc hhd
    apply (hfree c hc).2 op k hhd

theorem unmoved_of_wait {c : Config (system (B.attach txDepth rxDepth)) Unit}
    (h : AtRest Fifo.Empty s.detach)
    (hc : Reachable (system (B.attach txDepth rxDepth)) handleInterrupt s (.ret ()) c) :
    Unmoved s c.state := by
  apply unmoved_of_atRest h _ hc
  apply h.wp_return (Fifo.Empty.calm txDepth rxDepth) ()

end Unmoved

/-! The transfers of a run. -/

section Passages

variable {H : Hardware}

/--
What became of a call of `transferI2C`: the state in which it began and what the buffers held then, what
its operations were answered, and the state in which it ended.
-/
structure Passage (H : Hardware) where
  messages : Pointer
  list : List BusMessage
  before : Address → Byte
  first : State H
  body : List (Performed (system H))
  last : Option (State H)

namespace Passage

def call (x : Passage H) : Call := .transferI2C x.messages x.list

def Returned (x : Passage H) (ret : IOReturn) : Prop :=
  (transferI2C x.messages x.list.length).Follows x.body (.ret ret)

end Passage

def isEnd (e : Performed (system H)) : Bool :=
  match e.op with
  | .endTransfer => true
  | _ => false

def passages (t : List (Performed (system H))) : List (Passage H) :=
  match t with
  | [] => []
  | ⟨.beginTransfer messages list, s, memory⟩ :: t =>
    { messages := messages
      list := list
      before := memory.byte
      first := s
      body := t.takeWhile fun e => !isEnd e
      last := (t.find? isEnd).map fun e => e.state } :: passages t
  | _ :: t => passages t

def AllEnded (t : List (Performed (system H))) : Prop := ∀ x ∈ passages t, x.last ≠ none

def InnerOp (op : Op) : Prop :=
  match op with
  | .beginTransfer _ _ | .endTransfer => False
  | _ => True

theorem CallerOp.innerOp {op : Op} (h : CallerOp op) : InnerOp op := by
  cases op with
  | beginTransfer _ _ | endTransfer => contradiction
  | _ => trivial

variable {t : List (Performed (system H))} {messages : Pointer} {list : List BusMessage} {s s' : State H}
  {memory : Memory}

theorem not_isEnd {e : Performed (system H)} (h : InnerOp e.op) : isEnd e = false := by
  rcases e with ⟨op, _, _⟩
  cases op with
  | endTransfer => contradiction
  | _ => rfl

theorem passages_append_of_inner (t' : List (Performed (system H))) (h : ∀ e ∈ t, InnerOp e.op) :
    passages (t ++ t') = passages t' := by
  induction t with
  | nil => rfl
  | cons e t ih =>
    rw [List.forall_mem_cons] at h
    rcases e with ⟨op, _, _⟩
    cases op with
    | beginTransfer _ _ => exact absurd h.1 id
    | _ => exact ih h.2

theorem takeWhile_inner (h : ∀ e ∈ t, InnerOp e.op) : t.takeWhile (fun e => !isEnd e) = t := by
  rw [List.takeWhile_eq_self_iff]
  intro e he
  rw [not_isEnd (h e he)]
  rfl

theorem passages_eq_nil (h : ∀ e ∈ t, InnerOp e.op) : passages t = [] := by
  have heq := passages_append_of_inner [] h
  rwa [List.append_nil] at heq

theorem passages_begun (h : ∀ e ∈ t, InnerOp e.op) :
    passages (⟨.beginTransfer messages list, s, memory⟩ :: t)
      = [⟨messages, list, memory.byte, s, t, none⟩] := by
  have hrest : passages t = [] := passages_eq_nil h
  have hfind : t.find? isEnd = none := by
    rw [List.find?_eq_none]
    intro e he
    simp [not_isEnd (h e he)]
  unfold passages
  rw [hrest, hfind, takeWhile_inner h]
  rfl

theorem passages_ended {e : Performed (system H)} (h : ∀ e ∈ t, InnerOp e.op) (he : e.op = .endTransfer) :
    passages (⟨.beginTransfer messages list, s, memory⟩ :: (t ++ [e]))
      = [⟨messages, list, memory.byte, s, t, some e.state⟩] := by
  rcases e with ⟨op, s', r⟩
  subst he
  have hrest : passages (t ++ [⟨.endTransfer, s', r⟩]) = [] := passages_append_of_inner _ h
  have hfind : (t ++ [(⟨.endTransfer, s', r⟩ : Performed (system H))]).find? isEnd
      = some ⟨.endTransfer, s', r⟩ := by
    rw [List.find?_append, List.find?_eq_none.mpr]
    . rfl
    . intro e he
      simp [not_isEnd (h e he)]
  have hbody : (t ++ [(⟨.endTransfer, s', r⟩ : Performed (system H))]).takeWhile
      (fun e => !isEnd e) = t := by
    rw [List.takeWhile_append_of_pos]
    . apply List.append_nil
    . intro e he
      rw [not_isEnd (h e he)]
      rfl
  unfold passages
  rw [hrest, hfind, hbody]
  rfl

theorem passages_append (t' : List (Performed (system H))) (h : AllEnded t) :
    passages (t ++ t') = passages t ++ passages t' := by
  induction t with
  | nil => rfl
  | cons e t ih =>
    rcases e with ⟨op, s, r⟩
    cases op with
    | beginTransfer messages list =>
      unfold AllEnded at h
      rw [passages, List.forall_mem_cons] at h
      rcases h with ⟨hlast, h⟩
      rcases hfind : t.find? isEnd with _ | e
      . rw [hfind] at hlast
        contradiction
      . have hbody : (t ++ t').takeWhile (fun e => !isEnd e) = t.takeWhile fun e => !isEnd e := by
          rw [List.takeWhile_append, if_neg]
          intro hlength
          have hself := (List.takeWhile_prefix (l := t) fun e => !isEnd e).eq_of_length hlength
          have hnot := List.mem_takeWhile_imp (hself ▸ List.mem_of_find?_eq_some hfind)
          rw [List.find?_some hfind] at hnot
          contradiction
        rw [List.cons_append, passages, passages, ih h, hbody, List.find?_append, hfind]
        rfl
    | _ => exact ih h

end Passages

/-! What the devices see of them. -/

section Saw

variable {x : Passage (B.attach txDepth rxDepth)} {xs ys : List (Passage (B.attach txDepth rxDepth))}
  {s s' : VoodooI2C.State (B.attach txDepth rxDepth)} {bus : B.State}

/--
Up to the state `s` the devices have seen the beginning of the list, and all of it if the call has
succeeded.
-/
structure Bus.Passes (B : Bus) (x : Passage (B.attach txDepth rxDepth))
    (s : VoodooI2C.State (B.attach txDepth rxDepth)) : Prop where
  carries : ∃ done, s.hw.1.executed = x.first.hw.1.executed ++ done
    ∧ B.Carries x.list x.before done x.first.hw.2 s.hw.2
  whole : x.last = some s → x.Returned .success →
    (.sleep .interrupted ∈ s.log → .wakeup ∈ s.log) → B.Continuous ∨ Restarted x.list s.log →
    (s.memory.byte, s.hw.2) = B.transact x.list (x.before, x.first.hw.2)

/--
Up to the state `s` the devices have seen one passage after the other and nothing else, only the last
one may not have ended.
-/
def Bus.Saw (B : Bus) (xs : List (Passage (B.attach txDepth rxDepth))) (bus : B.State)
    (s : VoodooI2C.State (B.attach txDepth rxDepth)) : Prop :=
  match xs with
  | [] => s.hw.2 = bus
  | x :: xs =>
    x.first.hw.2 = bus
      ∧ B.Passes x (x.last.getD s)
      ∧ (x.last = none → xs = [])
      ∧ B.Saw xs (x.last.getD s).hw.2 s

theorem Bus.Saw.append (hxs : B.Saw xs bus s) (hended : ∀ x ∈ xs, x.last ≠ none)
    (hys : B.Saw ys s.hw.2 s') : B.Saw (xs ++ ys) bus s' := by
  induction xs generalizing bus with
  | nil =>
    have hbus : s.hw.2 = bus := hxs
    rw [← hbus]
    apply hys
  | cons x xs ih =>
    rw [List.forall_mem_cons] at hended
    rcases hxs with ⟨hfirst, hpasses, _, hrest⟩
    rcases hlast : x.last with _ | s₁
    . exact absurd hlast hended.1
    . rw [hlast] at hpasses hrest
      refine ⟨hfirst, ?_, fun hnone => absurd hnone hended.1, ?_⟩
      . rw [hlast]
        apply hpasses
      . rw [hlast]
        apply ih hrest hended.2

end Saw

def Call.isTransfer (call : Call) : Bool :=
  match call with
  | .transferI2C _ _ => true
  | _ => false

theorem filter_isTransfer_of_ret {calls : List Call} (h : runCalls calls = .ret ()) :
    calls.filter Call.isTransfer = [] := by
  induction calls with
  | nil => rfl
  | cons call calls ih =>
    cases call with
    | transferI2C p list => contradiction
    | losePower => contradiction
    | setPowerState whichState forThis =>
      cases forThis with
      | false => apply ih h
      | true => contradiction

section Calls

variable {s : State (B.attach txDepth rxDepth)} {call : Call}
  {t : List (Performed (system (B.attach txDepth rxDepth)))}
  {c : Config (system (B.attach txDepth rxDepth)) Unit}

structure Sighted (calls : List Call) (s : State (B.attach txDepth rxDepth))
    (t : List (Performed (system (B.attach txDepth rxDepth))))
    (c : Config (system (B.attach txDepth rxDepth)) Unit) : Prop where
  order : (passages t).map Passage.call <+: calls.filter Call.isTransfer
  all : c.main = .ret () → (passages t).map Passage.call = calls.filter Call.isTransfer
  ended : c.main = .ret () → AllEnded t
  saw : B.Saw (passages t) s.hw.2 c.state

theorem carried {p : Pointer} {list : List BusMessage} {memory : Memory}
    {c : Config (system (B.attach txDepth rxDepth)) IOReturn} (h₀ : Between s)
    (hdepths : Depths txDepth rxDepth s.device) (hapart : Apart list)
    (hmessage : ∀ i m, list[i]? = some m → memory.message p i = m)
    (hc : Reachable (system (B.attach txDepth rxDepth)) handleInterrupt
      (State.next (.beginTransfer p list) s memory) (transferI2C p list.length) c) :
    ∃ done, c.state.hw.1.executed = s.hw.1.executed ++ done
      ∧ B.Carries list memory.byte done s.hw.2 c.state.hw.2 := by
  cases hawake : s.device.awake with
  | true => apply carries_of_awake h₀ hc hdepths hapart hmessage hawake
  | false => exact ⟨[], carries_of_asleep h₀ hc hawake⟩

theorem sighted_transferI2C {p : Pointer} {list : List BusMessage} (h₀ : Between s)
    (hdepths : Depths txDepth rxDepth s.device) (hapart : Apart list)
    (hc : Recorded (system (B.attach txDepth rxDepth)) handleInterrupt s
      (Call.transferI2C p list).run t c) : Sighted [.transferI2C p list] s t c := by
  have hK := Fifo.Empty.calm txDepth rxDepth
  have hrest := h₀.detach.atRest hK
  unfold Call.run at hc
  rcases hc.perform_cases with ⟨hmain, rfl, hwait⟩ | ⟨s₁, memory, t', hwait, hmessage, hbegun, rfl⟩
  . -- the call waits, for instance for the lock
    have hnot : c.main ≠ .ret () := by
      rw [hmain]
      intro heq
      contradiction
    exact
      { order := List.nil_prefix
        all := fun hret => absurd hret hnot
        ended := fun hret => absurd hret hnot
        saw := (unmoved_of_wait hrest hwait).bus }
  . have hunmoved := unmoved_of_wait hrest hwait
    have hexec := hwait.exec rfl rfl
    have h₁ := h₀.wait hexec
    have hdepths₁ : Depths txDepth rxDepth s₁.device :=
      hdepths.of_constants (constants_of_exec (q := .ret ()) trivial hexec)
    have hmessage : ∀ i m, list[i]? = some m → memory.message p i = m := hmessage
    have hinner : ∀ {t c'}, Recorded (system (B.attach txDepth rxDepth)) handleInterrupt
        (State.next (.beginTransfer p list) s₁ memory) (transferI2C p list.length) t c' →
        ∀ e ∈ t, InnerOp e.op := by
      intro t c' hc'
      apply hc'.follows.forall_op (P := InnerOp)
      exact Prog.performs_mono (performs_transferI2C _ _) fun _ h => h.innerOp
    rcases hbegun.bind_cases with ⟨c', hc', rfl⟩
      | ⟨ret, s₂, op, k, r, t₁, t₂, hc', hop, _, hend, rfl⟩
    . -- the transfer has not returned yet
      have hnot : (c'.main >>= fun _ => Prog.perform Op.endTransfer) ≠ .ret () := by
        intro heq
        cases hmain : c'.main <;> rw [hmain] at heq <;> contradiction
      have hpassages : passages (⟨.beginTransfer p list, s₁, memory⟩ :: t') = _ :=
        passages_begun (hinner hc')
      constructor
      . rw [hpassages]
        exact List.prefix_refl _
      . intro hret
        exact absurd hret hnot
      . intro hret
        exact absurd hret hnot
      . rw [hpassages]
        refine ⟨hunmoved.bus, ⟨carried h₁ hdepths₁ hapart hmessage hc'.reachable, ?_⟩, ?_, rfl⟩
        . intro hlast
          contradiction
        . intro _
          rfl
    . -- the transfer has returned, its end comes next
      injection hop with hop hk
      subst hop
      obtain rfl := eq_of_heq hk
      have hnil : t₂ = [] := by
        rw [List.eq_nil_iff_forall_not_mem]
        exact hend.follows.forall_op (P := fun _ => False) trivial
      subst hnil
      have hpassages :
          passages (⟨.beginTransfer p list, s₁, memory⟩ :: (t₁ ++ [⟨.endTransfer, s₂, r⟩])) = _ :=
        passages_ended (hinner hc') rfl
      have hrest₂ : AtRest Fifo.Empty (State.detach s₂) :=
        atRest_of_returned hK (h₁.detach.atRest hK) hmessage
          ((detached B txDepth rxDepth).reachable hc'.reachable) rfl rfl
      have hunmoved₂ := unmoved_of_wait (s := State.next .endTransfer s₂ r) { hrest₂ with }
        hend.reachable
      constructor
      . rw [hpassages]
        exact List.prefix_refl _
      . intro _
        rw [hpassages]
        rfl
      . intro _
        unfold AllEnded
        rw [hpassages]
        simp
      . rw [hpassages]
        refine ⟨hunmoved.bus, ⟨carried h₁ hdepths₁ hapart hmessage hc'.reachable, ?_⟩, ?_,
          hunmoved₂.bus⟩
        . intro _ hreturned hwoken hrestart
          have hret : Prog.ret ret = Prog.ret IOReturn.success := hc'.follows.unique hreturned
          injection hret with hret
          subst hret
          rcases moved_of_success h₁.detach hdepths₁ hmessage
            ((detached B txDepth rxDepth).reachable hc'.reachable) rfl rfl hwoken
            with ⟨hmoved, hended⟩
          have htraced := traced_of_between h₁ hdepths₁ hmessage
            (awake_of_success hc'.reachable rfl rfl) hc'.reachable
          apply transact_of_moved hapart _ hmoved hended htraced hrestart
          intro m hm
          rw [hmessage 0 m hm]
        . intro hlast
          contradiction

theorem sighted_of_unmoved (hcall : call.isTransfer = false) (ht : ∀ e ∈ t, InnerOp e.op)
    (hunmoved : Unmoved s c.state) : Sighted [call] s t c := by
  have hnil : passages t = [] := passages_eq_nil ht
  have hfilter : [call].filter Call.isTransfer = [] := by simp [hcall]
  constructor
  . rw [hnil, hfilter]
    apply List.prefix_refl
  . intro _
    rw [hnil, hfilter]
    rfl
  . intro _
    unfold AllEnded
    rw [hnil]
    simp
  . rw [hnil]
    apply hunmoved.bus

theorem Call.sighted (h₀ : Between s) (hdepths : Depths txDepth rxDepth s.device)
    (hapart : ∀ p list, call = .transferI2C p list → Apart list)
    (hc : Recorded (system (B.attach txDepth rxDepth)) handleInterrupt s call.run t c) :
    Sighted [call] s t c := by
  have hK := Fifo.Empty.calm txDepth rxDepth
  have hrest := h₀.detach.atRest hK
  cases call with
  | transferI2C p list => apply sighted_transferI2C h₀ hdepths (hapart p list rfl) hc
  | setPowerState whichState forThis =>
    apply sighted_of_unmoved rfl
    . apply hc.follows.forall_op (P := InnerOp)
      unfold Call.run
      apply Prog.performs_bind
      . exact Prog.performs_mono (performs_setPowerState _ _) fun _ h => h.innerOp
      . intro _
        apply performs_pure
    . apply unmoved_of_atRest hrest (hrest.wp_run_setPowerState hK whichState forThis) hc.reachable
  | losePower =>
    apply sighted_of_unmoved rfl
    . apply hc.follows.forall_op (P := InnerOp)
      unfold Call.run
      simp only [performs_device_bind]
      refine ⟨trivial, fun d => ?_⟩
      split
      . exact ⟨trivial, fun _ => trivial⟩
      . apply performs_pure
    . apply unmoved_of_atRest hrest (hrest.wp_run_losePower hK) hc.reachable

theorem runCalls_sighted {calls : List Call} (h₀ : Between s)
    (hdepths : Depths txDepth rxDepth s.device)
    (hvalid : ∀ p list, .transferI2C p list ∈ calls → list ≠ [] ∧ Apart list)
    (hc : Recorded (system (B.attach txDepth rxDepth)) handleInterrupt s (runCalls calls) t c) :
    Sighted calls s t c := by
  induction calls generalizing s t with
  | nil =>
    have hrest := h₀.detach.atRest (Fifo.Empty.calm txDepth rxDepth)
    have hnil : t = [] := by
      rw [List.eq_nil_iff_forall_not_mem]
      exact hc.follows.forall_op (P := fun _ => False) trivial
    subst hnil
    exact
      { order := List.nil_prefix
        all := fun _ => rfl
        ended := fun _ x hx => absurd hx List.not_mem_nil
        saw := (unmoved_of_wait hrest hc.reachable).bus }
  | cons call calls ih =>
    have hcall : ∀ p list, call = .transferI2C p list → list ≠ [] ∧ Apart list := by
      rintro p list rfl
      apply hvalid p list List.mem_cons_self
    have hfilter : (call :: calls).filter Call.isTransfer
        = [call].filter Call.isTransfer ++ calls.filter Call.isTransfer := by
      rw [← List.filter_append, List.singleton_append]
    unfold runCalls at hc
    rcases hc.bind_cases with ⟨c', hc', rfl⟩ | ⟨a, s₁, op, k, r, t₁, t₂, hc', hop, hr, hend, rfl⟩
    . -- the first call has not returned yet
      have h := Call.sighted h₀ hdepths (fun p list heq => (hcall p list heq).2) hc'
      have hret : (c'.main >>= fun _ => runCalls calls) = .ret () →
          c'.main = .ret () ∧ runCalls calls = .ret () := by
        intro hmain
        cases hc'main : c'.main with
        | ret a =>
          rw [hc'main] at hmain
          exact ⟨rfl, hmain⟩
        | call op k =>
          rw [hc'main] at hmain
          contradiction
      constructor
      . rw [hfilter]
        exact h.order.trans (List.prefix_append _ _)
      . intro hmain
        rcases hret hmain with ⟨hmain, hcalls⟩
        rw [hfilter, filter_isTransfer_of_ret hcalls, List.append_nil]
        apply h.all hmain
      . intro hmain
        apply h.ended (hret hmain).1
      . apply h.saw
    . -- the first call has returned, the other ones follow
      have h := Call.sighted h₀ hdepths (fun p list heq => (hcall p list heq).2) hc'
      have hended := h.ended rfl
      have hrest : Recorded (system (B.attach txDepth rxDepth)) handleInterrupt s₁ (runCalls calls)
          (⟨op, s₁, r⟩ :: t₂) c := by
        rw [hop]
        exact .cons hr hend
      have hexec := hc'.reachable.exec rfl rfl
      have h' := ih (h₀.call (fun p list heq => (hcall p list heq).1) hexec)
        (hdepths.of_constants (constants_of_exec call.steady hexec))
        (fun p list hmem => hvalid p list (List.mem_cons_of_mem _ hmem)) hrest
      have hpassages := passages_append (⟨op, s₁, r⟩ :: t₂) hended
      constructor
      . rw [hpassages, hfilter, List.map_append, h.all rfl]
        exact (List.prefix_append_right_inj _).mpr h'.order
      . intro hmain
        rw [hpassages, hfilter, List.map_append, h.all rfl, h'.all hmain]
      . intro hmain x hx
        rw [hpassages, List.mem_append] at hx
        exact hx.elim (hended x) (h'.ended hmain x)
      . rw [hpassages]
        exact h.saw.append hended h'.saw

end Calls

section Threads

open Concurrency

variable {ι Nub : Type} [DecidableEq ι] [DecidableEq Nub] {nubs : Nub → DeviceNub}
  {requests : ι → List (BusRequest Nub)} {s₀ : State (B.attach txDepth rxDepth)}
  {c : Pool (system (B.attach txDepth rxDepth)) (Lock Nub) ι Unit}
  {taken : List (ι × Driver Unit)} {performed : List (Performed (system (B.attach txDepth rxDepth)))}

/--
The devices on the bus see the transfers of all threads one after the other, in the order in which the
threads have taken `i2c_bus_lock`.
-/
theorem requests_saw (h₀ : Started s₀) (hdepths : Depths txDepth rxDepth s₀.device)
    (hvalid : ∀ i, ∀ request ∈ requests i, ∀ p list,
      request.call nubs = .transferI2C p list → list ≠ [] ∧ Apart list)
    (hc : Pool.Ran (system (B.attach txDepth rxDepth)) handleInterrupt s₀
      (fun i => thread nubs (requests i)) .i2cBusLock taken performed c) :
    ∃ calls : List (ι × Call),
      taken = calls.map (fun call => (call.1, call.2.run))
        ∧ (∀ i, (Pool.keysOf calls i).Sublist ((requests i).map fun request => request.call nubs))
        ∧ (passages performed).map Passage.call <+: (calls.map Prod.snd).filter Call.isTransfer
        ∧ (c.owner .i2cBusLock = none →
            (passages performed).map Passage.call = (calls.map Prod.snd).filter Call.isTransfer)
        ∧ B.Saw (passages performed) s₀.hw.2 c.state := by
  rcases serial_of_ran hc with ⟨calls, rest, h⟩
  have hrun := h.run
  rw [runCalls_eq_sequence] at hrun
  have hlists : ∀ p list, .transferI2C p list ∈ calls.map Prod.snd → list ≠ [] ∧ Apart list := by
    intro p list hmem
    rcases exists_request h hmem with ⟨i, request, hrequest, hcall⟩
    apply hvalid i request hrequest p list hcall
  have hsighted := runCalls_sighted ⟨s₀, [], h₀, by simp, .ret⟩ hdepths hlists hrun
  refine ⟨calls, h.acquired, ?_, hsighted.order, ?_, hsighted.saw⟩
  . intro i
    apply List.Sublist.trans _ (h.order i)
    apply List.sublist_append_left
  . intro hfree
    apply hsighted.all
    simp only [Pool.current, hfree]

/-! The transfer of the first thread succeeds, the second one stops waiting before all is sent. -/

def turnsOfTwo : List (PoolTurn (Fin 2)) :=
  List.replicate 33 (.thread ⟨0, by decide⟩)
    ++ [.thread ⟨1, by decide⟩, .thread ⟨1, by decide⟩]
    ++ List.replicate 39 .handler ++ [.env, .env] ++ List.replicate 25 .handler
    ++ List.replicate 10 (.thread ⟨0, by decide⟩)
    ++ List.replicate 32 (.thread ⟨1, by decide⟩)
    ++ List.replicate 31 .handler ++ [.env]
    ++ List.replicate 40 (.thread ⟨1, by decide⟩)

def requestsOfTwo (i : Fin 2) : List (BusRequest Unit) :=
  match i with
  | 0 => [.transferI2C 7 shortList]
  | 1 => [.nub () 9 (.writeI2C 0x41 2)]

def poolOfTwo : Pool (system registerFifo) (Lock Unit) (Fin 2) Unit :=
  registerPlayer.poolPlay handleInterrupt turnsOfTwo
    ⟨registerState, fun _ => none, fun i => thread (fun _ => busyNub) (requestsOfTwo i), none⟩

theorem reachable_poolOfTwo :
    Pool.Reachable (system registerFifo) handleInterrupt registerState
      (fun i => thread (fun _ => busyNub) (requestsOfTwo i)) poolOfTwo := by
  apply registerPlayer.reachable_poolPlay

theorem valid_requestsOfTwo (i : Fin 2) (request : BusRequest Unit)
    (hmem : request ∈ requestsOfTwo i) (p : Pointer) (list : List BusMessage)
    (heq : request.call (fun _ => busyNub) = .transferI2C p list) : list ≠ [] ∧ Apart list := by
  match i with
  | 0 | 1 =>
    have hrequest := List.mem_singleton.mp hmem
    subst hrequest
    injection heq with _ hlist
    subst hlist
    constructor
    . decide
    . unfold Apart
      decide

theorem started_registerState : Started registerState := by
  refine ⟨registerBoot, rfl, ?_⟩
  apply Exec.interrupted
  apply registerPlayer.exec_final
  decide +kernel

theorem requests_saw_two :
    poolOfTwo.state.hw.1.executed = [0x41, 0x700, 0x41]
      ∧ poolOfTwo.owner .i2cBusLock = none
      ∧ ∃ taken performed,
          Pool.Ran (system registerFifo) handleInterrupt registerState
            (fun i => thread (fun _ => busyNub) (requestsOfTwo i)) .i2cBusLock taken performed
            poolOfTwo
          ∧ ∃ calls : List (Fin 2 × Call),
              taken = calls.map (fun call => (call.1, call.2.run))
                ∧ (∀ i, (Pool.keysOf calls i).Sublist
                    ((requestsOfTwo i).map fun request => request.call fun _ => busyNub))
                ∧ (passages performed).map Passage.call
                    <+: (calls.map Prod.snd).filter Call.isTransfer
                ∧ (poolOfTwo.owner .i2cBusLock = none →
                    (passages performed).map Passage.call
                      = (calls.map Prod.snd).filter Call.isTransfer)
                ∧ registerBus.Saw (passages performed) registerState.hw.2 poolOfTwo.state := by
  have hdepths : Depths 2 2 registerState.device := ⟨by decide +kernel, by decide +kernel⟩
  refine ⟨by decide +kernel, by decide +kernel, ?_⟩
  rcases reachable_poolOfTwo.exists_ran .i2cBusLock with ⟨taken, performed, hran⟩
  have hsaw := requests_saw (B := registerBus) started_registerState hdepths valid_requestsOfTwo hran
  exact ⟨taken, performed, hran, hsaw⟩

end Threads

end VoodooI2C
