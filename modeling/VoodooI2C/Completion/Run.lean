import VoodooI2C.Completion.Service

/-!
This module contains when the handler wakes up the caller of a transfer and what the result of a
transfer says about the data.
-/

namespace VoodooI2C

open Interaction RegisterFile

variable {txDepth rxDepth : Word} {s s₀ : State (fifo txDepth rxDepth)} {p : Pointer}
  {list : List BusMessage} {e₀ : List Word} {e : Event} {h : Fifo} {r : SleepResult}
  {a : BitVec 16} {byte₀ : Address → Byte}

namespace Fifo

theorem executed_read (reg : Register) (h : Fifo) : (h.read reg).executed = h.executed := by
  cases reg <;> rfl

theorem executed_write (txDepth : Nat) (v : Word) (reg : Register) (h : Fifo) :
    (h.write txDepth v reg).executed = h.executed := by
  unfold write
  split
  . split <;> rfl
  . dsimp only
    split <;> rfl
  . rfl

theorem tx_write {txDepth : Nat} {v : Word} {reg : Register} (hreg : reg ≠ .dataCmd)
    (htx : h.tx = []) : (h.write txDepth v reg).tx = [] := by
  unfold write
  split
  . contradiction
  . dsimp only
    split
    . rfl
    . apply htx
  . apply htx

theorem tx_read (reg : Register) (h : Fifo) : (h.read reg).tx = h.tx := by
  cases reg <;> rfl

end Fifo

theorem Moved.append {hw : Fifo} {sleeper : Sleeper} (hmoved : Moved e₀ list s) (he : Silent [e])
    (htx : hw.tx = []) (hexecuted : hw.executed = s.hw.executed) :
    Moved e₀ list ({ s with sleeper := sleeper, hw := hw, log := s.log ++ [e] } :
      State (fifo txDepth rxDepth)) where
  whole := hmoved.whole
  written := by simpa [he.words] using hmoved.written
  executed := by simpa [he.words, hexecuted] using hmoved.executed
  tx := htx
  received := by simpa [he.pops] using hmoved.received

theorem Truthful.append {hw : Fifo} {sleeper : Sleeper} (htruthful : Truthful e₀ list s)
    (he : Silent [e]) (hwakeup : e ≠ .wakeup) (htx : s.hw.tx = [] → hw.tx = [])
    (hexecuted : hw.executed = s.hw.executed) :
    Truthful e₀ list ({ s with sleeper := sleeper, hw := hw, log := s.log ++ [e] } :
      State (fifo txDepth rxDepth)) := by
  intro hcompleted
  rw [Completed.concat_iff] at hcompleted
  have hmoved := htruthful (hcompleted.resolve_right fun h => hwakeup h.1)
  apply hmoved.append he (htx hmoved.tx) hexecuted

structure Woken (e₀ : List Word) (list : List BusMessage) (r : SleepResult)
    (s : State (fifo txDepth rxDepth)) : Prop where
  truthful : Truthful e₀ list s
  slept : .sleep r ∈ s.log
  awakened : r = .awakened → .wakeup ∈ s.log
  woken : .wakeup ∈ s.log → Troubled s.device ∨ Completed s.log

namespace Woken

theorem append {hw : Fifo} (h : Woken e₀ list r s) (he : Silent [e]) (hwakeup : e ≠ .wakeup)
    (htx : s.hw.tx = [] → hw.tx = []) (hexecuted : hw.executed = s.hw.executed) :
    Woken e₀ list r ({ s with hw := hw, log := s.log ++ [e] } : State (fifo txDepth rxDepth)) where
  truthful := h.truthful.append he hwakeup htx hexecuted
  slept := List.mem_append_left _ h.slept
  awakened hr := List.mem_append_left _ (h.awakened hr)
  woken hmem := by
    rw [List.mem_append, List.mem_singleton] at hmem
    rw [Completed.concat_iff]
    exact (h.woken (hmem.resolve_right hwakeup.symm)).imp_right .inl

theorem untouched : Untouched (@Woken txDepth rxDepth e₀ list r) where
  step s hw h hstep := { h with truthful := Truthful.stable s _ h.truthful ⟨hw, hstep, rfl⟩ }
  read s reg v h hreg _ :=
    h.append (.read hreg) (by simp) (fun htx => (Fifo.tx_read reg s.hw).trans htx)
      (Fifo.executed_read reg s.hw)
  write s v reg h hreg _ _ :=
    h.append (.write hreg) (by simp) (Fifo.tx_write hreg) (Fifo.executed_write _ v reg s.hw)

end Woken

/-! What the caller knows about its sleep. -/

def Roused (s : State (fifo txDepth rxDepth)) : Prop := s.sleeper = .woken → .wakeup ∈ s.log

def Slept (r : SleepResult) (s : State (fifo txDepth rxDepth)) : Prop :=
  .sleep r ∈ s.log ∧ (r = .awakened → .wakeup ∈ s.log)

theorem mem_next_handlerOp {op : Op} {r : op.Ans} (hop : HandlerOp op) (he : e ∈ s.log) :
    e ∈ (State.next op s r).log := by
  rcases log_next_handlerOp (s := s) (r := r) hop with hlog | ⟨e', hlog, _⟩
  . rw [hlog]
    apply he
  . rw [hlog]
    apply List.mem_append_left _ he

theorem Roused.preserved :
    Preserved p list byte₀ (CompletionGuard e₀ list byte₀) (Vigilant e₀ list)
      (fun s : State (fifo txDepth rxDepth) => Truthful e₀ list s ∧ Roused s) := by
  apply Vigilant.preserved
  . rintro s _ h ⟨hw, _, rfl⟩
    apply h
  . intro op s r hop h _ hsleeper
    cases op with
    | commandWakeup => simp [State.next]
    | reach point => cases point <;> exact h hsleeper
    | enterSleep | leaveSleep | beginTransfer _ _ => contradiction
    | _ =>
      apply mem_next_handlerOp hop
      apply h hsleeper

theorem Slept.preserved (r : SleepResult) :
    Preserved p list byte₀ (CompletionGuard e₀ list byte₀) (Vigilant e₀ list)
      (fun s : State (fifo txDepth rxDepth) => Truthful e₀ list s ∧ Slept r s) := by
  apply Vigilant.preserved
  . rintro s _ h ⟨hw, _, rfl⟩
    apply h
  . intro op s a hop h _
    exact ⟨mem_next_handlerOp hop h.1, fun hr => mem_next_handlerOp hop (h.2 hr)⟩

theorem Vigilant.start (hdepths : Depths txDepth rxDepth s₀.device)
    (hdevice : s.device = s₀.device.setup p list.length) (hmemory : s.memory = s₀.memory)
    (hsleeper : s.sleeper = .running) (hlog : Preparatory s.log)
    (henable : value s.hw .enable = 1) (hmask : value s.hw .intrMask = 0)
    (hcleared : s.hw.Cleared) :
    Vigilant s.hw.executed list
      ({ s with
        hw := s.hw.write txDepth.toNat intrDefaultMask .intrMask
        log := s.log ++ [.write intrDefaultMask .intrMask] } : State (fifo txDepth rxDepth)) := by
  have hflows := ((flowExtension s₀ p list hdepths).start s hdevice hmemory hsleeper hlog henable hmask
    hcleared _ rfl).1
  have hwrite : Silent [.write intrDefaultMask .intrMask] := Silent.write (by simp)
  have hsilent := hlog.silent.append hwrite
  have htracked : Tracked s.hw.executed list [] 0 s.hw :=
    { marked := Marked.nil
      sequence := fun _ => ⟨[], by simp, by simp [hcleared.tx], by simp [hcleared.rx]⟩
      small := fun _ => by
        unfold Fifo.owed
        rw [hcleared.tx, hcleared.rx]
        decide
      stop := fun _ hstop => by
        rw [hcleared.stopDet] at hstop
        contradiction }
  exact
    { flows := hflows
      advance :=
        { tracked := by
            rw [hsilent.words, hsilent.pops]
            show Tracked _ list [] 0 (s.hw.write txDepth.toNat intrDefaultMask .intrMask)
            apply htracked.write_intrMask
          fits := (Fits.of_nil hcleared.tx hcleared.rx).write_of_ne _ .intrMask (by simp)
          aborted := fun haborted => by
            have := hcleared.aborted.symm.trans haborted
            contradiction
          finished := False.elim
          drained := False.elim }
      raised := fun _ _ hsome => by
        rw [hsilent.words] at hsome
        contradiction
      refused := fun herror => by
        apply absurd _ herror
        dsimp only
        rw [hdevice]
        rfl
      begun := by simp [Begun]
      answered := by
        apply Answered.concat
        . intro before v after heq hbegun
          apply absurd _ hlog.not_begun
          rw [heq]
          apply List.mem_append_left _ hbegun
        . simp
      woken := fun hmem => by
        have := hlog.not_mem (e := .wakeup) (by simp [Event.Preparatory])
        simp [this] at hmem }

def completionContract (s₀ : State (fifo txDepth rxDepth)) (p : Pointer) (list : List BusMessage)
    (hlive : s₀.live = some (p, list.length))
    (hmessage : ∀ i m, list[i]? = some m → s₀.memory.message p i = m)
    (hdepths : Depths txDepth rxDepth s₀.device) :
    Contract (fifo txDepth rxDepth) s₀ p list.length where
  calm h := h.Empty ∧ h.executed = s₀.hw.executed
  cleared h := h.Cleared ∧ h.executed = s₀.hw.executed
  on s :=
    OnSent p list s₀.memory.byte s ∧ Vigilant s₀.hw.executed list s
      ∧ Truthful s₀.hw.executed list s ∧ Roused s
  left r s :=
    (OnSent p list s₀.memory.byte s ∧ Vigilant s₀.hw.executed list s
        ∧ Truthful s₀.hw.executed list s ∧ Slept r s)
      ∧ s.sleeper = .running
  done r s := Ended Fifo.Empty list s₀.memory.byte s ∧ Woken s₀.hw.executed list r s
  calm_step h h' hcalm hstep := by
    rw [hcalm.1.step hstep]
    apply hcalm
  calm_read reg h v hcalm hreg _ :=
    ⟨hcalm.1.read hreg, (Fifo.executed_read reg h).trans hcalm.2⟩
  calm_write v reg h hcalm hreg :=
    ⟨hcalm.1.write hreg, (Fifo.executed_write _ v reg h).trans hcalm.2⟩
  cleared_clrIntr h v hcalm _ := ⟨hcalm.1.cleared, (Fifo.executed_read .clrIntr h).trans hcalm.2⟩
  cleared_calm h hcleared := ⟨hcleared.1.toEmpty, hcleared.2⟩
  cleared_step h h' hcleared hstep := by
    rw [hcleared.1.toEmpty.step hstep]
    apply hcleared
  cleared_read reg h v hcleared hreg _ :=
    ⟨hcleared.1.read hreg, (Fifo.executed_read reg h).trans hcleared.2⟩
  cleared_write h hcleared := ⟨{ hcleared.1 with }, hcleared.2⟩
  on_start s hdevice hmemory hlive' hpreparing hsleeper hlog henable hmask hcleared := by
    refine ⟨?_, ?_, ?_, ?_⟩
    . apply (orderContract s₀ p list hlive hmessage (Fifo.Empty.calm txDepth rxDepth)).on_start s
        hdevice hmemory hlive' hpreparing hsleeper hlog henable hmask hcleared.1.toEmpty
    . rw [← hcleared.2]
      apply Vigilant.start hdepths hdevice hmemory hsleeper hlog henable hmask hcleared.1
    . rintro ⟨before, after, status, heq, _⟩
      have hnot := hlog.not_mem (e := .wakeup) (by simp [Event.Preparatory])
      have hmem : Event.wakeup ∈ s.log ++ [.write intrDefaultMask .intrMask] := by
        apply (congrArg (Event.wakeup ∈ ·) heq).mpr
        simp
      simp [hnot] at hmem
    . intro hwoken
      have := hsleeper.symm.trans hwoken
      contradiction
  on_stable := Roused.preserved.stable
  on_sleep s h _ :=
    ⟨h.1.append .enterSleep (by simp) rfl, h.2.1.mark .enterSleep (by simp) (by simp),
      h.2.2.1.append .enterSleep (by simp) id rfl, by simp [Roused]⟩
  on_leave s r h hsleeper hr := by
    refine ⟨⟨h.1.append .sleep (by simp) rfl, h.2.1.mark .sleep (by simp) (by simp),
      h.2.2.1.append .sleep (by simp) id rfl, by simp, ?_⟩, rfl⟩
    intro hawakened
    apply List.mem_append_left
    apply h.2.2.2
    apply hr.mp hawakened
  left_stable r := (Slept.preserved r).stable.and stable_running
  left_off s r h :=
    ⟨h.1.1.ended (Fifo.Empty.calm txDepth rxDepth) h.2,
      { truthful := h.1.2.2.1.append (.write (by simp)) (by simp) (Fifo.tx_write (by simp))
          (Fifo.executed_write txDepth.toNat 0 .enable s.hw)
        slept := List.mem_append_left _ h.1.2.2.2.1
        awakened := fun hr => List.mem_append_left _ (h.1.2.2.2.2 hr)
        woken := fun hmem => by
          rw [List.mem_append, List.mem_singleton] at hmem
          rw [Completed.concat_iff]
          exact (h.1.2.1.woken (hmem.resolve_right (by simp))).imp_right .inl }⟩
  done_idle r := (Ended.idle (Fifo.Empty.calm txDepth rxDepth)).and_untouched Woken.untouched
  done_return s r h := ⟨{ h.1 with }, { h.2 with truthful := fun hc => { h.2.truthful hc with } }⟩
  done_error s r h := h.1.commandError

/-! The bytes of a transfer. -/

theorem places_goodSegments (hgood : ∀ m ∈ list, m.Good a) :
    (goodSegments a list).flatten.map (fun place => (place.message, place.offset))
      = list.flatMap fun m => (List.range m.length.toNat).map fun k => (m, k) := by
  induction list with
  | nil => rfl
  | cons m list ih =>
    rw [List.forall_mem_cons] at hgood
    rw [goodSegments, if_pos hgood.1, List.flatten_cons, List.map_append, ih hgood.2,
      List.flatMap_cons]
    congr 1
    unfold BusMessage.places
    rw [List.map_map]
    rfl

theorem Whole.places (hwhole : Whole list) :
    (places list).map (fun place => (place.message, place.offset))
      = list.flatMap fun m => (List.range m.length.toNat).map fun k => (m, k) := by
  cases list with
  | nil => rfl
  | cons m list =>
    apply places_goodSegments
    intro m' hm'
    apply hwhole m' hm' m rfl

structure Transferred (e₀ : List Word) (list : List BusMessage) (byte₀ : Address → Byte)
    (s : State (fifo txDepth rxDepth)) : Prop where
  places : (places list).map (fun place => (place.message, place.offset))
    = list.flatMap fun m => (List.range m.length.toNat).map fun k => (m, k)
  sent : Sent list byte₀ s.log
  written : (words s.log).length = (VoodooI2C.places list).length
  executed : s.hw.executed = e₀ ++ words s.log
  stored : Stored list byte₀ s.memory.byte s.log
  received : (pops s.log).length = (readAddresses list).length

theorem Moved.transferred (h : Moved e₀ list s)
    (hsent : Sent list byte₀ s.log) (hsettled : Settled list byte₀ s) :
    Transferred e₀ list byte₀ s where
  places := h.whole.places
  sent := hsent
  written := h.written
  executed := h.executed
  stored := hsettled.1
  received := h.received

/-! A run of the handler while no interrupt of a transfer is enabled. -/

section Uncleared

variable {H : Hardware} [RegisterFile H] {s : State H} {A : State H → Prop} {log : List Event}

def Uncleared (log : List Event) (s : State H) : Prop :=
  ∃ new, s.log = log ++ new ∧ ∀ v, .read .clrStopDet v ∉ new

omit [RegisterFile H] in
theorem Uncleared.stable : (system H).Stable (Uncleared (H := H) log) := by
  rintro s _ h ⟨hw, _, rfl⟩
  apply h

omit [RegisterFile H] in
theorem Uncleared.next {op : Op} {r : op.Ans} (h : Uncleared log s) (hop : HandlerOp op)
    (hstop : op ≠ .readRegister .clrStopDet) : Uncleared log (State.next op s r) := by
  rcases h with ⟨new, hnew, hnot⟩
  rcases log_next_handlerOp (s := s) (r := r) hop with hlog | ⟨e, hlog, _, he⟩
  . exact ⟨new, hlog.trans hnew, hnot⟩
  . refine ⟨new ++ [e], ?_, ?_⟩
    . rw [hlog, hnew, List.append_assoc]
    . intro v hmem
      rw [List.mem_append, List.mem_singleton] at hmem
      rcases hmem with hmem | heq
      . apply hnot v hmem
      . apply hstop
        apply he _ v heq.symm

theorem performs_service_zero :
    (service 0).Performs fun op => HandlerOp op ∧ op ≠ .readRegister .clrStopDet := by
  have hplain : ∀ op, PlainOp 0 op → HandlerOp op ∧ op ≠ .readRegister .clrStopDet := by
    intro op hop
    refine ⟨hop.handlerOp, ?_⟩
    rintro rfl
    have := hop.2.2.2.1 rfl
    simp at this
  have hwakeup : ∀ op, WakeupOp op → HandlerOp op ∧ op ≠ .readRegister .clrStopDet := by
    intro op hop
    refine ⟨hop.handlerOp, ?_⟩
    rintro rfl
    contradiction
  unfold service
  apply Prog.performs_bind (Prog.performs_mono plainOp_clear hplain)
  intro _
  rw [if_neg (by simp)]
  apply Prog.performs_bind (Prog.performs_mono plainOp_receive hplain)
  intro _
  apply Prog.performs_bind (Prog.performs_mono plainOp_send hplain)
  intro _
  apply Prog.performs_mono (performs_wakeup 0) hwakeup

theorem wp_handleInterrupt_uncleared (hA : Quiet A)
    (hoff : (∀ s, A s → s.device.awake = true → value s.hw .enable = 0)
      ∨ ∀ s, A s → value s.hw .intrMask = 0) (h : A s) :
    wp (system H) (fun _ _ => True) handleInterrupt (fun _ => Uncleared s.log) s := by
  have hquiet : Quiet (Uncleared (H := H) s.log) :=
    { stable := Uncleared.stable
      next := fun op s' r hop h' _ => by
        apply h'.next hop.quietOp.handlerOp
        rintro rfl
        rcases hop with hop | hop <;> contradiction }
  apply wp_handleInterrupt (hA.and hquiet)
  . intro _ _ _ _
    trivial
  . apply Uncleared.stable
  . intro _ h'
    apply h'.2
  . intro _ _
    trivial
  . exact ⟨h, [], by simp, by simp⟩
  . intro s' enabled h' hawake hread hne s'' h''
    rcases hoff with hoff | hoff
    . have := canRead_holds hread (by rfl)
      rw [hoff s' h'.1 hawake] at this
      contradiction
    . rw [serviceInterrupt_eq]
      apply wp_readRegister
      intro hw hsteps
      refine ⟨trivial, ?_⟩
      intro status hread'
      have hzero : status = 0 := by
        rw [← canRead_intrStat hread', hoff _ (hA.steps h''.1 hsteps)]
        simp
      subst hzero
      apply wp_performs performs_service_zero Uncleared.stable
      . intro _ _ _ _
        trivial
      . intro op s r hop h _
        apply h.next hop.1 hop.2
      . have hread₀ : Uncleared s.log
            (State.next (.readRegister .intrStat) { s'' with hw := hw } 0) := by
          apply Uncleared.next (hquiet.steps h''.2 hsteps)
          . simp [HandlerOp]
          . simp
        apply hread₀

end Uncleared

def CompletionWatched (s₀ : State (fifo txDepth rxDepth)) (list : List BusMessage) (op : Op)
    (s : State (fifo txDepth rxDepth)) : Prop :=
  op = .commandWakeup →
    WakeGuard s₀.hw.executed list s₀.memory.byte s ∧ Sent list s₀.memory.byte s.log

section Runs

variable {hlive : s₀.live = some (p, list.length)}
  {hmessage : ∀ i m, list[i]? = some m → s₀.memory.message p i = m}
  {hdepths : Depths txDepth rxDepth s₀.device}

theorem completionContract_wp_handleInterrupt
    (h : (completionContract s₀ p list hlive hmessage hdepths).Phase s) :
    wp (system (fifo txDepth rxDepth)) (CompletionWatched s₀ list) handleInterrupt
      (fun _ _ => True) s := by
  have hquiet : ∀ op (s : State (fifo txDepth rxDepth)),
      QuietOp op ∨ op = .writeRegister 0 .intrMask → CompletionWatched s₀ list op s := by
    rintro op s hop rfl
    rcases hop with hop | hop <;> contradiction
  apply (completionContract s₀ p list hlive hmessage hdepths).wp_handleInterrupt
  . intro op s hop _ _
    apply hquiet op s hop
  . intro s h
    apply wp_mono (Roused.preserved.wp_handleInterrupt h.1 h.2.1 h.2.2)
    . intro op s h hop
      exact ⟨h.1.2.2.2.2 hop, h.2.1⟩
    . intro _ _ _
      trivial
  . intro r s h
    apply wp_mono ((Slept.preserved r).wp_handleInterrupt h.1.1 h.1.2.1 h.1.2.2)
    . intro op s h hop
      exact ⟨h.1.2.2.2.2 hop, h.2.1⟩
    . intro _ _ _
      trivial
  . intro r op s hop _
    apply hquiet op s (.inl hop)
  . apply h

theorem completionContract_answered {s' : State (fifo txDepth rxDepth)} {new : List Event} {v : Word}
    (h : (completionContract s₀ p list hlive hmessage hdepths).Phase s)
    (hexec : Exec (system (fifo txDepth rxDepth)) handleInterrupt s () s')
    (hnew : s'.log = s.log ++ new) (hmem : .read .clrStopDet v ∈ new) : .wakeup ∈ new := by
  have huncleared : ∀ {A : State (fifo txDepth rxDepth) → Prop}, Quiet A →
      ((∀ s, A s → s.device.awake = true → value s.hw .enable = 0)
        ∨ ∀ s, A s → value s.hw .intrMask = 0) → A s → .wakeup ∈ new := by
    intro A hA hoff h
    rcases hexec.wp (wp_handleInterrupt_uncleared hA hoff h) with ⟨new', hnew', hnot⟩
    rw [hnew] at hnew'
    rw [List.append_cancel_left hnew'] at hmem
    exact absurd hmem (hnot v)
  have hanswered : Begun s.log → Answered s'.log → .wakeup ∈ new := by
    intro hbegun hanswered
    rcases List.append_of_mem hmem with ⟨before, after, rfl⟩
    rw [List.mem_append, List.mem_cons]
    right
    right
    apply hanswered (s.log ++ before) v after
    . rw [hnew, List.append_assoc]
    . apply List.mem_append_left _ hbegun
  rcases h with ⟨d, preparing, h⟩ | h | h | ⟨r, h⟩ | ⟨r, h⟩
  . have hidle := Contract.Resting.idle (completionContract s₀ p list hlive hmessage hdepths) d preparing
    apply huncleared hidle.quiet (.inl hidle.off) h
  . have hmasked := Contract.Armed.masked (completionContract s₀ p list hlive hmessage hdepths)
      (completionContract s₀ p list hlive hmessage hdepths).calm_step
      (completionContract s₀ p list hlive hmessage hdepths).calm_read
      (fun h hh => (completionContract s₀ p list hlive hmessage hdepths).calm_write _ _ h hh (by simp))
    apply huncleared hmasked.quiet (.inr hmasked.mask) h
  . have h' := (completionContract s₀ p list hlive hmessage hdepths).on_stable s s' h (.inr hexec)
    apply hanswered h.2.1.begun h'.2.1.answered
  . have h' := (completionContract s₀ p list hlive hmessage hdepths).left_stable r s s' h (.inr hexec)
    apply hanswered h.1.2.1.begun h'.1.2.1.answered
  . have hidle := (completionContract s₀ p list hlive hmessage hdepths).done_idle r
    apply huncleared hidle.quiet (.inl hidle.off) h

end Runs

section Claim

variable {memory : Memory} {c : Config (system (fifo txDepth rxDepth)) IOReturn}

theorem completionContract_resting (h₀ : AtRest Fifo.Empty s)
    (hdepths : Depths txDepth rxDepth s.device)
    (hmessage : ∀ i m, list[i]? = some m → memory.message p i = m) :
    ∃ preparing, (completionContract (State.next (.beginTransfer p list) s memory) p list rfl hmessage
      hdepths).Resting (State.next (.beginTransfer p list) s memory).device preparing
      (State.next (.beginTransfer p list) s memory) := by
  have hresting := h₀.resting (Fifo.Empty.calm txDepth rxDepth) hmessage
  exact ⟨_, { hresting with calm := ⟨hresting.calm, rfl⟩ }⟩

/--
The handler wakes up the caller only when everything was transferred, unless it has seen an abort, and
in every run in which it clears `STOP_DET`.
-/
theorem transferI2C_wakeup (h₀ : Between s) (hdepths : Depths txDepth rxDepth s.device)
    (hmessage : ∀ i m, list[i]? = some m → memory.message p i = m) (hwhole : Whole list)
    (hc : Reachable (system (fifo txDepth rxDepth)) handleInterrupt
      (State.next (.beginTransfer p list) s memory) (transferI2C p list.length) c) :
    (∀ k, c.handler = some (.call .commandWakeup k) →
      ∃ status, lastStatus c.state.log = some status
        ∧ (status &&& intrTxAbrt = 0 → Transferred s.hw.executed list memory.byte c.state))
      ∧ (c.handler = none → ∀ s' new v,
          Exec (system (fifo txDepth rxDepth)) handleInterrupt c.state () s' →
          s'.log = c.state.log ++ new → .read .clrStopDet v ∈ new → .wakeup ∈ new) := by
  have hrest := h₀.atRest (Fifo.Empty.calm txDepth rxDepth)
  have hresting := completionContract_resting hrest hdepths hmessage
  constructor
  . intro k hhd
    have hwatched := Contract.reachable_handler (fun _ h => completionContract_wp_handleInterrupt h)
      hresting hc hhd
    rcases hwatched rfl with ⟨⟨hsettled, status, hlast, _, hmoved⟩, hsent⟩
    refine ⟨status, hlast, ?_⟩
    intro habrt
    apply (hmoved habrt hwhole).transferred hsent hsettled
  . intro hnone s' new v hexec hnew hmem
    rcases hresting with ⟨preparing, hresting⟩
    have hphase := hc.idle (fun _ _ h => h.1) (fun _ _ h => h.1.phase)
      (fun _ h => completionContract_wp_handleInterrupt h) (Contract.wp_transferI2C hresting) hnone
    apply completionContract_answered hphase hexec hnew hmem

end Claim

/-! The handler sends a byte, sees the end of the transfer and is about to wake up the caller. -/

def wakeupRun : Config (system smallFifo) IOReturn :=
  timeoutPlayer.play handleInterrupt
    (List.replicate 28 .main ++ [.handler, .env] ++ List.replicate 9 .handlerStep)
    ⟨State.next (.beginTransfer 7 byteList) readyState (readyState.memory.put byteList),
      transferI2C 7 byteList.length, none⟩

def aboutToWake (h : Option (Driver Unit)) : Bool :=
  match h with
  | some (.call .commandWakeup _) => true
  | _ => false

theorem call_of_aboutToWake {h : Option (Driver Unit)} (hwake : aboutToWake h = true) :
    ∃ k, h = some (.call .commandWakeup k) := by
  unfold aboutToWake at hwake
  split at hwake
  . exact ⟨_, rfl⟩
  . contradiction

theorem whole_byteList : Whole byteList := by
  intro m hm m₀ hm₀
  have : m = m₀ := by
    simp [byteList] at hm hm₀
    rw [hm, hm₀]
  subst this
  simp [byteList] at hm
  subst hm
  decide

theorem transferI2C_wakeup_byte :
    aboutToWake wakeupRun.handler = true
      ∧ Transferred [] byteList (readyState.memory.put byteList).byte wakeupRun.state := by
  have hdepths : Depths 2 2 readyState.device := ⟨by decide +kernel, by decide +kernel⟩
  have hwake : aboutToWake wakeupRun.handler = true := by decide +kernel
  have hreachable : Reachable (system smallFifo) handleInterrupt
      (State.next (.beginTransfer 7 byteList) readyState (readyState.memory.put byteList))
      (transferI2C 7 byteList.length) wakeupRun := by
    apply timeoutPlayer.reachable_play
  refine ⟨hwake, ?_⟩
  rcases call_of_aboutToWake hwake with ⟨k, hk⟩
  rcases (transferI2C_wakeup between_readyState hdepths Memory.put_message whole_byteList
    hreachable).1 k hk with ⟨status, hlast, htransferred⟩
  have hstatus : lastStatus wakeupRun.state.log = some 0x200 := by decide +kernel
  rw [hlast, Option.some.injEq] at hstatus
  apply htransferred
  rw [hstatus]
  decide

theorem outcome_success {d : BusDevice} (h : outcome r d = .success) : ¬ Troubled d := by
  unfold outcome at h
  rintro (hcommand | hmessage)
  . rw [if_neg hcommand] at h
    split at h
    . contradiction
    . split at h
      . contradiction
      . split at h <;> contradiction
  . rw [if_pos hmessage] at h
    split at h <;> contradiction

section Claim

variable {memory : Memory} {c : Config (system (fifo txDepth rxDepth)) IOReturn}

/--
The transfer succeeds only if everything was transferred, unless the sleep of the caller is interrupted
and the handler never wakes it up.
-/
theorem transferI2C_success {q : Driver IOReturn} (h₀ : Between s)
    (hdepths : Depths txDepth rxDepth s.device)
    (hmessage : ∀ i m, list[i]? = some m → memory.message p i = m)
    (hq : q = prepareTransferI2C p list.length ∨ q = transferI2C p list.length)
    (hc : Reachable (system (fifo txDepth rxDepth)) handleInterrupt
      (State.next (.beginTransfer p list) s memory) q c)
    (hnone : c.handler = none) (hret : c.main = .ret .success)
    (hwoken : .sleep .interrupted ∈ c.state.log → .wakeup ∈ c.state.log) :
    Transferred s.hw.executed list memory.byte c.state := by
  have hrest := h₀.atRest (Fifo.Empty.calm txDepth rxDepth)
  rcases completionContract_resting hrest hdepths hmessage with ⟨preparing, hresting⟩
  have hwp : wp (interrupted (fifo txDepth rxDepth))
      (completionContract (State.next (.beginTransfer p list) s memory) p list rfl hmessage
        hdepths).Guard q
      (fun ret s' => (completionContract (State.next (.beginTransfer p list) s memory) p list rfl
        hmessage hdepths).Returns ret s' ∧ s'.preparing = none)
      (State.next (.beginTransfer p list) s memory) := by
    rcases hq with rfl | rfl
    . apply Contract.wp_prepareTransferI2C hresting
    . apply Contract.wp_transferI2C hresting
  have hreturns := hc.main_returns (fun _ _ h => h.1) (fun _ _ h => h.1.phase)
    (fun _ h => completionContract_wp_handleInterrupt h) hwp hnone hret
  rcases hreturns.1 with ⟨hbusy, _⟩ | ⟨r, houtcome, hended, hdone⟩
  . contradiction
  . have houtcome : IOReturn.success = outcome r c.state.device := houtcome
    have hwakeup : .wakeup ∈ c.state.log := by
      cases r with
      | awakened => apply hdone.awakened rfl
      | timedOut => contradiction
      | interrupted => apply hwoken hdone.slept
    have hcompleted := (hdone.woken hwakeup).resolve_left (outcome_success houtcome.symm)
    apply (hdone.truthful hcompleted).transferred hended.sent hended.settled

end Claim

theorem transferI2C_success_byte :
    (byteRun 28).main = .ret .success
      ∧ Transferred [] byteList (readyState.memory.put byteList).byte (byteRun 28).state := by
  have hdepths : Depths 2 2 readyState.device := ⟨by decide +kernel, by decide +kernel⟩
  have hret : (byteRun 28).main = .ret .success := by rfl
  refine ⟨hret, ?_⟩
  apply transferI2C_success between_readyState hdepths Memory.put_message (.inr rfl)
    (reachable_byteRun 28) rfl hret
  decide +kernel

/-! The sleep of the caller is interrupted before the handler sends the byte. -/

def interruptedRun : Config (system smallFifo) IOReturn :=
  interruptedPlayer.play handleInterrupt (List.replicate 48 .main)
    ⟨State.next (.beginTransfer 7 byteList) readyState (readyState.memory.put byteList),
      transferI2C 7 byteList.length, none⟩

theorem not_transferI2C_success :
    Reachable (system smallFifo) handleInterrupt
        (State.next (.beginTransfer 7 byteList) readyState (readyState.memory.put byteList))
        (transferI2C 7 byteList.length) interruptedRun
      ∧ Between readyState
      ∧ interruptedRun.handler = none
      ∧ interruptedRun.main = .ret .success
      ∧ words interruptedRun.state.log = []
      ∧ ∀ e₀, ¬ Transferred e₀ byteList (readyState.memory.put byteList).byte
          interruptedRun.state := by
  have hwords : words interruptedRun.state.log = [] := by decide +kernel
  refine ⟨interruptedPlayer.reachable_play _ _, between_readyState, rfl, rfl, hwords, ?_⟩
  intro e₀ htransferred
  have hwritten := htransferred.written
  rw [hwords] at hwritten
  contradiction

end VoodooI2C
