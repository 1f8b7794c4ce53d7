import VoodooI2C.Isolation.Handler

/-!
This module contains that a transfer does not depend on what earlier transfers have left behind. Until
`prepareTransferI2C` has stored its arguments the two drivers may differ in everything that it sets,
but then the handler looks at none of it.
-/

namespace VoodooI2C

namespace Isolation

open Interaction RegisterFile

variable {H : Hardware} [RegisterFile H] {α : Type} {p : Pointer} {number : Nat} {s t : State H}
  {d d' : BusDevice}

/--
Two states in which the handler does nothing because the driver sleeps or the controller is off.
-/
structure Dormant (d d' : BusDevice) (p : Pointer) (number : Nat) (s t : State H) : Prop where
  log : t.log = s.log
  memory : SameMessages p number s.memory t.memory
  left : s.device = d
  right : t.device = d'
  configuration : SameConfiguration d d'
  offLeft : d.awake = true → value s.hw .enable = 0
  offRight : d'.awake = true → value t.hw .enable = 0

theorem Dormant.steps (h : Dormant d d' p number s t) {hw hw' : H.State} (hsteps : H.Steps s.hw hw)
    (hsteps' : H.Steps t.hw hw') :
    Dormant d d' p number { s with hw := hw } { t with hw := hw' } :=
  { h with
    offLeft := by
      intro hawake
      rw [value_steps hsteps (by rfl), h.offLeft hawake]
    offRight := by
      intro hawake
      rw [value_steps hsteps' (by rfl), h.offRight hawake] }

theorem Dormant.stable (d d' : BusDevice) (p : Pointer) (number : Nat) :
    (pair H).Stable fun x => Dormant d d' p number x.1 x.2 := by
  rintro ⟨s, t⟩ y h henv
  rcases pair_env (.single henv) with ⟨hw, hw', hsteps, hsteps', rfl⟩
  apply h.steps hsteps hsteps'

theorem Dormant.read (h : Dormant d d' p number s t) (reg : Register) (v : Word) :
    Dormant d d' p number { s with hw := H.read reg v s.hw, log := s.log ++ [.read reg v] }
      { t with hw := H.read reg v t.hw, log := t.log ++ [.read reg v] } :=
  { h with
    log := by simp only [h.log]
    offLeft := by
      intro hawake
      rw [value_read (by rfl), h.offLeft hawake]
    offRight := by
      intro hawake
      rw [value_read (by rfl), h.offRight hawake] }

theorem Dormant.write (h : Dormant d d' p number s t) {v : Word} {reg : Register}
    (henable : reg = .enable → v = 0) :
    Dormant d d' p number { s with hw := H.write v reg s.hw, log := s.log ++ [.write v reg] }
      { t with hw := H.write v reg t.hw, log := t.log ++ [.write v reg] } :=
  { h with
    log := by simp only [h.log]
    offLeft := fun hawake => value_enable_write (h.offLeft hawake) henable
    offRight := fun hawake => value_enable_write (h.offRight hawake) henable }

theorem Dormant.update (h : Dormant d d' p number s t) {f : BusDevice → BusDevice}
    (hf : SameConfiguration (f d) (f d')) (hawake : (f d).awake = d.awake) :
    Dormant (f d) (f d') p number { s with device := f s.device }
      { t with device := f t.device } :=
  { h with
    left := by rw [h.left]
    right := by rw [h.right]
    configuration := hf
    offLeft := by
      rw [hawake]
      apply h.offLeft
    offRight := by
      rw [hf.awake, hawake, ← h.configuration.awake]
      apply h.offRight }

theorem Dormant.wp_handleInterrupt (h : Dormant d d' p number s t) :
    Pair.wp (pair H) SameLog handleInterrupt handleInterrupt
      (fun _ _ y => Dormant d d' p number y.1 y.2) (s, t) := by
  have hpure : ∀ s t : State H, Dormant d d' p number s t →
      Pair.wp (pair H) SameLog (pure ()) (pure ())
        (fun (_ _ : Unit) y => Dormant d d' p number y.1 y.2) (s, t) := by
    intro s t h
    apply Pair.wp_pure (V := pair H) (Q := fun _ _ y => Dormant d d' p number y.1 y.2) _ h
    apply Dormant.stable
  unfold handleInterrupt
  apply wp_local local_disableInterrupt local_disableInterrupt h.log
  apply Pair.wp_bind
  apply Pair.wp_post (Q := fun _ _ (y : State H × State H) => Dormant d d' p number y.1 y.2)
  . unfold handleInterrupt.body
    apply wp_device h.log
    rw [h.left, h.right, h.configuration.awake]
    split
    . next hawake =>
      apply wp_readRegister h.log
      intro hw hw' enabled hsteps hsteps' hv _
      have h₁ := h.steps hsteps hsteps'
      have henabled := canRead_holds hv (by rfl)
      rw [h₁.offLeft hawake] at henabled
      have h₂ := h₁.read .enable enabled
      apply wp_readRegister h₂.log
      intro hw₁ hw₁' status hsteps₁ hsteps₁' _ _
      rw [if_neg (not_not_intro (.inl henabled))]
      apply hpure _ _ ((h₂.steps hsteps₁ hsteps₁').read .rawIntrStat status)
    . apply hpure _ _ h
  . rintro _ _ ⟨s₁, t₁⟩ h₁
    apply Pair.wp_tail
    apply wp_local local_enableInterrupt local_enableInterrupt h₁.log
    apply hpure _ _ h₁

theorem Dormant.stable_interrupted (d d' : BusDevice) (p : Pointer) (number : Nat) :
    (interruptedPair H).Stable fun x => Dormant d d' p number x.1 x.2 := by
  apply Pair.stable_interrupted (Dormant.stable d d' p number)
  rintro ⟨s, t⟩ h
  apply Pair.wp_mono h.wp_handleInterrupt
  . intro _ _ _
    trivial
  . intro _ _ _ h
    apply h

def Phase (p : Pointer) (number : Nat) (x : State H × State H) : Prop :=
  (∃ d d', Dormant d d' p number x.1 x.2) ∨ Twin p number x.1 x.2

theorem Phase.log {x : State H × State H} (h : Phase p number x) : x.2.log = x.1.log := by
  rcases h with ⟨_, _, h⟩ | h
  . apply h.log
  . apply h.log

theorem Phase.wp_handleInterrupt {x : State H × State H} (h : Phase p number x) :
    Pair.wp (pair H) SameLog handleInterrupt handleInterrupt (fun _ _ _ => True) x := by
  rcases h with ⟨_, _, h⟩ | h
  . apply Pair.wp_post h.wp_handleInterrupt
    intro _ _ _ _
    trivial
  . apply Pair.wp_post (stays_handleInterrupt _ _ h)
    intro _ _ _ _
    trivial

/-! What the thread of the caller does. -/

/--
The accesses to registers that switch the controller to `enabled` if at all.
-/
def RegisterOp (enabled : VoodooI2CState) (op : Op) : Prop :=
  match op with
  | .readRegister _ => True
  | .writeRegister v reg => reg = .enable → v = enabled.toWord
  | _ => False

def BusOp (enabled : VoodooI2CState) (op : Op) : Prop := RegisterOp enabled op ∨ op = .device

variable {enabled : VoodooI2CState} {op : Op}

theorem RegisterOp.ne_device (h : RegisterOp enabled op) : op ≠ .device := by
  rintro rfl
  apply h

theorem RegisterOp.busOp (h : RegisterOp enabled op) : BusOp enabled op := .inl h

theorem BusOp.twinOp (h : BusOp enabled op) : TwinOp op := by
  rcases h with h | rfl
  . cases op with
    | readRegister _ | writeRegister _ _ => trivial
    | _ => contradiction
  . trivial

def BlindOp (op : Op) : Prop := TwinOp op ∧ op ≠ .device

theorem RegisterOp.blindOp (h : RegisterOp enabled op) : BlindOp op :=
  ⟨h.busOp.twinOp, h.ne_device⟩

theorem registerOp_toggleBusState (enabled : VoodooI2CState) :
    (toggleBusState enabled).Performs (RegisterOp enabled) := by
  unfold toggleBusState
  generalize 1000 = timeout
  induction timeout with
  | zero =>
    unfold toggleBusState.go
    simp only [performs_writeRegister_bind, performs_readRegister_bind]
    refine ⟨fun _ => rfl, trivial, fun status => ?_⟩
    split <;> apply performs_pure
  | succ timeout ih =>
    unfold toggleBusState.go
    simp only [performs_writeRegister_bind, performs_readRegister_bind]
    refine ⟨fun _ => rfl, trivial, fun status => ?_⟩
    split
    . apply performs_pure
    . apply ih

theorem registerOp_waitBusNotBusyI2C : waitBusNotBusyI2C.Performs (RegisterOp .off) := by
  unfold waitBusNotBusyI2C
  generalize 20 * 150 = timeout
  induction timeout with
  | zero =>
    unfold waitBusNotBusyI2C.go
    simp only [performs_readRegister_bind]
    refine ⟨trivial, fun status => ?_⟩
    split <;> apply performs_pure
  | succ timeout ih =>
    unfold waitBusNotBusyI2C.go
    simp only [performs_readRegister_bind]
    refine ⟨trivial, fun status => ?_⟩
    split
    . apply ih
    . apply performs_pure

theorem registerOp_toggleInterrupts (enabled : VoodooI2CState) :
    (toggleInterrupts enabled).Performs (RegisterOp enabled) := by
  unfold toggleInterrupts
  split <;> simp [RegisterOp]

theorem registerOp_writeConfiguration (orig i2cConfiguration : Word) :
    (requestTransferI2C.writeConfiguration orig i2cConfiguration).Performs (RegisterOp .off) := by
  unfold requestTransferI2C.writeConfiguration
  split
  . simp [RegisterOp]
  . apply performs_pure

theorem registerOp_writeSdaHold (d : BusDevice) :
    (initialiseBus.writeSdaHold d).Performs (RegisterOp .off) := by
  unfold initialiseBus.writeSdaHold
  split
  . simp [RegisterOp]
  . apply performs_pure

theorem busOp_initialiseBus : initialiseBus.Performs (BusOp .off) := by
  have hwrite : ∀ v reg, reg ≠ .enable → BusOp .off (.writeRegister v reg) :=
    fun _ _ hreg => .inl fun heq => absurd heq hreg
  unfold initialiseBus
  apply Prog.performs_bind
  . exact Prog.performs_mono (registerOp_toggleBusState .off) fun _ h => h.busOp
  . intro ret
    split
    . apply performs_pure
    . simp only [performs_device_bind, performs_writeRegister_bind]
      refine ⟨.inr rfl, fun d => ?_⟩
      refine ⟨hwrite _ _ (by simp), hwrite _ _ (by simp), hwrite _ _ (by simp), hwrite _ _ (by simp),
        ?_⟩
      apply Prog.performs_bind
      . exact Prog.performs_mono (registerOp_writeSdaHold d) fun _ h => h.busOp
      . intro _
        simp only [performs_writeRegister_bind]
        refine ⟨hwrite _ _ (by simp), hwrite _ _ (by simp), hwrite _ _ (by simp), ?_⟩
        apply performs_pure

theorem respects_of_registerOp {D : BusDevice → BusDevice → Prop} {q : Driver α}
    (hq : q.Performs (RegisterOp enabled)) : q.Respects (Indifferent D) :=
  respects_of_performs (Prog.performs_mono hq fun _ h => h.ne_device)

theorem respects_initialiseBus : initialiseBus.Respects (Indifferent SameConfiguration) := by
  unfold initialiseBus
  apply Prog.respects_bind (respects_of_registerOp (registerOp_toggleBusState .off))
  intro ret
  split
  . apply Prog.respects_pure
  . apply respects_device_bind
    . intro d d' h
      unfold initialiseBus.writeSdaHold
      rw [h.acpiConfig, h.transactionFifoDepth, h.busConfig]
    . intro d
      apply respects_of_performs
      simp only [performs_writeRegister_bind]
      refine ⟨by simp, by simp, by simp, by simp, ?_⟩
      apply Prog.performs_bind
      . exact Prog.performs_mono (registerOp_writeSdaHold d) fun _ h => h.ne_device
      . intro _
        simp only [performs_writeRegister_bind, performs_pure]
        simp

abbrev PhaseGuard (p : Pointer) (number : Nat) (_ : Op × Op) (x : State H × State H) : Prop :=
  Phase p number x

theorem Dormant.next (h : Dormant d d' p number s t) (hop : BusOp .off op) (r : op.Ans × op.Ans)
    (hr : (pair H).admits (op, op) (s, t) r) :
    Indifferent SameConfiguration op r.1 r.2
      ∧ Dormant d d' p number (State.next op s r.1) (State.next op t r.2) := by
  rcases r with ⟨r, r'⟩
  rcases hr with ⟨hr, hr', hsame⟩
  rcases hop with hop | rfl
  . cases op with
    | readRegister reg =>
      have heq : r = r' := hsame rfl
      subst heq
      exact ⟨rfl, h.read reg r⟩
    | writeRegister v reg => exact ⟨rfl, h.write hop⟩
    | _ => contradiction
  . have hr : r = s.device := hr
    have hr' : r' = t.device := hr'
    subst hr hr'
    refine ⟨?_, h⟩
    simp only [h.left, h.right]
    apply h.configuration

theorem Dormant.wp_same {q : Driver α} (h : Dormant d d' p number s t)
    (hq : q.Performs (BusOp .off)) (hS : q.Respects (Indifferent SameConfiguration)) :
    Pair.wp (interruptedPair H) (PhaseGuard p number) q q
      (fun a b y => a = b ∧ Dormant d d' p number y.1 y.2) (s, t) := by
  apply Pair.wp_same (V := interruptedPair H) hq hS (Dormant.stable_interrupted d d' p number) _ _ h
  . intro op x _ hx
    exact .inl ⟨d, d', hx⟩
  . rintro op ⟨s, t⟩ r hop hx hr
    apply hx.next hop r hr

theorem Twin.wp_same {q : Driver α} (h : Twin p number s t) (hq : q.Performs TwinOp)
    (hS : q.Respects (Indifferent (Alike False))) :
    Pair.wp (interruptedPair H) (PhaseGuard p number) q q
      (fun a b y => a = b ∧ Twin p number y.1 y.2) (s, t) := by
  apply Pair.wp_same (V := interruptedPair H) hq hS (Twin.stable_interrupted p number) _ _ h
  . intro op x _ hx
    exact .inr hx
  . rintro op ⟨s, t⟩ r hop hx hr
    apply hx.next hop r hr

theorem Dormant.wp_registers {q : Driver α} (h : Dormant d d' p number s t)
    (hq : q.Performs (RegisterOp .off)) :
    Pair.wp (interruptedPair H) (PhaseGuard p number) q q
      (fun a b y => a = b ∧ Dormant d d' p number y.1 y.2) (s, t) :=
  h.wp_same (Prog.performs_mono hq fun _ h => h.busOp) (respects_of_registerOp hq)

theorem Twin.wp_blind {q : Driver α} (h : Twin p number s t) (hq : q.Performs BlindOp) :
    Pair.wp (interruptedPair H) (PhaseGuard p number) q q
      (fun a b y => a = b ∧ Twin p number y.1 y.2) (s, t) :=
  h.wp_same (Prog.performs_mono hq fun _ h => h.1)
    (respects_of_performs (Prog.performs_mono hq fun _ h => h.2))

variable {Q : α → α → State H × State H → Prop}

theorem Dormant.wp_step {op : Op} {f g : op.Ans → Driver α} (h : Dormant d d' p number s t)
    (hstep : ∀ s t, Dormant d d' p number s t → ∀ r r', State.admits op s r → State.admits op t r' →
      Pair.wp (interruptedPair H) (PhaseGuard p number) (f r) (g r') Q
        (State.next op s r, State.next op t r')) :
    Pair.wp (interruptedPair H) (PhaseGuard p number) (Prog.perform op >>= f)
      (Prog.perform op >>= g) Q (s, t) := by
  apply Pair.wp_step (V := interruptedPair H) (Dormant.stable_interrupted d d' p number) h
  rintro ⟨s, t⟩ h
  refine ⟨.inl ⟨d, d', h⟩, ?_⟩
  rintro ⟨r, r'⟩ ⟨hr, hr', _⟩
  apply hstep s t h r r' hr hr'

theorem Dormant.wp_device {f g : BusDevice → Driver α} (h : Dormant d d' p number s t)
    (hstep : ∀ s t, Dormant d d' p number s t →
      Pair.wp (interruptedPair H) (PhaseGuard p number) (f d) (g d') Q (s, t)) :
    Pair.wp (interruptedPair H) (PhaseGuard p number) (device >>= f) (device >>= g) Q (s, t) := by
  apply h.wp_step
  intro s t h r r' hr hr'
  have hr : r = d := hr.trans h.left
  have hr' : r' = d' := hr'.trans h.right
  subst hr hr'
  apply hstep s t h

theorem Dormant.wp_update {k : BusDevice → BusDevice} {f g : Unit → Driver α}
    (h : Dormant d d' p number s t) (hawake : (k d).awake = d.awake)
    (hk : SameConfiguration d d' → SameConfiguration (k d) (k d'))
    (hstep : ∀ s t, Dormant (k d) (k d') p number s t →
      Pair.wp (interruptedPair H) (PhaseGuard p number) (f ()) (g ()) Q (s, t)) :
    Pair.wp (interruptedPair H) (PhaseGuard p number) (VoodooI2C.update k >>= f)
      (VoodooI2C.update k >>= g) Q (s, t) := by
  apply h.wp_step
  intro s t h _ _ _ _
  apply hstep
  apply h.update (hk h.configuration) hawake

theorem Dormant.wp_message {i : Nat} {f g : BusMessage → Driver α} (h : Dormant d d' p number s t)
    (hi : i < number ∨ i = 0)
    (hstep : ∀ s t m, Dormant d d' p number s t →
      Pair.wp (interruptedPair H) (PhaseGuard p number) (f m) (g m) Q (s, t)) :
    Pair.wp (interruptedPair H) (PhaseGuard p number) (message p i >>= f) (message p i >>= g) Q
      (s, t) := by
  apply h.wp_step
  intro s t h m m' hm hm'
  have heq : m' = m := hm'.trans ((h.memory.message i hi).trans hm.symm)
  subst heq
  apply hstep s t m' h

theorem Dormant.twin (h : Dormant (d.setup p number) (d'.setup p number) p number s t)
    (hconf : SameConfiguration d d') : Twin p number s t where
  log := h.log
  memory := h.memory
  messages := by
    rw [h.left]
    rfl
  messageNumber := by
    rw [h.left]
    rfl
  device := by
    rw [h.left, h.right]
    apply alike_setup hconf
  cursor := by
    intro hprogress
    rw [h.left] at hprogress
    exact absurd BitVec.zero_and hprogress

theorem Dormant.wp_requestTransferI2C
    (h : Dormant (d.setup p number) (d'.setup p number) p number s t)
    (hconf : SameConfiguration d d') :
    Pair.wp (interruptedPair H) (PhaseGuard p number) requestTransferI2C requestTransferI2C
      (fun a b y => a = b ∧ Twin p number y.1 y.2) (s, t) := by
  unfold requestTransferI2C
  apply h.wp_device
  intro s₁ t₁ h₁
  have hworkaround : (d'.setup p number).accessIntrMaskWorkaround
      = (d.setup p number).accessIntrMaskWorkaround := hconf.accessIntrMaskWorkaround
  rw [hworkaround]
  apply Pair.wp_bind
  apply Pair.wp_post (h₁.wp_same _ _)
  . rintro _ _ ⟨s₂, t₂⟩ ⟨_, h₂⟩
    apply Pair.wp_bind
    apply Pair.wp_post (h₂.wp_registers (q := readRegister .con) (Prog.performs_perform trivial))
    rintro orig _ ⟨s₃, t₃⟩ ⟨rfl, h₃⟩
    apply h₃.wp_device
    intro s₄ t₄ h₄
    apply h₄.wp_message (.inr rfl)
    intro s₅ t₅ m h₅
    dsimp only
    apply Pair.wp_bind
    apply Pair.wp_post (h₅.wp_registers (registerOp_writeConfiguration _ _))
    rintro _ _ ⟨s₆, t₆⟩ ⟨_, h₆⟩
    apply h₆.wp_device
    intro s₇ t₇ h₇
    apply h₇.wp_message (.inr rfl)
    intro s₈ t₈ m' h₈
    apply (h₈.twin hconf).wp_blind
    rw [performs_writeRegister_bind]
    refine ⟨⟨trivial, by simp⟩, ?_⟩
    apply Prog.performs_bind
    . exact Prog.performs_mono (registerOp_toggleInterrupts .off) fun _ h => h.blindOp
    . intro _
      apply Prog.performs_bind
      . exact Prog.performs_mono (registerOp_toggleBusState .on) fun _ h => h.blindOp
      . intro _
        rw [performs_readRegister_bind]
        refine ⟨⟨trivial, by simp⟩, fun _ => ?_⟩
        exact Prog.performs_mono (registerOp_toggleInterrupts .on) fun _ h => h.blindOp
  . unfold requestTransferI2C.disable
    split
    . apply busOp_initialiseBus
    . exact Prog.performs_mono (registerOp_toggleBusState .off) fun _ h => h.busOp
  . unfold requestTransferI2C.disable
    split
    . apply respects_initialiseBus
    . exact respects_of_registerOp (registerOp_toggleBusState .off)

theorem Twin.wp_sleep (h : Twin p number s t) :
    Pair.wp (interruptedPair H) (PhaseGuard p number) commandSleep commandSleep
      (fun a b y => a = b ∧ Twin p number y.1 y.2) (s, t) := by
  apply h.wp_blind
  exact ⟨⟨trivial, by simp⟩, fun _ => ⟨⟨trivial, by simp⟩, fun _ => trivial⟩⟩

theorem Twin.wp_off {q : Driver α} {k : Unit → Driver α}
    (hk : q = (writeRegister 0 .enable >>= k)) (hq : q.Performs (BusOp .off))
    (hS : q.Respects (Indifferent SameConfiguration)) (h : Twin p number s t) :
    Pair.wp (interruptedPair H) (PhaseGuard p number) q q
      (fun a b y => a = b ∧ ∃ d d', Alike False d d' ∧ Dormant d d' p number y.1 y.2) (s, t) := by
  subst hk
  apply Pair.wp_step (V := interruptedPair H) (Twin.stable_interrupted p number) h
  rintro ⟨s₁, t₁⟩ h₁
  refine ⟨.inr h₁, ?_⟩
  intro r _
  have hlog : t₁.log = s₁.log := h₁.log
  have hoff : Dormant s₁.device t₁.device p number (State.next (.writeRegister 0 .enable) s₁ ())
      (State.next (.writeRegister 0 .enable) t₁ ()) := by
    constructor
    . simp only [State.next, hlog]
    . apply h₁.memory
    . rfl
    . rfl
    . apply h₁.device.sameConfiguration
    . intro _
      apply value_write_self (by rfl)
    . intro _
      apply value_write_self (by rfl)
  apply Pair.wp_post (hoff.wp_same (hq.2 ()) (hS.2 ()))
  rintro a _ y ⟨rfl, hy⟩
  exact ⟨rfl, s₁.device, t₁.device, h₁.device.weaken, hy⟩

def Concluded (p : Pointer) (number : Nat) (x : State H × State H) : Prop :=
  ∃ d d', Dormant d d' p number x.1 x.2

theorem Concluded.stable_interrupted (p : Pointer) (number : Nat) :
    (interruptedPair H).Stable (Concluded (H := H) p number) := by
  rintro x y ⟨d, d', h⟩ henv
  exact ⟨d, d', Dormant.stable_interrupted d d' p number x y h henv⟩

theorem Concluded.wp_pure {x : State H × State H} (h : Concluded p number x) (a : α) :
    Pair.wp (interruptedPair H) (PhaseGuard p number) (pure a) (pure a)
      (fun a b y => a = b ∧ Concluded p number y) x := by
  apply Pair.wp_pure (V := interruptedPair H) _ ⟨rfl, h⟩
  intro x y hx henv
  exact ⟨hx.1, Concluded.stable_interrupted p number x y hx.2 henv⟩

theorem Dormant.wp_result (hd : Alike False d d') (h : Dormant d d' p number s t) :
    Pair.wp (interruptedPair H) (PhaseGuard p number) prepareTransferI2C.result
      prepareTransferI2C.result (fun a b y => a = b ∧ Concluded p number y) (s, t) := by
  rcases hd with ⟨l, rfl, _⟩
  unfold prepareTransferI2C.result
  apply h.wp_device
  intro s₁ t₁ h₁
  dsimp only [withLeftover]
  split
  . apply Concluded.wp_pure ⟨_, _, h₁⟩
  . apply h₁.wp_device
    intro s₂ t₂ h₂
    dsimp only [withLeftover]
    split
    . apply Concluded.wp_pure ⟨_, _, h₂⟩
    . apply h₂.wp_device
      intro s₃ t₃ h₃
      dsimp only [withLeftover]
      split
      . apply Concluded.wp_pure ⟨_, _, h₃⟩
      . apply Concluded.wp_pure ⟨_, _, h₃⟩

theorem Dormant.wp_go (h : Dormant d d' p number s t) :
    Pair.wp (interruptedPair H) (PhaseGuard p number) (prepareTransferI2C.go p number)
      (prepareTransferI2C.go p number) (fun a b y => a = b ∧ Concluded p number y) (s, t) := by
  unfold prepareTransferI2C.go
  apply h.wp_device
  intro s₁ t₁ h₁
  rw [h₁.configuration.awake]
  split
  . -- the driver sleeps
    apply Concluded.wp_pure ⟨d, d', h₁⟩
  . apply Pair.wp_bind
    apply Pair.wp_post (h₁.wp_registers registerOp_waitBusNotBusyI2C)
    rintro ret _ ⟨s₂, t₂⟩ ⟨rfl, h₂⟩
    split
    . -- the bus is busy
      apply Concluded.wp_pure ⟨d, d', h₂⟩
    . apply h₂.wp_update rfl (fun h => { h with })
      intro s₃ t₃ h₃
      apply h₃.wp_update rfl (fun h => { h with })
      intro s₃ t₃ h₃
      apply h₃.wp_update rfl (fun h => { h with })
      intro s₃ t₃ h₃
      apply h₃.wp_update rfl (fun h => { h with })
      intro s₃ t₃ h₃
      apply h₃.wp_update rfl (fun h => { h with })
      intro s₃ t₃ h₃
      apply h₃.wp_update rfl (fun h => { h with })
      intro s₃ t₃ h₃
      apply h₃.wp_update rfl (fun h => { h with })
      intro s₃ t₃ h₃
      apply h₃.wp_update rfl (fun h => { h with })
      intro s₃ t₃ h₃
      apply h₃.wp_update rfl (fun h => { h with })
      intro s₃ t₃ h₃
      have hsetup : Dormant (d.setup p number) (d'.setup p number) p number s₃ t₃ := h₃
      apply Pair.wp_bind
      apply Pair.wp_post (hsetup.wp_requestTransferI2C h₂.configuration)
      rintro _ _ ⟨s₄, t₄⟩ ⟨_, h₄⟩
      apply Pair.wp_bind
      apply Pair.wp_post h₄.wp_sleep
      rintro sleep _ ⟨s₅, t₅⟩ ⟨rfl, h₅⟩
      split
      . apply Pair.wp_bind
        apply Pair.wp_post (h₅.wp_off rfl busOp_initialiseBus respects_initialiseBus)
        rintro _ _ x ⟨_, d₆, d₆', _, h₆⟩
        apply Concluded.wp_pure ⟨d₆, d₆', h₆⟩
      . have hoff := registerOp_toggleBusState .off
        apply Pair.wp_bind
        apply Pair.wp_post (h₅.wp_off rfl (Prog.performs_mono hoff fun _ h => h.busOp)
          (respects_of_registerOp hoff))
        rintro _ _ x ⟨_, d₆, d₆', hd, h₆⟩
        apply h₆.wp_result hd

theorem Concluded.wp_prepareTransferI2C {x : State H × State H} (h : Concluded p number x) :
    Pair.wp (interruptedPair H) (PhaseGuard p number) (prepareTransferI2C p number)
      (prepareTransferI2C p number) (fun a b y => a = b ∧ Concluded p number y) x := by
  rcases h with ⟨d, d', h⟩
  unfold prepareTransferI2C
  apply h.wp_step
  intro s₁ t₁ h₁ _ _ _ _
  apply Pair.wp_bind
  apply Pair.wp_post
  . have hgo : Dormant d d' p number (State.next (.reach (.prepareTransferI2C p)) s₁ ())
        (State.next (.reach (.prepareTransferI2C p)) t₁ ()) := { h₁ with }
    apply hgo.wp_go
  . rintro ret _ x ⟨rfl, d₂, d₂', h₂⟩
    apply h₂.wp_step
    intro s₃ t₃ h₃ _ _ _ _
    apply Concluded.wp_pure
    exact ⟨d₂, d₂', { h₃ with }⟩

theorem Concluded.wp_transferI2C {x : State H × State H} (h : Concluded p number x) :
    Pair.wp (interruptedPair H) (PhaseGuard p number) (transferI2C p number)
      (transferI2C p number) (fun a b y => a = b ∧ Concluded p number y) x := by
  unfold transferI2C transferI2CGated
  generalize 5 = tries
  induction tries generalizing x with
  | zero =>
    unfold transferI2CGated.go
    apply h.wp_prepareTransferI2C
  | succ tries ih =>
    unfold transferI2CGated.go
    apply Pair.wp_bind
    apply Pair.wp_post h.wp_prepareTransferI2C
    rintro ret _ y ⟨rfl, hy⟩
    split
    . apply hy.wp_pure
    . apply ih hy

/-! The handler and the caller together. -/

theorem rule (p : Pointer) (number : Nat) :
    Pair.Rule (system H) handleInterrupt SameAnswer (PhaseGuard p number) SameLog
      (Phase p number) fun (a b : α) y => a = b ∧ Concluded p number y where
  guard _ _ h := h
  returned _ _ _ h := .inl h.2
  handler _ h := h.wp_handleInterrupt

end Isolation

end VoodooI2C
