import VoodooI2C.BusConfig.Basic

/-!
This module contains where the counts of `getBusConfig` come from: `getACPIParams` is meant to replace
all outputs that it is asked for or none of them.
-/

namespace VoodooI2C

namespace ACPIResult

def Gives (result : ACPIResult) (i : Nat) (v : Word) : Prop :=
  ∃ values n, result = (.success, some (.array values)) ∧ values[i]? = some (some n)
    ∧ v = n.setWidth 32

def Incomplete (result : ACPIResult) (asked : Nat) : Prop :=
  ∃ values, result = (.success, some (.array values)) ∧ ∃ i < asked, ∀ n, values[i]? ≠ some (some n)

/--
All outputs that `getACPIParams` was asked for are replaced, or it fails and changes none.
-/
def AllOrNothing (result : ACPIResult) (hcnt lcnt : Word) (sdaHold : Option Word) : Prop :=
  (∃ hcnt' lcnt' sdaHold', getACPIParams result hcnt lcnt sdaHold = (.success, hcnt', lcnt', sdaHold')
    ∧ result.Gives 0 hcnt' ∧ result.Gives 1 lcnt' ∧ ∀ v, sdaHold' = some v → result.Gives 2 v)
    ∨ getACPIParams result hcnt lcnt sdaHold = (.notFound, hcnt, lcnt, sdaHold)

def asked (sdaHold : Option Word) : Nat := if sdaHold.isSome then 3 else 2

variable {result : ACPIResult} {hcnt lcnt : Word} {sdaHold : Option Word}
  {values : List (Option (BitVec 64))} {i n : Nat}

theorem gives_number (h : result = (.success, some (.array values))) (i : Nat) (old : Word) :
    result.Gives i (ACPIValue.number values i old) ∨ (∀ n, values[i]? ≠ some (some n)) := by
  unfold ACPIValue.number
  split
  . next v hv =>
    left
    exact ⟨values, v, h, hv, rfl⟩
  . next hv =>
    right
    apply hv

theorem not_gives (h : result = (.success, some (.array values)))
    (hnone : ∀ n, values[i]? ≠ some (some n)) {v : Word} : ¬ result.Gives i v := by
  rintro ⟨values', n, h', hn, _⟩
  rw [h] at h'
  injection h' with _ h'
  injection h' with h'
  injection h' with h'
  subst h'
  exact hnone n hn

theorem gives_of_lt (h : result = (.success, some (.array values))) (hcomplete : ¬ result.Incomplete n)
    (hi : i < n) {old : Word} : result.Gives i (ACPIValue.number values i old) := by
  rcases gives_number h i old with hgives | hnone
  . apply hgives
  . exact absurd ⟨values, h, i, hi, hnone⟩ hcomplete

theorem array_or_notFound (result : ACPIResult) :
    (∃ values, result = (.success, some (.array values)))
      ∨ ∀ hcnt lcnt sdaHold,
        getACPIParams result hcnt lcnt sdaHold = (.notFound, hcnt, lcnt, sdaHold) := by
  unfold getACPIParams
  split
  . next values =>
    left
    exact ⟨values, rfl⟩
  . right
    intro _ _ _
    rfl

theorem allOrNothing_iff (result : ACPIResult) (hcnt lcnt : Word) (sdaHold : Option Word) :
    result.AllOrNothing hcnt lcnt sdaHold ↔ ¬ result.Incomplete (asked sdaHold) := by
  rcases array_or_notFound result with ⟨values, hvalues⟩ | hnotFound
  . have hparams : getACPIParams result hcnt lcnt sdaHold
        = (.success, ACPIValue.number values 0 hcnt, ACPIValue.number values 1 lcnt,
          sdaHold.map (ACPIValue.number values 2)) := by
      rw [hvalues]
      rfl
    unfold AllOrNothing
    rw [hparams]
    constructor
    . rintro (⟨_, _, _, heq, hhcnt, hlcnt, hhold⟩ | heq)
      . rintro ⟨values', hvalues', i, hi, hnone⟩
        have hnot := fun v => not_gives (v := v) hvalues' hnone
        match i with
        | 0 => exact hnot _ hhcnt
        | 1 => exact hnot _ hlcnt
        | i + 2 =>
          injection heq with _ heq
          injection heq with _ heq
          injection heq with _ heq
          cases sdaHold with
          | none =>
            have htwo : asked none = 2 := rfl
            omega
          | some hold =>
            have hthree : asked (some hold) = 3 := rfl
            have hzero : i = 0 := by omega
            subst hzero
            exact hnot _ (hhold _ heq.symm)
      . injection heq with hret
        contradiction
    . intro hcomplete
      left
      refine ⟨_, _, _, rfl, gives_of_lt hvalues hcomplete ?_, gives_of_lt hvalues hcomplete ?_, ?_⟩
      . unfold asked
        split <;> decide
      . unfold asked
        split <;> decide
      . intro v hv
        rcases Option.map_eq_some_iff.mp hv with ⟨hold, hhold, rfl⟩
        apply gives_of_lt hvalues hcomplete
        have hthree : asked (some hold) = 3 := rfl
        rw [hhold, hthree]
        decide
  . have hcomplete : ¬ result.Incomplete (asked sdaHold) := by
      rintro ⟨values, hvalues, _⟩
      have := hnotFound 0 0 none
      rw [hvalues] at this
      injection this with hret
      contradiction
    simp only [hcomplete, not_false_eq_true, iff_true]
    exact .inr (hnotFound _ _ _)

theorem counts_of_complete (hcomplete : ¬ result.Incomplete 2) (hcnt lcnt : Word)
    (sdaHold : Option Word) :
    result.Gives 0 (getACPIParams result hcnt lcnt sdaHold).2.1
        ∧ result.Gives 1 (getACPIParams result hcnt lcnt sdaHold).2.2.1
      ∨ (getACPIParams result hcnt lcnt sdaHold).2.1 = hcnt
        ∧ (getACPIParams result hcnt lcnt sdaHold).2.2.1 = lcnt := by
  rcases array_or_notFound result with ⟨values, hvalues⟩ | hnotFound
  . left
    have hparams : getACPIParams result hcnt lcnt sdaHold
        = (.success, ACPIValue.number values 0 hcnt, ACPIValue.number values 1 lcnt,
          sdaHold.map (ACPIValue.number values 2)) := by
      rw [hvalues]
      rfl
    rw [hparams]
    exact ⟨gives_of_lt hvalues hcomplete (by decide), gives_of_lt hvalues hcomplete (by decide)⟩
  . right
    rw [hnotFound]
    exact ⟨rfl, rfl⟩

end ACPIResult

namespace BusProvider

variable {provider : BusProvider} {d d' : BusDevice}

def OneSource (result : ACPIResult) (properties derived pair : Word × Word) : Prop :=
  result.Gives 0 pair.1 ∧ result.Gives 1 pair.2 ∨ pair = properties ∨ pair = derived

variable (provider)

def SsFromOne (c : BusConfig) : Prop :=
  OneSource provider.sscn (provider.getNumProperty .ssHCnt, provider.getNumProperty .ssLCnt)
    (vi2cSclHcnt provider.clkKHz 4000 (provider.fallNs .sdaFallNs),
      vi2cSclLcnt provider.clkKHz 4700 (provider.fallNs .sclFallNs))
    (c.ssHcnt, c.ssLcnt)

def FsFromOne (c : BusConfig) : Prop :=
  OneSource provider.fmcn (provider.getNumProperty .fsHCnt, provider.getNumProperty .fsLCnt)
    (vi2cSclHcnt provider.clkKHz 600 (provider.fallNs .sdaFallNs),
      vi2cSclLcnt provider.clkKHz 1300 (provider.fallNs .sclFallNs))
    (c.fsHcnt, c.fsLcnt)

theorem holdFromNs_counts (c : BusConfig) :
    (provider.holdFromNs c).ssHcnt = c.ssHcnt ∧ (provider.holdFromNs c).ssLcnt = c.ssLcnt
      ∧ (provider.holdFromNs c).fsHcnt = c.fsHcnt ∧ (provider.holdFromNs c).fsLcnt = c.fsLcnt := by
  unfold holdFromNs
  split <;> exact ⟨rfl, rfl, rfl, rfl⟩

theorem ssFromOne_filled (h : ¬ provider.sscn.Incomplete 2) : provider.SsFromOne provider.filled := by
  rcases provider.holdFromNs_counts provider.defaults with ⟨hhcnt, hlcnt, _, _⟩
  rcases ACPIResult.counts_of_complete h (provider.holdFromNs provider.defaults).ssHcnt
    (provider.holdFromNs provider.defaults).ssLcnt none with hgives | ⟨hhcnt', hlcnt'⟩
  . left
    apply hgives
  . right
    left
    exact Prod.ext (hhcnt'.trans hhcnt) (hlcnt'.trans hlcnt)

theorem fsFromOne_filled (h : ¬ provider.fmcn.Incomplete 2) : provider.FsFromOne provider.filled := by
  rcases provider.holdFromNs_counts provider.defaults with ⟨_, _, hhcnt, hlcnt⟩
  rcases ACPIResult.counts_of_complete h (provider.holdFromNs provider.defaults).fsHcnt
    (provider.holdFromNs provider.defaults).fsLcnt
    (some (provider.acpiSs (provider.holdFromNs provider.defaults)).sdaHold)
    with hgives | ⟨hhcnt', hlcnt'⟩
  . left
    apply hgives
  . right
    left
    exact Prod.ext (hhcnt'.trans hhcnt) (hlcnt'.trans hlcnt)

variable {provider}

theorem getBusConfig_ss (h : provider.getBusConfig d = (.success, d'))
    (hcomplete : ¬ provider.sscn.Incomplete 2) : provider.SsFromOne d'.acpiConfig := by
  rcases provider.getBusConfig_success h with ⟨_, hconfig⟩
  rcases provider.adjustSdaHold_counts (provider.deriveFs (provider.deriveSs provider.filled))
    with ⟨hhcnt, hlcnt, _, _⟩
  rcases provider.deriveFs_ss (provider.deriveSs provider.filled) with ⟨hhcnt', hlcnt'⟩
  unfold SsFromOne
  rw [hconfig, hhcnt, hlcnt, hhcnt', hlcnt']
  unfold deriveSs
  split
  . exact .inr (.inr rfl)
  . apply provider.ssFromOne_filled hcomplete

theorem getBusConfig_fs (h : provider.getBusConfig d = (.success, d'))
    (hcomplete : ¬ provider.fmcn.Incomplete 2) : provider.FsFromOne d'.acpiConfig := by
  rcases provider.getBusConfig_success h with ⟨_, hconfig⟩
  rcases provider.adjustSdaHold_counts (provider.deriveFs (provider.deriveSs provider.filled))
    with ⟨_, _, hhcnt, hlcnt⟩
  rcases provider.deriveSs_fs provider.filled with ⟨hhcnt', hlcnt'⟩
  unfold FsFromOne
  rw [hconfig, hhcnt, hlcnt]
  unfold deriveFs
  rw [hhcnt', hlcnt']
  split
  . exact .inr (.inr rfl)
  . rw [hhcnt', hlcnt']
    apply provider.fsFromOne_filled hcomplete

/--
`getACPIParams` keeps its promise, and no pair of counts is mixed, exactly if neither method returns
an array that lacks a number.
-/
theorem getBusConfig_sources (provider : BusProvider) :
    (∀ hcnt lcnt, provider.sscn.AllOrNothing hcnt lcnt none)
        ∧ (∀ hcnt lcnt sdaHold, provider.fmcn.AllOrNothing hcnt lcnt (some sdaHold))
        ∧ (∀ d d', provider.getBusConfig d = (.success, d') →
          provider.SsFromOne d'.acpiConfig ∧ provider.FsFromOne d'.acpiConfig)
      ↔ ¬ provider.sscn.Incomplete 2 ∧ ¬ provider.fmcn.Incomplete 3 := by
  have htwo : ACPIResult.asked none = 2 := rfl
  have hthree : ∀ sdaHold, ACPIResult.asked (some sdaHold) = 3 := fun _ => rfl
  simp only [ACPIResult.allOrNothing_iff, htwo, hthree]
  constructor
  . intro ⟨hsscn, hfmcn, _⟩
    exact ⟨hsscn 0 0, hfmcn 0 0 0⟩
  . intro ⟨hsscn, hfmcn⟩
    refine ⟨fun _ _ => hsscn, fun _ _ _ => hfmcn, ?_⟩
    intro d d' h
    refine ⟨getBusConfig_ss h hsscn, getBusConfig_fs h ?_⟩
    rintro ⟨values, hvalues, i, hi, hnone⟩
    exact hfmcn ⟨values, hvalues, i, Nat.lt_succ_of_lt hi, hnone⟩

def mixedProvider : BusProvider where
  numProperty
    | .clk => some 100000000
    | .ssHCnt => some 400
    | .ssLCnt => some 470
    | .fsHCnt => some 60
    | .fsLCnt => some 130
    | _ => none
  maskQuirk := none
  compParam1 := 0x3F3F00
  compVersion := 0x3132322A
  sdaHold := 1
  sscn := (.success, some (.array [some 432]))
  fmcn := (.notFound, none)

theorem getBusConfig_not_sources :
    ¬ mixedProvider.sscn.AllOrNothing 400 470 none
      ∧ ∀ d, ∃ d', mixedProvider.getBusConfig d = (.success, d')
        ∧ d'.acpiConfig.ssHcnt = 432 ∧ d'.acpiConfig.ssLcnt = 470
        ∧ ¬ mixedProvider.SsFromOne d'.acpiConfig := by
  have hincomplete : mixedProvider.sscn.Incomplete 2 := by
    refine ⟨[some 432], rfl, 1, by decide, ?_⟩
    simp
  constructor
  . rw [ACPIResult.allOrNothing_iff]
    apply not_not_intro hincomplete
  . intro d
    obtain ⟨d', h⟩ : ∃ d', mixedProvider.getBusConfig d = (.success, d') := ⟨_, rfl⟩
    have hconfig : d'.acpiConfig = ⟨432, 60, 470, 130, 0x10001⟩ := by
      rw [(mixedProvider.getBusConfig_success h).2]
      decide +kernel
    refine ⟨d', h, by rw [hconfig], by rw [hconfig], ?_⟩
    unfold SsFromOne
    rw [hconfig]
    rintro (⟨_, hlcnt⟩ | hproperties | hderived)
    . rcases hlcnt with ⟨values, n, hvalues, hn, _⟩
      injection hvalues with _ hvalues
      injection hvalues with hvalues
      injection hvalues with hvalues
      rw [← hvalues] at hn
      contradiction
    . have := congrArg Prod.fst hproperties
      revert this
      decide +kernel
    . have := congrArg Prod.snd hderived
      revert this
      decide +kernel

end BusProvider

end VoodooI2C
