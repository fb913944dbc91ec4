import RefclockJavad.Lifecycle

namespace RefclockJavad.Pps

open RefclockJavad.State
open RefclockJavad.Driver
open RefclockJavad.Lifecycle

def edgeSequence (mode : PpsMode) (info : PpsInfo) : Nat :=
  if mode.captureAssert then info.assertSequence else info.clearSequence

def edgeTimestamp (mode : PpsMode) (info : PpsInfo) : Timespec :=
  if mode.captureAssert then info.assertTimestamp else info.clearTimestamp

/-- A call on a started unit that reaches the PPS state. -/
inductive PpsCall
  | control (pp : Proc) (pps : PpsOutcomes) (write : String → WriteOutcome)
  | fetch (info : Option PpsInfo)

def PpsCall.fetched : PpsCall → Option PpsInfo
  | .control .. => none
  | .fetch f => f

/-- The calls in order, with the samples handed in and their `lastrec`. -/
def ppsRun : Instance → List PpsCall → Instance × List (Timespec × LFp)
  | s, [] => (s, [])
  | s, .control pp pps write :: cs => ppsRun (javadControl pps write pp s).1 cs
  | s, .fetch f :: cs =>
      let rest := ppsRun (javadPps f s).1 cs
      match f, (javadPps f s).2.1 with
      | some info, some l => (rest.1, (edgeTimestamp s.ppsMode info, l) :: rest.2)
      | _, _ => rest

theorem edge_eq_edgeTimestamp (m : PpsMode) (prev info : PpsInfo) :
    (if m.captureAssert then
        if prev.assertSequence = info.assertSequence then none else some info.assertTimestamp
      else if m.captureClear then
        if prev.clearSequence = info.clearSequence then none else some info.clearTimestamp
      else none) =
      if (m.captureAssert || m.captureClear) = true ∧ edgeSequence m prev ≠ edgeSequence m info then
        some (edgeTimestamp m info)
      else none := by
  rcases m with ⟨_ | _, _ | _, _⟩ <;> simp [edgeSequence, edgeTimestamp]

theorem javadPps_eq (fetch : Option PpsInfo) (s : Instance) :
    javadPps fetch s =
      if s.ppsHandle = 0 then (s, none, [])
      else match fetch with
        | none => (s, none, [.timePpsFetch s.ppsHandle])
        | some info =>
            if (s.ppsMode.captureAssert || s.ppsMode.captureClear) = true ∧
                edgeSequence s.ppsMode s.ppsInfo ≠ edgeSequence s.ppsMode info ∧
                s.ts ≠ edgeTimestamp s.ppsMode info then
              ({ s with ppsInfo := info, ts := edgeTimestamp s.ppsMode info },
                some (toLFp (edgeTimestamp s.ppsMode info)), [.timePpsFetch s.ppsHandle])
            else ({ s with ppsInfo := info }, none, [.timePpsFetch s.ppsHandle]) := by
  unfold javadPps
  by_cases h : s.ppsHandle = 0
  · rw [if_pos h, if_pos h]
  rw [if_neg h, if_neg h]
  rcases fetch with _ | info
  · rfl
  dsimp only
  rw [edge_eq_edgeTimestamp]
  by_cases hc : (s.ppsMode.captureAssert || s.ppsMode.captureClear) = true ∧
      edgeSequence s.ppsMode s.ppsInfo ≠ edgeSequence s.ppsMode info
  · rw [if_pos hc]
    dsimp only
    by_cases hts : s.ts = edgeTimestamp s.ppsMode info
    · rw [if_pos hts, if_neg fun h' => h'.2.2 hts]
    · rw [if_neg hts, if_pos ⟨hc.1, hc.2, hts⟩]
  · rw [if_neg hc, if_neg fun h' => hc ⟨h'.1, h'.2.1⟩]

theorem javadPps_frame (fetch : Option PpsInfo) (s : Instance) :
    (javadPps fetch s).1 = { s with
      ppsInfo := if s.ppsHandle = 0 then s.ppsInfo else fetch.getD s.ppsInfo
      ts := (javadPps fetch s).1.ts } := by
  rw [javadPps_eq]
  by_cases h : s.ppsHandle = 0
  · rw [if_pos h, if_pos h]
  · rw [if_neg h, if_neg h]
    cases fetch with
    | none => rfl
    | some info => dsimp only; split_ifs <;> rfl

theorem javadPps_ppsMode (fetch : Option PpsInfo) (s : Instance) :
    (javadPps fetch s).1.ppsMode = s.ppsMode := by
  rw [javadPps_frame]

theorem javadPps_ppsHandle (fetch : Option PpsInfo) (s : Instance) :
    (javadPps fetch s).1.ppsHandle = s.ppsHandle := by
  rw [javadPps_frame]

theorem javadPps_ppsInfo (fetch : Option PpsInfo) (s : Instance) :
    (javadPps fetch s).1.ppsInfo = if s.ppsHandle = 0 then s.ppsInfo else fetch.getD s.ppsInfo := by
  rw [javadPps_frame]

theorem javadPps_emits_iff (fetch : Option PpsInfo) (s : Instance) (l : LFp) :
    (javadPps fetch s).2.1 = some l ↔ s.ppsHandle ≠ 0 ∧ ∃ info, fetch = some info ∧
      (s.ppsMode.captureAssert || s.ppsMode.captureClear) = true ∧
      edgeSequence s.ppsMode info ≠ edgeSequence s.ppsMode s.ppsInfo ∧
      edgeTimestamp s.ppsMode info ≠ s.ts ∧ l = toLFp (edgeTimestamp s.ppsMode info) := by
  rw [javadPps_eq]
  by_cases h0 : s.ppsHandle = 0
  · simp [h0]
  rw [if_neg h0]
  rcases fetch with _ | info
  · simp
  dsimp only
  by_cases hc : (s.ppsMode.captureAssert || s.ppsMode.captureClear) = true ∧
      edgeSequence s.ppsMode s.ppsInfo ≠ edgeSequence s.ppsMode info ∧
      s.ts ≠ edgeTimestamp s.ppsMode info
  · rw [if_pos hc, Option.some.injEq]
    constructor
    · rintro rfl
      exact ⟨h0, info, rfl, hc.1, Ne.symm hc.2.1, Ne.symm hc.2.2, rfl⟩
    · rintro ⟨-, _, ⟨⟩, -, -, -, rfl⟩
      rfl
  · rw [if_neg hc]
    constructor
    · exact Option.noConfusion
    · rintro ⟨-, _, ⟨⟩, h1, h2, h3, -⟩
      exact absurd ⟨h1, Ne.symm h2, Ne.symm h3⟩ hc

theorem javadPpsapi_frame (o : PpsOutcomes) (s : Instance) :
    (javadPpsapi o s).1 = { s with ppsMode := (javadPpsapi o s).1.ppsMode } := by
  rcases javadPpsapi_cases o s with ⟨-, h⟩ | ⟨_, -, -, h⟩ | ⟨_, -, -, ⟨-, h⟩ | ⟨-, -, h⟩ | ⟨-, -, h⟩⟩ <;>
    rw [h]

section Control

variable (pps : PpsOutcomes) (write : String → WriteOutcome) (pp : Proc) (s : Instance)

theorem javadControl_ts : (javadControl pps write pp s).1.ts = s.ts := by
  have h := congrArg Instance.ts (javadPpsapi_frame pps { s with assert := !pp.sloppyclockflag.flag3 })
  dsimp only [javadControl]
  split_ifs <;> exact h

theorem javadControl_ppsInfo : (javadControl pps write pp s).1.ppsInfo = s.ppsInfo := by
  have h := congrArg Instance.ppsInfo
    (javadPpsapi_frame pps { s with assert := !pp.sloppyclockflag.flag3 })
  dsimp only [javadControl]
  split_ifs <;> exact h

end Control

theorem ppsRun_append (s : Instance) (cs ds : List PpsCall) :
    ppsRun s (cs ++ ds) =
      ((ppsRun (ppsRun s cs).1 ds).1, (ppsRun s cs).2 ++ (ppsRun (ppsRun s cs).1 ds).2) := by
  induction cs generalizing s with
  | nil => rfl
  | cons c cs ih =>
      cases c with
      | control pp pps write => exact ih _
      | fetch f =>
          rw [List.cons_append]
          dsimp only [ppsRun]
          rw [ih]
          split <;> rfl

theorem ppsRun_fetch_eq (f : Option PpsInfo) (s : Instance) (cs : List PpsCall) :
    ppsRun s (.fetch f :: cs) = match f, (javadPps f s).2.1 with
      | some info, some l => ((ppsRun (javadPps f s).1 cs).1,
          (edgeTimestamp s.ppsMode info, l) :: (ppsRun (javadPps f s).1 cs).2)
      | _, _ => ppsRun (javadPps f s).1 cs := rfl

theorem ppsRun_fetch_of_none {f : Option PpsInfo} {s : Instance} (cs : List PpsCall)
    (h : (javadPps f s).2.1 = none) : ppsRun s (.fetch f :: cs) = ppsRun (javadPps f s).1 cs := by
  rw [ppsRun_fetch_eq, h]; cases f <;> rfl

theorem ppsRun_fetch (f : Option PpsInfo) (s : Instance) (cs : List PpsCall) :
    ppsRun s (.fetch f :: cs) = ppsRun (javadPps f s).1 cs ∧ (javadPps f s).1.ts = s.ts ∨
      ∃ info, f = some info ∧ s.ts ≠ edgeTimestamp s.ppsMode info ∧
        (javadPps f s).1.ts = edgeTimestamp s.ppsMode info ∧
        ppsRun s (.fetch f :: cs) = ((ppsRun (javadPps f s).1 cs).1,
          (edgeTimestamp s.ppsMode info, toLFp (edgeTimestamp s.ppsMode info)) ::
            (ppsRun (javadPps f s).1 cs).2) := by
  rw [ppsRun_fetch_eq]
  have hpps := javadPps_eq f s
  by_cases h0 : s.ppsHandle = 0
  · rw [if_pos h0] at hpps
    rw [hpps]
    cases f <;> exact .inl ⟨rfl, rfl⟩
  · rw [if_neg h0] at hpps
    rcases f with _ | info
    · rw [hpps]; exact .inl ⟨rfl, rfl⟩
    · dsimp only at hpps
      split_ifs at hpps with hc
      · rw [hpps]; exact .inr ⟨info, rfl, hc.2.2, rfl, rfl⟩
      · rw [hpps]; exact .inl ⟨rfl, rfl⟩

theorem ppsRun_ts (s : Instance) (cs : List PpsCall) :
    (ppsRun s cs).1.ts = (((ppsRun s cs).2.map Prod.fst).getLast?).getD s.ts := by
  induction cs generalizing s with
  | nil => rfl
  | cons c cs ih =>
      cases c with
      | control pp pps write => rw [ppsRun, ih, javadControl_ts]
      | fetch f =>
          rcases ppsRun_fetch f s cs with ⟨h, hts⟩ | ⟨info, -, -, hts, h⟩
          · rw [h, ih, hts]
          · rw [h, List.map_cons, List.getLast?_cons, Option.getD_some, ih, hts]

theorem ppsRun_chain (s : Instance) (cs : List PpsCall) :
    ((ppsRun s cs).2.map Prod.fst).Chain (· ≠ ·) s.ts := by
  induction cs generalizing s with
  | nil => exact List.Chain.nil
  | cons c cs ih =>
      cases c with
      | control pp pps write => rw [ppsRun, ← javadControl_ts pps write pp s]; exact ih _
      | fetch f =>
          rcases ppsRun_fetch f s cs with ⟨h, hts⟩ | ⟨info, -, hne, hts, h⟩
          · rw [h, ← hts]; exact ih _
          · rw [h, List.map_cons, List.chain_cons]
            refine ⟨hne, ?_⟩
            rw [← hts]; exact ih _

theorem ppsRun_lastrec (s : Instance) (cs : List PpsCall) :
    ∀ x ∈ (ppsRun s cs).2, x.2 = toLFp x.1 := by
  induction cs generalizing s with
  | nil => simp [ppsRun]
  | cons c cs ih =>
      cases c with
      | control pp pps write => exact ih _
      | fetch f =>
          rcases ppsRun_fetch f s cs with ⟨h, -⟩ | ⟨info, -, -, -, h⟩
          · rw [h]; exact ih _
          · rw [h]
            rintro x (_ | ⟨_, hx⟩)
            · rfl
            · exact ih _ x hx

theorem ppsRun_fst_fetch (f : Option PpsInfo) (s : Instance) (cs : List PpsCall) :
    (ppsRun s (.fetch f :: cs)).1 = (ppsRun (javadPps f s).1 cs).1 := by
  rcases ppsRun_fetch f s cs with ⟨h, -⟩ | ⟨info, -, -, -, h⟩ <;> rw [h]

theorem ppsRun_ppsInfo (s : Instance) (cs : List PpsCall) :
    (ppsRun s cs).1.ppsInfo = if s.ppsHandle = 0 then s.ppsInfo
      else ((cs.filterMap PpsCall.fetched).getLast?).getD s.ppsInfo := by
  induction cs generalizing s with
  | nil => split_ifs <;> rfl
  | cons c cs ih =>
      cases c with
      | control pp pps write =>
          rw [ppsRun, ih, javadControl_ppsHandle, javadControl_ppsInfo]
          rfl
      | fetch f =>
          rw [ppsRun_fst_fetch, ih, javadPps_ppsHandle, javadPps_ppsInfo]
          by_cases h0 : s.ppsHandle = 0
          · simp only [h0, if_true]
          · cases f <;> simp [h0, PpsCall.fetched, List.getLast?_cons]

theorem javadPps_refetch (info : PpsInfo) (s : Instance) :
    (javadPps (some info) (javadPps (some info) s).1).2.1 = none := by
  cases h : (javadPps (some info) (javadPps (some info) s).1).2.1 with
  | none => rfl
  | some l =>
      obtain ⟨-, i, hi, -, hseq, -⟩ := (javadPps_emits_iff _ _ _).mp h
      cases hi
      by_cases h0 : s.ppsHandle = 0
      · rw [javadPps_eq, if_pos ((javadPps_ppsHandle _ _).trans h0)] at h
        cases h
      · have hinfo := javadPps_ppsInfo (some info) s
        rw [if_neg h0, Option.getD_some] at hinfo
        exact absurd (by rw [hinfo]) hseq

theorem ppsRun_refetch (info : PpsInfo) (s : Instance) :
    (ppsRun s [.fetch (some info), .fetch (some info)]).2 = (ppsRun s [.fetch (some info)]).2 := by
  have h1 : (ppsRun s [.fetch (some info)]).1 = (javadPps (some info) s).1 :=
    ppsRun_fst_fetch _ _ _
  rw [show [PpsCall.fetch (some info), .fetch (some info)] = [.fetch (some info)] ++
    [.fetch (some info)] from rfl, ppsRun_append, h1,
    ppsRun_fetch_of_none _ (javadPps_refetch info s)]
  exact List.append_nil _

theorem ppsRun_fetch_twice (info : PpsInfo) (s : Instance) (h0 : s.ppsHandle ≠ 0)
    (hc : (s.ppsMode.captureAssert || s.ppsMode.captureClear) = true)
    (hseq : edgeSequence s.ppsMode info ≠ edgeSequence s.ppsMode s.ppsInfo)
    (hts : edgeTimestamp s.ppsMode info ≠ s.ts) :
    (ppsRun s [.fetch (some info), .fetch (some info)]).2 =
      [(edgeTimestamp s.ppsMode info, toLFp (edgeTimestamp s.ppsMode info))] := by
  have he : (javadPps (some info) s).2.1 = some (toLFp (edgeTimestamp s.ppsMode info)) :=
    (javadPps_emits_iff _ _ _).mpr ⟨h0, info, rfl, hc, hseq, hts, rfl⟩
  rw [ppsRun_refetch, ppsRun_fetch_eq, he]
  rfl

theorem ppsRun_samples (s : Instance) (cs : List PpsCall) :
    (ppsRun s cs).1.ts = (((ppsRun s cs).2.map Prod.fst).getLast?).getD s.ts ∧
      (ppsRun s cs).1.ppsInfo = (if s.ppsHandle = 0 then s.ppsInfo
        else ((cs.filterMap PpsCall.fetched).getLast?).getD s.ppsInfo) ∧
      (∀ x ∈ (ppsRun s cs).2, x.2 = toLFp x.1) ∧
      ((ppsRun s cs).2.map Prod.fst).Chain (· ≠ ·) s.ts ∧
      (∀ (f : Option PpsInfo) (s' : Instance) (l : LFp), (javadPps f s').2.1 = some l ↔
        s'.ppsHandle ≠ 0 ∧ ∃ info, f = some info ∧
          (s'.ppsMode.captureAssert || s'.ppsMode.captureClear) = true ∧
          edgeSequence s'.ppsMode info ≠ edgeSequence s'.ppsMode s'.ppsInfo ∧
          edgeTimestamp s'.ppsMode info ≠ s'.ts ∧ l = toLFp (edgeTimestamp s'.ppsMode info)) ∧
      (∀ (s' : Instance) (info : PpsInfo),
        (ppsRun s' [.fetch (some info), .fetch (some info)]).2 = (ppsRun s' [.fetch (some info)]).2) ∧
      ∀ (s' : Instance) (info : PpsInfo), s'.ppsHandle ≠ 0 →
        (s'.ppsMode.captureAssert || s'.ppsMode.captureClear) = true →
        edgeSequence s'.ppsMode info ≠ edgeSequence s'.ppsMode s'.ppsInfo →
        edgeTimestamp s'.ppsMode info ≠ s'.ts →
        (ppsRun s' [.fetch (some info), .fetch (some info)]).2 =
          [(edgeTimestamp s'.ppsMode info, toLFp (edgeTimestamp s'.ppsMode info))] :=
  ⟨ppsRun_ts s cs, ppsRun_ppsInfo s cs, ppsRun_lastrec s cs, ppsRun_chain s cs,
    javadPps_emits_iff, fun s' info => ppsRun_refetch info s', fun s' info => ppsRun_fetch_twice info s'⟩

theorem ppsRun_samples_assert_twice :
    (⟨1, 0, ⟨1, 5⟩, zeroTimespec⟩ : PpsInfo).assertSequence ≠ 0 ∧
      (ppsRun { emallocZero with ppsHandle := 5, ppsMode := ⟨true, false, true⟩ }
        [.fetch (some ⟨1, 0, ⟨1, 5⟩, zeroTimespec⟩), .fetch (some ⟨1, 0, ⟨1, 5⟩, zeroTimespec⟩)]).2 =
        [(⟨1, 5⟩, toLFp ⟨1, 5⟩)] :=
  ⟨by decide, (ppsRun_samples { emallocZero with ppsHandle := 5, ppsMode := ⟨true, false, true⟩ }
    []).2.2.2.2.2.2 _ _ (by decide) (by decide) (by decide) (by decide)⟩

theorem javadPps_no_capture (fetch : Option PpsInfo) {s : Instance}
    (h : (s.ppsMode.captureAssert || s.ppsMode.captureClear) = false) :
    (javadPps fetch s).2.1 = none := by
  rw [javadPps_eq]
  split_ifs
  · rfl
  · cases fetch with
    | none => rfl
    | some info => dsimp only; rw [if_neg fun hc => absurd (h.symm.trans hc.1) (by decide)]

theorem ppsRun_fetches_no_capture {s : Instance}
    (h : (s.ppsMode.captureAssert || s.ppsMode.captureClear) = false) (fs : List (Option PpsInfo)) :
    (ppsRun s (fs.map .fetch)).2 = [] := by
  induction fs generalizing s with
  | nil => rfl
  | cons f fs ih =>
      rw [List.map_cons, ppsRun_fetch_of_none _ (javadPps_no_capture f h)]
      exact ih (by rw [javadPps_ppsMode]; exact h)

theorem javadPpsapi_unsupported_edge_clears_mode (o : PpsOutcomes) (s : Instance) (cap : PpsMode)
    (hcap : o.getcap = some cap)
    (hedge : (if s.assert then cap.captureAssert else cap.captureClear) = false) :
    (javadPpsapi o s).2.1 = false ∧ (javadPpsapi o s).1.ppsMode = ⟨false, false, false⟩ ∧
      ∀ fs : List (Option PpsInfo), (ppsRun (javadPpsapi o s).1 (fs.map .fetch)).2 = [] := by
  have hres : (javadPpsapi o s).2.1 = false ∧ (javadPpsapi o s).1.ppsMode = ⟨false, false, false⟩ := by
    rcases javadPpsapi_cases o s with ⟨h0, -⟩ | ⟨_, -, -, h⟩ | ⟨_, hc, he, -⟩
    · rw [hcap] at h0; cases h0
    · rw [h]; exact ⟨rfl, rfl⟩
    · rw [hcap, Option.some.injEq] at hc
      rw [← hc, hedge] at he; cases he
  exact ⟨hres.1, hres.2, ppsRun_fetches_no_capture (by rw [hres.2]; rfl)⟩

theorem javadPpsapi_unsupported_edge_clears_mode_assert_only :
    (javadPpsapi ⟨some ⟨true, false, false⟩, true, false⟩
        { emallocZero with ppsHandle := 5, ppsMode := ⟨true, false, true⟩ }).2.1 = false ∧
      (javadPpsapi ⟨some ⟨true, false, false⟩, true, false⟩
        { emallocZero with ppsHandle := 5, ppsMode := ⟨true, false, true⟩ }).1.ppsMode =
        ⟨false, false, false⟩ ∧
      ∀ fs : List (Option PpsInfo), (ppsRun (javadPpsapi ⟨some ⟨true, false, false⟩, true, false⟩
        { emallocZero with ppsHandle := 5, ppsMode := ⟨true, false, true⟩ }).1 (fs.map .fetch)).2 = [] :=
  javadPpsapi_unsupported_edge_clears_mode _ _ ⟨true, false, false⟩ rfl rfl

theorem javadPpsapi_failed_call_moves_mode :
    (javadPpsapi ⟨some ⟨true, false, false⟩, true, false⟩
        { emallocZero with ppsHandle := 5, ppsMode := ⟨true, false, true⟩ }).2.1 = false ∧
      (javadPpsapi ⟨some ⟨true, false, false⟩, true, false⟩
        { emallocZero with ppsHandle := 5, ppsMode := ⟨true, false, true⟩ }).1.ppsMode ≠
        ⟨true, false, true⟩ := by
  decide

/-- A timestamp of NTP era 0, from 1900 to 2036. -/
def InEra0 (ts : Timespec) : Prop :=
  -(jan1970 : Int) ≤ ts.tvSec ∧ ts.tvSec < 2 ^ 32 - jan1970 ∧ 0 ≤ ts.tvNsec ∧ ts.tvNsec < 10 ^ 9

instance (ts : Timespec) : Decidable (InEra0 ts) := inferInstanceAs (Decidable (_ ∧ _ ∧ _ ∧ _))

def lfpUnits (l : LFp) : Nat := l.lUi * 2 ^ 32 + l.lUf

theorem toLFp_units {ts : Timespec} (h : InEra0 ts) :
    (lfpUnits (toLFp ts) : Int) = (ts.tvSec + jan1970) * 2 ^ 32 + ts.tvNsec * 2 ^ 32 / 10 ^ 9 := by
  obtain ⟨h1, h2, h3, h4⟩ := h
  simp only [lfpUnits, toLFp, jan1970] at *
  omega

theorem lfpUnits_lt {ts ts' : Timespec} (h : InEra0 ts) (h' : InEra0 ts')
    (hlt : ts.tvSec < ts'.tvSec ∨ ts.tvSec = ts'.tvSec ∧ ts.tvNsec < ts'.tvNsec) :
    lfpUnits (toLFp ts) < lfpUnits (toLFp ts') := by
  have e := toLFp_units h
  have e' := toLFp_units h'
  obtain ⟨-, -, h3, h4⟩ := h
  obtain ⟨-, -, h3', h4'⟩ := h'
  omega

theorem toLFp_inj {ts ts' : Timespec} (h : InEra0 ts) (h' : InEra0 ts') (heq : toLFp ts = toLFp ts') :
    ts = ts' := by
  have h1 := mt (lfpUnits_lt h h') (by rw [heq]; exact lt_irrefl _)
  have h2 := mt (lfpUnits_lt h' h) (by rw [heq]; exact lt_irrefl _)
  cases ts
  cases ts'
  simp only [Timespec.mk.injEq] at *
  omega

theorem inEra0_edgeTimestamp {info : PpsInfo} (h : InEra0 info.assertTimestamp ∧ InEra0 info.clearTimestamp)
    (mode : PpsMode) : InEra0 (edgeTimestamp mode info) := by
  unfold edgeTimestamp
  split_ifs
  exacts [h.1, h.2]

theorem ppsRun_era0 (s : Instance) (cs : List PpsCall) (hs : InEra0 s.ts)
    (hcs : ∀ info ∈ cs.filterMap PpsCall.fetched, InEra0 info.assertTimestamp ∧ InEra0 info.clearTimestamp) :
    (∀ x ∈ (ppsRun s cs).2, InEra0 x.1) ∧ ((ppsRun s cs).2.map Prod.snd).Chain (· ≠ ·) (toLFp s.ts) := by
  induction cs generalizing s with
  | nil => exact ⟨fun _ h => (by cases h), List.Chain.nil⟩
  | cons c cs ih =>
      have htail : ∀ info ∈ cs.filterMap PpsCall.fetched,
          InEra0 info.assertTimestamp ∧ InEra0 info.clearTimestamp := fun info hi =>
        hcs info (((List.sublist_cons_self c cs).filterMap _).subset hi)
      cases c with
      | control pp pps write =>
          have hts := javadControl_ts pps write pp s
          rw [ppsRun, ← hts]
          exact ih _ (hts ▸ hs) htail
      | fetch f =>
          rcases ppsRun_fetch f s cs with ⟨h, hts⟩ | ⟨info, rfl, hne, hts, h⟩
          · rw [h, ← hts]
            exact ih _ (hts ▸ hs) htail
          · have hera := inEra0_edgeTimestamp (hcs info (List.mem_cons_self _ _)) s.ppsMode
            obtain ⟨ih1, ih2⟩ := ih _ (hts ▸ hera) htail
            rw [hts] at ih2
            rw [h, List.map_cons, List.chain_cons]
            refine ⟨fun x hx => ?_, fun heq => hne (toLFp_inj hs hera heq), ih2⟩
            rcases List.mem_cons.mp hx with rfl | hx
            exacts [hera, ih1 x hx]

theorem ppsRun_lastrec_exact (s : Instance) (cs : List PpsCall) (hs : InEra0 s.ts)
    (hcs : ∀ info ∈ cs.filterMap PpsCall.fetched, InEra0 info.assertTimestamp ∧ InEra0 info.clearTimestamp) :
    (∀ x ∈ (ppsRun s cs).2,
      (lfpUnits x.2 : Int) = (x.1.tvSec + jan1970) * 2 ^ 32 + x.1.tvNsec * 2 ^ 32 / 10 ^ 9) ∧
      ((ppsRun s cs).2.map Prod.snd).Chain (· ≠ ·) (toLFp s.ts) := by
  obtain ⟨hera, hchain⟩ := ppsRun_era0 s cs hs hcs
  exact ⟨fun x hx => by rw [ppsRun_lastrec s cs x hx]; exact toLFp_units (hera x hx), hchain⟩

theorem ppsRun_lastrec_exact_two_pulses :
    InEra0 ({ emallocZero with ppsHandle := 5, ppsMode := ⟨true, false, true⟩ } : Instance).ts ∧
      (∀ info ∈ ([.fetch (some ⟨1, 0, ⟨1700000000, 500000000⟩, ⟨0, 0⟩⟩),
          .fetch (some ⟨2, 0, ⟨1700000001, 500000000⟩, ⟨0, 0⟩⟩)] : List PpsCall).filterMap
          PpsCall.fetched, InEra0 info.assertTimestamp ∧ InEra0 info.clearTimestamp) ∧
      (∀ x ∈ (ppsRun { emallocZero with ppsHandle := 5, ppsMode := ⟨true, false, true⟩ }
          [.fetch (some ⟨1, 0, ⟨1700000000, 500000000⟩, ⟨0, 0⟩⟩),
            .fetch (some ⟨2, 0, ⟨1700000001, 500000000⟩, ⟨0, 0⟩⟩)]).2,
        (lfpUnits x.2 : Int) = (x.1.tvSec + jan1970) * 2 ^ 32 + x.1.tvNsec * 2 ^ 32 / 10 ^ 9) ∧
      ((ppsRun { emallocZero with ppsHandle := 5, ppsMode := ⟨true, false, true⟩ }
          [.fetch (some ⟨1, 0, ⟨1700000000, 500000000⟩, ⟨0, 0⟩⟩),
            .fetch (some ⟨2, 0, ⟨1700000001, 500000000⟩, ⟨0, 0⟩⟩)]).2.map Prod.snd).Chain (· ≠ ·)
        (toLFp ({ emallocZero with ppsHandle := 5, ppsMode := ⟨true, false, true⟩ } : Instance).ts) := by
  refine ⟨?h1, ?h2, ppsRun_lastrec_exact _ _ ?h1 ?h2⟩ <;> decide

end RefclockJavad.Pps
