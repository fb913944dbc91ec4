import RefclockJavad.GpsTime

namespace RefclockJavad.WeekTracking

open RefclockJavad.Basic
open RefclockJavad.State
open RefclockJavad.GpsTime

/-- `timecode` is 0, or the value a pulse of the run that passed the week check
stored. -/
def TimecodeSourced (s0 : Instance) (evs : List TimeEvent) : Prop :=
  (timeRun s0 evs).timecode = 0 ∨
    ∃ pre jp post, evs = pre ++ TimeEvent.pulse jp :: post ∧
      (javadParseT (timeRun s0 pre) jp).err ≠ some unknownGweek ∧
      (timeRun s0 evs).timecode = (javadParseT (timeRun s0 pre) jp).inst.timecode

theorem timecodeSourced_snoc {s0 : Instance} {evs : List TimeEvent} (e : TimeEvent)
    (h : (timeStep (timeRun s0 evs) e).timecode = (timeRun s0 evs).timecode)
    (ih : TimecodeSourced s0 evs) : TimecodeSourced s0 (evs ++ [e]) := by
  rw [TimecodeSourced, timeRun_append]
  rcases ih with h0 | ⟨pre, jp, post, rfl, hok, heq⟩
  · exact Or.inl (h.trans h0)
  · exact Or.inr ⟨pre, jp, post ++ [e], by simp, hok, h.trans heq⟩

theorem timeRun_timecode_sourced (s0 : Instance) (hs0 : s0.timecode = 0) (evs : List TimeEvent) :
    TimecodeSourced s0 evs := by
  induction evs using List.reverseRecOn with
  | nil => exact Or.inl hs0
  | append_singleton evs e ih =>
      cases e with
      | config flags write =>
          exact Or.inl (by simp [timeRun_append, timeRun, timeStep])
      | gpos jg => exact timecodeSourced_snoc _ (javadParseGpos_timecode _ _) ih
      | pulse jp =>
          by_cases hw : (javadParseT (timeRun s0 evs) jp).err = some unknownGweek
          · refine timecodeSourced_snoc _ ?_ ih
            simp only [timeStep, javadParseT_inst, (javadParseT_err_unknown _ _).mp hw]
          · exact Or.inr ⟨evs, jp, [], rfl, hw, by simp [timeRun_append, timeRun, timeStep]⟩

theorem javadParseT_flags (s : Instance) (jp : JPulse)
    (h : (javadParseT s jp).err ≠ some unknownGweek) (hf : jp.valid = false ∨ jp.utc = false) :
    (javadParseT s jp).report = some .badtime ∧ (javadParseT s jp).err ≠ none ∧
      (javadParseT s ⟨jp.sweek, true, true, jp.sweek_lt⟩).err = none ∧
      (javadParseT s jp).inst = (javadParseT s ⟨jp.sweek, true, true, jp.sweek_lt⟩).inst := by
  obtain ⟨g, hg⟩ := Option.ne_none_iff_exists'.mp fun h' => h ((javadParseT_err_unknown s jp).mpr h')
  obtain ⟨hr, he⟩ := javadParseT_checks hg
  obtain ⟨-, he'⟩ := @javadParseT_checks s ⟨jp.sweek, true, true, jp.sweek_lt⟩ g hg
  refine ⟨?_, ?_, he', by rw [javadParseT_inst, javadParseT_inst]⟩
  · rw [hr]; rcases hf with hf | hf <;> simp [hf]
  · rw [he]; split_ifs <;> simp_all

theorem timeRun_timecode_stamped :
    (∀ evs, TimecodeSourced emallocZero evs) ∧
    ∀ (s : Instance) (jp : JPulse), (javadParseT s jp).err ≠ some unknownGweek →
      (jp.valid = false ∨ jp.utc = false) →
      (javadParseT s jp).report = some .badtime ∧ (javadParseT s jp).err ≠ none ∧
      (javadParseT s ⟨jp.sweek, true, true, jp.sweek_lt⟩).err = none ∧
      (javadParseT s jp).inst = (javadParseT s ⟨jp.sweek, true, true, jp.sweek_lt⟩).inst :=
  ⟨timeRun_timecode_sourced emallocZero rfl, javadParseT_flags⟩

theorem javadParseT_rejected_sets_timecode :
    (javadParseT (timeRun emallocZero [.gpos ⟨0, 1, weeksecs - 5, by decide, by decide⟩])
        ⟨weeksecs - 2, false, true, by decide⟩).report = some .badtime ∧
      (javadParseT (timeRun emallocZero [.gpos ⟨0, 1, weeksecs - 5, by decide, by decide⟩])
        ⟨weeksecs - 2, false, true, by decide⟩).err = some "time mark not valid" ∧
      (timeRun emallocZero [.gpos ⟨0, 1, weeksecs - 5, by decide, by decide⟩,
        .pulse ⟨weeksecs - 2, false, true, by decide⟩]).timecode = 317174398 := by
  simp only [timeRun, List.foldl, timeStep, javadParseGpos_valid]
  decide

theorem javadParse_time_wraps (s : Instance) (jg : JGpos) (jp : JPulse) (hnav : jg.navval = 0)
    (hw : 6581 ≤ jg.gweek) :
    gpsTime (javadParseGpos s jg).inst.gposGweek (javadParseGpos s jg).inst.gposSweek + 2 ^ 32 ≤
        gpsEpoch + (javadParseGpos s jg).inst.gposGweek * weeksecs +
          (javadParseGpos s jg).inst.gposSweek ∧
      (javadParseT (javadParseGpos s jg).inst jp).inst.timecode + 2 ^ 32 ≤
        ((gpsEpoch + (javadParseT (javadParseGpos s jg).inst jp).inst.gweek * weeksecs +
          (javadParseT (javadParseGpos s jg).inst jp).inst.lastsweek : Nat) : Int) := by
  have hg := jg.gweek_lt
  have hs := jg.sweek_lt
  have hinst := javadParseGpos_of_valid s jg hnav
  obtain ⟨g, hpw, hge⟩ := parseWeek_of_unknown (javadParseGpos s jg).inst (pulseSweek jp.sweek)
    (by rw [hinst]) (by simp only [hinst, weeksecs_eq]; omega) (by simp only [hinst, weeksecs_eq]; omega)
  rw [javadParseT_inst, hpw]
  simp only [hinst, stampPulse, gpsTime, gpsEpoch] at *
  rw [weeksecs_eq] at *
  omega

theorem javadParse_time_wraps_6581 :
    gpsTime (javadParseGpos emallocZero ⟨0, 6581, 0, by decide, by decide⟩).inst.gposGweek
        (javadParseGpos emallocZero ⟨0, 6581, 0, by decide, by decide⟩).inst.gposSweek + 2 ^ 32 ≤
        gpsEpoch + (javadParseGpos emallocZero ⟨0, 6581, 0, by decide, by decide⟩).inst.gposGweek *
          weeksecs + (javadParseGpos emallocZero ⟨0, 6581, 0, by decide, by decide⟩).inst.gposSweek ∧
      (javadParseT (javadParseGpos emallocZero ⟨0, 6581, 0, by decide, by decide⟩).inst
          ⟨0, true, true, by decide⟩).inst.timecode + 2 ^ 32 ≤
        ((gpsEpoch + (javadParseT (javadParseGpos emallocZero ⟨0, 6581, 0, by decide, by decide⟩).inst
            ⟨0, true, true, by decide⟩).inst.gweek * weeksecs +
          (javadParseT (javadParseGpos emallocZero ⟨0, 6581, 0, by decide, by decide⟩).inst
            ⟨0, true, true, by decide⟩).inst.lastsweek : Nat) : Int) :=
  javadParse_time_wraps emallocZero _ _ rfl (by decide)

def pulseLog (s : Instance) : List JPulse → List Debug
  | [] => []
  | jp :: jps => (javadParseT s jp).debug ++ pulseLog (javadParseT s jp).inst jps

def isWarp : Debug → Bool
  | .sweekNotIncrementing _ | .sweekJumped .. => true
  | _ => false

/-- The break, if any, at the second `x` after the second `last`. -/
def warpBreak (last x : Nat) : List Debug :=
  if last = 2 * weeksecs ∨ x = (last + 1) % weeksecs then []
  else if x = last then [.sweekNotIncrementing x] else [.sweekJumped last x]

def warpBreaks : Nat → List Nat → List Debug
  | _, [] => []
  | last, x :: xs => warpBreak last x ++ warpBreaks x xs

theorem sweekLog_eq_warpBreak {last x : Nat} (hl : last < weeksecs ∨ last = 2 * weeksecs)
    (hx : x < weeksecs) : sweekLog last x = warpBreak last x := by
  rw [weeksecs_eq] at hl hx
  unfold sweekLog warpBreak
  by_cases hxl : last = x
  · subst hxl
    rw [if_pos rfl, if_neg (by rw [weeksecs_eq]; omega), if_pos rfl]
  · have h32 : (last + 1) % 2 ^ 32 = last + 1 := Nat.mod_eq_of_lt (by omega)
    rw [if_neg hxl, if_neg (Ne.symm hxl), h32]
    by_cases hj : last = 2 * weeksecs ∨ x = (last + 1) % weeksecs
    · rw [if_pos hj, if_neg (by rw [weeksecs_eq] at *; omega)]
    · rw [if_neg hj, if_pos (by rw [weeksecs_eq] at *; omega)]

theorem filter_isWarp_sweekLog (last x : Nat) : (sweekLog last x).filter isWarp = sweekLog last x := by
  unfold sweekLog
  split_ifs <;> rfl

theorem filter_isWarp_debug {s : Instance} {jp : JPulse} {g : Nat}
    (h : parseWeek s (pulseSweek jp.sweek) = some g) :
    (javadParseT s jp).debug.filter isWarp = sweekLog s.lastsweek (pulseSweek jp.sweek) := by
  have hdebug : (javadParseT s jp).debug =
      (if s.gweek ≠ 0 ∧ pulseSweek jp.sweek = 0 ∧ s.lastsweek = weeksecs - 1 then [.newGpsWeek g]
        else []) ++ sweekLog s.lastsweek (pulseSweek jp.sweek) ++
      [if s.timecode = 0 then .utcNone g (pulseSweek jp.sweek)
        else .utc s.timecode g (pulseSweek jp.sweek)] := by
    rcases jp with ⟨_, _ | _, _ | _, _⟩ <;> simp only [javadParseT, h] <;> rfl
  rw [hdebug, List.filter_append, List.filter_append, filter_isWarp_sweekLog]
  split_ifs <;> exact List.append_nil _

theorem parseWeek_of_anchor {s : Instance} (ha : s.gposGweek ≠ 0) (sweek : Nat) :
    ∃ g, parseWeek s sweek = some g := by
  unfold parseWeek
  rw [if_neg ha]
  split <;> (try split) <;> exact ⟨_, rfl⟩

theorem pulseLog_warps_of (s : Instance) (hl : s.lastsweek < weeksecs ∨ s.lastsweek = 2 * weeksecs)
    (ha : s.gposGweek ≠ 0) (jps : List JPulse) (hjps : ∀ jp ∈ jps, pulseSweek jp.sweek < weeksecs) :
    (pulseLog s jps).filter isWarp = warpBreaks s.lastsweek (jps.map fun jp => pulseSweek jp.sweek) := by
  induction jps generalizing s with
  | nil => rfl
  | cons jp jps ih =>
      have hx := hjps jp (List.mem_cons_self _ _)
      obtain ⟨g, hg⟩ := parseWeek_of_anchor ha (pulseSweek jp.sweek)
      have hinst : (javadParseT s jp).inst = stampPulse s g (pulseSweek jp.sweek) := by
        rw [javadParseT_inst, hg]
      rw [pulseLog, List.filter_append, filter_isWarp_debug hg, sweekLog_eq_warpBreak hl hx,
        ih _ (by rw [hinst]; exact .inl hx) (by rw [hinst]; exact ha)
          fun jp' h => hjps jp' (List.mem_cons_of_mem _ h), hinst]
      rfl

theorem timeStep_lastsweek (s : Instance) (e : TimeEvent)
    (h : s.lastsweek < weeksecs ∨ s.lastsweek = 2 * weeksecs)
    (he : ∀ jp ∈ e.pulsed, pulseSweek jp.sweek < weeksecs) :
    (timeStep s e).lastsweek < weeksecs ∨ (timeStep s e).lastsweek = 2 * weeksecs := by
  cases e with
  | config flags write => exact .inr rfl
  | gpos jg => rw [timeStep]; unfold javadParseGpos; split_ifs <;> exact h
  | pulse jp =>
      rw [timeStep, javadParseT_inst]
      split
      · exact h
      · exact .inl (he jp rfl)

theorem timeRun_lastsweek (s : Instance) (h : s.lastsweek < weeksecs ∨ s.lastsweek = 2 * weeksecs)
    (evs : List TimeEvent) (hev : ∀ jp ∈ evs.filterMap TimeEvent.pulsed, pulseSweek jp.sweek < weeksecs) :
    (timeRun s evs).lastsweek < weeksecs ∨ (timeRun s evs).lastsweek = 2 * weeksecs := by
  induction evs generalizing s with
  | nil => exact h
  | cons e evs ih =>
      refine ih _ (timeStep_lastsweek s e h fun jp hjp => hev jp ?_) fun jp hjp => hev jp ?_
      · exact List.mem_filterMap.mpr ⟨e, List.mem_cons_self _ _, hjp⟩
      · obtain ⟨a, ha, hf⟩ := List.mem_filterMap.mp hjp
        exact List.mem_filterMap.mpr ⟨a, List.mem_cons_of_mem _ ha, hf⟩

theorem pulseLog_warps (evs : List TimeEvent) (ha : (timeRun emallocZero evs).gposGweek ≠ 0)
    (hev : ∀ jp ∈ evs.filterMap TimeEvent.pulsed, pulseSweek jp.sweek < weeksecs)
    (jps : List JPulse) (hjps : ∀ jp ∈ jps, pulseSweek jp.sweek < weeksecs) :
    (pulseLog (timeRun emallocZero evs) jps).filter isWarp =
      warpBreaks (timeRun emallocZero evs).lastsweek (jps.map fun jp => pulseSweek jp.sweek) :=
  pulseLog_warps_of _ (timeRun_lastsweek _ (.inl (by decide)) evs hev) ha jps hjps

theorem pulseLog_warps_repeat_and_skip :
    (timeRun emallocZero [.config ⟨false, false⟩ (fun p => .wrote (p.length + 1)),
        .gpos ⟨0, 1, weeksecs - 5, by decide, by decide⟩]).gposGweek ≠ 0 ∧
      (∀ jp ∈ [TimeEvent.config ⟨false, false⟩ (fun p => .wrote (p.length + 1)),
        .gpos ⟨0, 1, weeksecs - 5, by decide, by decide⟩].filterMap TimeEvent.pulsed,
        pulseSweek jp.sweek < weeksecs) ∧
      (∀ jp ∈ ([⟨weeksecs - 2, true, true, by decide⟩, ⟨weeksecs - 1, true, true, by decide⟩,
          ⟨0, true, true, by decide⟩, ⟨0, true, true, by decide⟩,
          ⟨5, true, true, by decide⟩] : List JPulse), pulseSweek jp.sweek < weeksecs) ∧
      (pulseLog (timeRun emallocZero [.config ⟨false, false⟩ (fun p => .wrote (p.length + 1)),
          .gpos ⟨0, 1, weeksecs - 5, by decide, by decide⟩])
        [⟨weeksecs - 2, true, true, by decide⟩, ⟨weeksecs - 1, true, true, by decide⟩,
          ⟨0, true, true, by decide⟩, ⟨0, true, true, by decide⟩, ⟨5, true, true, by decide⟩]).filter
          isWarp =
        warpBreaks (timeRun emallocZero [.config ⟨false, false⟩ (fun p => .wrote (p.length + 1)),
            .gpos ⟨0, 1, weeksecs - 5, by decide, by decide⟩]).lastsweek
          ([⟨weeksecs - 2, true, true, by decide⟩, ⟨weeksecs - 1, true, true, by decide⟩,
            ⟨0, true, true, by decide⟩, ⟨0, true, true, by decide⟩,
            ⟨5, true, true, by decide⟩].map fun jp : JPulse => pulseSweek jp.sweek) := by
  refine ⟨?h, ?hev, ?hjps, pulseLog_warps _ ?h ?hev _ ?hjps⟩
  · simp only [timeRun, List.foldl, timeStep, javadParseGpos_valid]
    decide
  · decide
  · decide

example : warpBreaks (2 * weeksecs) [weeksecs - 2, weeksecs - 1, 0, 0, 5] =
    [.sweekNotIncrementing 0, .sweekJumped 0 5] := by decide

end RefclockJavad.WeekTracking
