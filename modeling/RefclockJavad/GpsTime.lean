import RefclockJavad.State
import Mathlib.Logic.Function.Iterate

/-!
The time keeping of `javad_parse_t` and `javad_parse_gpos` (under `notdef`).
-/

namespace RefclockJavad.GpsTime

open RefclockJavad.Basic
open RefclockJavad.State

/-- The fields of a `struct jpulse` that `javad_parse_t` reads: the 32 bits of
`jp->sweek`, and the two flag bits. -/
structure JPulse where
  sweek : Nat
  valid : Bool
  utc : Bool
  sweek_lt : sweek < 2 ^ 32

structure JGpos where
  navval : Nat
  gweek : Nat
  sweek : Nat
  gweek_lt : gweek < 2 ^ 16
  sweek_lt : sweek < 2 ^ 32

inductive Cevnt
  | badtime
  deriving DecidableEq, Repr

inductive Debug
  | newGpsWeek (gweek : Nat)
  | sweekNotIncrementing (sweek : Nat)
  | sweekJumped (was now : Nat)
  | utcNone (gweek sweek : Nat)
  | utc (lastTimecode : Int) (gweek sweek : Nat)
  | gps (t : Nat) (gweek sweek : Nat)
  deriving DecidableEq, Repr

structure Parsed where
  inst : Instance
  debug : List Debug
  report : Option Cevnt
  err : Option String

def unknownGweek : String := "javad_parse_t: Unknown gweek"

def gpsTime (gweek sweek : Nat) : Nat := (gpsEpoch + gweek * weeksecs + sweek) % 2 ^ 32

/-- `DS2UI`: `<< 16 |` on `int`, so a field with its top bit set is negative. -/
def ds2ui (w : Nat) : Int := if w < 2 ^ 31 then w else w - 2 ^ 32

/-- Line 614: `int % WEEKSECS` rounds toward zero, stored into the `u_int32`. -/
def pulseSweek (w : Nat) : Nat := (Int.tmod (ds2ui w) weeksecs % 2 ^ 32).toNat

/-- The week `javad_parse_t` settles on, with the half-week tie-break. -/
def parseWeek (s : Instance) (sweek : Nat) : Option Nat :=
  if s.gweek = 0 then
    if s.gposGweek = 0 then none
    else if sweek ≤ s.gposSweek then
      some (if weeksecs / 2 < s.gposSweek - sweek then (s.gposGweek + 1) % 2 ^ 32 else s.gposGweek)
    else
      some (if weeksecs / 2 < sweek - s.gposSweek then (s.gposGweek + 2 ^ 32 - 1) % 2 ^ 32
        else s.gposGweek)
  else if sweek = 0 ∧ s.lastsweek = weeksecs - 1 then some ((s.gweek + 1) % 2 ^ 32)
  else some s.gweek

def sweekLog (lastsweek sweek : Nat) : List Debug :=
  if lastsweek = sweek then [.sweekNotIncrementing sweek]
  else if lastsweek ≠ 2 * weeksecs ∧ (lastsweek + 1) % 2 ^ 32 ≠ sweek ∧
      ¬(sweek = 0 ∧ lastsweek = weeksecs - 1) then [.sweekJumped lastsweek sweek]
  else []

def stampPulse (s : Instance) (gweek sweek : Nat) : Instance :=
  { s with gweek, lastsweek := sweek, timecode := gpsTime gweek sweek }

/-- `javad_parse_t`: the flags are checked only after the timecode is stored. -/
def javadParseT (s : Instance) (jp : JPulse) : Parsed :=
  let sweek := pulseSweek jp.sweek
  match parseWeek s sweek with
  | none => ⟨s, [], none, some unknownGweek⟩
  | some gweek =>
      let inst := stampPulse s gweek sweek
      let debug :=
        (if s.gweek ≠ 0 ∧ sweek = 0 ∧ s.lastsweek = weeksecs - 1 then [.newGpsWeek gweek]
          else []) ++ sweekLog s.lastsweek sweek ++
        [if s.timecode = 0 then .utcNone gweek sweek else .utc s.timecode gweek sweek]
      if !jp.valid then ⟨inst, debug, some .badtime, some "time mark not valid"⟩
      else if !jp.utc then ⟨inst, debug, some .badtime, some "time mark not sync\x27ed to UTC"⟩
      else ⟨inst, debug, none, none⟩

def gposNormalize (gweek sweek : Nat) : Nat × Nat :=
  if weeksecs ≤ sweek then gposNormalize ((gweek + 1) % 2 ^ 32) (sweek - weeksecs)
  else (gweek, sweek)
termination_by sweek
decreasing_by simp only [weeksecs] at *; omega

def gposStep (w : Nat × Nat) : Nat × Nat := ((w.1 + 1) % 2 ^ 32, w.2 - weeksecs)

def javadParseGpos (s : Instance) (jg : JGpos) : Parsed :=
  if jg.navval ≠ 0 then
    ⟨{ s with gposGweek := 0, gposSweek := 0 }, [], none, some "Navigation solution not valid"⟩
  else
    let w := gposNormalize jg.gweek jg.sweek
    ⟨{ s with gposGweek := w.1, gposSweek := w.2, gweek := 0 }, [.gps (gpsTime w.1 w.2) w.1 w.2],
      none, none⟩

inductive TimeEvent
  | config (flags : ClockFlags) (write : String → WriteOutcome)
  | gpos (jg : JGpos)
  | pulse (jp : JPulse)

def TimeEvent.pulsed : TimeEvent → Option JPulse
  | .pulse jp => some jp
  | _ => none

def timeStep (s : Instance) : TimeEvent → Instance
  | .config flags write => (javadConfig flags write s).1
  | .gpos jg => (javadParseGpos s jg).inst
  | .pulse jp => (javadParseT s jp).inst

def timeRun (s : Instance) (evs : List TimeEvent) : Instance := evs.foldl timeStep s

theorem gposNormalize_eq (gweek sweek : Nat) (h : gweek < 2 ^ 32) :
    gposNormalize gweek sweek = ((gweek + sweek / weeksecs) % 2 ^ 32, sweek % weeksecs) := by
  induction gweek, sweek using gposNormalize.induct with
  | case1 g s hs ih =>
      rw [gposNormalize, if_pos hs, ih (Nat.mod_lt _ (Nat.two_pow_pos 32)), Prod.mk.injEq]
      rw [weeksecs_eq] at *
      constructor <;> omega
  | case2 g s hs =>
      rw [gposNormalize, if_neg hs]
      rw [weeksecs_eq] at *
      congr 1 <;> omega

theorem pulseSweek_of_lt {w : Nat} (h : w < 2 ^ 31) : pulseSweek w = w % weeksecs := by
  have hrem : Int.tmod w weeksecs = (w % weeksecs : Nat) := rfl
  rw [pulseSweek, ds2ui, if_pos h, hrem, weeksecs_eq]
  omega

theorem javadParseT_inst (s : Instance) (jp : JPulse) :
    (javadParseT s jp).inst = match parseWeek s (pulseSweek jp.sweek) with
      | none => s
      | some g => stampPulse s g (pulseSweek jp.sweek) := by
  cases h : parseWeek s (pulseSweek jp.sweek) <;> simp only [javadParseT, h]; split_ifs <;> rfl

theorem javadParseT_checks {s : Instance} {jp : JPulse} {g : Nat}
    (h : parseWeek s (pulseSweek jp.sweek) = some g) :
    (javadParseT s jp).report = (if jp.valid && jp.utc then none else some .badtime) ∧
      (javadParseT s jp).err = (if !jp.valid then some "time mark not valid"
        else if !jp.utc then some "time mark not sync\x27ed to UTC" else none) := by
  rcases jp with ⟨sw, _ | _, _ | _, _⟩ <;> simp only [javadParseT, h] <;> exact ⟨rfl, rfl⟩

theorem javadParseT_err_unknown (s : Instance) (jp : JPulse) :
    (javadParseT s jp).err = some unknownGweek ↔ parseWeek s (pulseSweek jp.sweek) = none := by
  cases h : parseWeek s (pulseSweek jp.sweek) with
  | none => simp [javadParseT, h]
  | some g => rw [(javadParseT_checks h).2]; split_ifs <;> simp [unknownGweek]

theorem javadParseGpos_timecode (s : Instance) (jg : JGpos) :
    (javadParseGpos s jg).inst.timecode = s.timecode := by
  unfold javadParseGpos; split_ifs <;> rfl

theorem javadParseGpos_of_valid (s : Instance) (jg : JGpos) (h : jg.navval = 0) :
    (javadParseGpos s jg).inst =
      { s with
        gposGweek := jg.gweek + jg.sweek / weeksecs
        gposSweek := jg.sweek % weeksecs
        gweek := 0 } := by
  have hg := jg.gweek_lt
  have hs := jg.sweek_lt
  simp only [javadParseGpos, h, ne_eq, not_true_eq_false, if_false,
    gposNormalize_eq _ _ (show jg.gweek < 2 ^ 32 by omega)]
  congr 2
  rw [weeksecs_eq] at *
  omega

theorem javadParseGpos_valid (s : Instance) (gweek sweek : Nat) (h1 : gweek < 2 ^ 16)
    (h2 : sweek < 2 ^ 32) :
    (javadParseGpos s ⟨0, gweek, sweek, h1, h2⟩).inst =
      { s with
        gposGweek := gweek + sweek / weeksecs
        gposSweek := sweek % weeksecs
        gweek := 0 } :=
  javadParseGpos_of_valid s _ rfl

theorem gposNormalize_iterate (gweek sweek : Nat) :
    gposNormalize gweek sweek = gposStep^[sweek / weeksecs] (gweek, sweek) := by
  induction gweek, sweek using gposNormalize.induct with
  | case1 g s hs ih =>
      have hk : s / weeksecs = (s - weeksecs) / weeksecs + 1 := by rw [weeksecs_eq] at *; omega
      rw [gposNormalize, if_pos hs, ih, hk, Function.iterate_succ_apply]
      rfl
  | case2 g s hs =>
      have hk : s / weeksecs = 0 := by rw [weeksecs_eq] at *; omega
      rw [gposNormalize, if_neg hs, hk]
      rfl

theorem gposStep_iterate {gweek : Nat} (sweek : Nat) (hg : gweek < 2 ^ 32) (i : Nat) :
    gposStep^[i] (gweek, sweek) = ((gweek + i) % 2 ^ 32, sweek - i * weeksecs) := by
  induction i with
  | zero => rw [Function.iterate_zero_apply, Nat.add_zero, Nat.mod_eq_of_lt hg, Nat.zero_mul,
      Nat.sub_zero]
  | succ i ih =>
      rw [Function.iterate_succ_apply', ih, gposStep, Prod.mk.injEq, Nat.succ_mul]
      constructor <;> omega

theorem javadParseGpos_normalizes (s : Instance) (jg : JGpos) (h : jg.navval = 0) :
    (∀ i < jg.sweek / weeksecs, weeksecs ≤ (gposStep^[i] (jg.gweek, jg.sweek)).2) ∧
      (gposStep^[jg.sweek / weeksecs] (jg.gweek, jg.sweek)).2 < weeksecs ∧
      gposNormalize jg.gweek jg.sweek = gposStep^[jg.sweek / weeksecs] (jg.gweek, jg.sweek) ∧
      (javadParseGpos s jg).inst.gposSweek = jg.sweek % weeksecs ∧
      (javadParseGpos s jg).inst.gposGweek = jg.gweek + jg.sweek / weeksecs ∧
      (javadParseGpos s jg).inst.gposGweek * weeksecs + (javadParseGpos s jg).inst.gposSweek =
        jg.gweek * weeksecs + jg.sweek := by
  have hg : jg.gweek < 2 ^ 32 := by have := jg.gweek_lt; omega
  have hinst := javadParseGpos_of_valid s jg h
  simp only [gposStep_iterate _ hg, gposNormalize_iterate, hinst, true_and]
  rw [weeksecs_eq]
  refine ⟨fun i hi => ?_, by omega, by omega⟩
  have := Nat.mul_le_mul_right 604800 (Nat.succ_le_of_lt hi)
  have := Nat.div_mul_le_self jg.sweek 604800
  omega

theorem javadParseGpos_normalizes_2190 :
    (∀ i < 604830 / weeksecs, weeksecs ≤ (gposStep^[i] (2190, 604830)).2) ∧
      (gposStep^[604830 / weeksecs] (2190, 604830)).2 < weeksecs ∧
      gposNormalize 2190 604830 = gposStep^[604830 / weeksecs] (2190, 604830) ∧
      (javadParseGpos emallocZero ⟨0, 2190, 604830, by decide, by decide⟩).inst.gposSweek =
        604830 % weeksecs ∧
      (javadParseGpos emallocZero ⟨0, 2190, 604830, by decide, by decide⟩).inst.gposGweek =
        2190 + 604830 / weeksecs ∧
      (javadParseGpos emallocZero ⟨0, 2190, 604830, by decide, by decide⟩).inst.gposGweek *
          weeksecs +
        (javadParseGpos emallocZero ⟨0, 2190, 604830, by decide, by decide⟩).inst.gposSweek =
        2190 * weeksecs + 604830 :=
  javadParseGpos_normalizes emallocZero ⟨0, 2190, 604830, by decide, by decide⟩ rfl

theorem parseWeek_of_unknown (s : Instance) (sweek : Nat) (h0 : s.gweek = 0)
    (hg : 0 < s.gposGweek) (hg' : s.gposGweek + 1 < 2 ^ 32) :
    ∃ g, parseWeek s sweek = some g ∧ s.gposGweek ≤ g + 1 := by
  simp only [parseWeek, h0, Nat.pos_iff_ne_zero.mp hg, if_true, if_false]
  split_ifs <;> exact ⟨_, rfl, by omega⟩

theorem timeRun_append (s : Instance) (evs evs' : List TimeEvent) :
    timeRun s (evs ++ evs') = timeRun (timeRun s evs) evs' :=
  List.foldl_append _ _ _ _

end RefclockJavad.GpsTime
