import RefclockJavad.Driver

/-!
The contract of the external calls: a descriptor is used only while open, and
a PPSAPI handle only while live.
-/

namespace RefclockJavad.Lifecycle

open RefclockJavad.State
open RefclockJavad.LineFramer
open RefclockJavad.Driver

structure Resources where
  fds : List Int
  handles : List Nat
  deriving DecidableEq, Repr

/-- The contract of each call: `none` when it uses what is not held. -/
def Call.apply : Call → Resources → Option Resources
  | .refclockOpen _ fd, r => some (if 0 < fd then { r with fds := fd :: r.fds } else r)
  | .ioAddclock fd, r | .write fd _, r => if fd ∈ r.fds then some r else none
  | .close fd, r | .ioCloseclock fd, r =>
      if fd ∈ r.fds then some { r with fds := r.fds.erase fd } else none
  | .timePpsCreate fd handle, r =>
      if fd ∈ r.fds then some { r with handles := handle.toList ++ r.handles } else none
  | .timePpsGetcap h, r | .timePpsSetparams h _, r | .timePpsKcbind h _, r
  | .timePpsFetch h, r => if h ∈ r.handles then some r else none
  | .timePpsDestroy h, r =>
      if h ∈ r.handles then some { r with handles := r.handles.erase h } else none

/-- A call log replayed from `r`, `none` at the first call that breaks the contract. -/
def replay (r : Resources) : List Call → Option Resources
  | [] => some r
  | c :: cs => (Call.apply c r).bind fun r' => replay r' cs

@[simp] theorem replay_nil (r : Resources) : replay r [] = some r := rfl

@[simp] theorem replay_cons (r : Resources) (c : Call) (cs : List Call) :
    replay r (c :: cs) = (Call.apply c r).bind fun r' => replay r' cs := rfl

theorem replay_append (r : Resources) (a b : List Call) :
    replay r (a ++ b) = (replay r a).bind fun r' => replay r' b := by
  induction a generalizing r with
  | nil => rfl
  | cons c a ih =>
      simp only [List.cons_append, replay_cons, ih]
      cases Call.apply c r <;> rfl

theorem replay_append_of_eq {r r' : Resources} {a : List Call} (h : replay r a = some r')
    (b : List Call) : replay r (a ++ b) = replay r' b := by
  rw [replay_append, h]; rfl

theorem replay_append_of_none {r : Resources} {a : List Call} (h : replay r a = none)
    (b : List Call) : replay r (a ++ b) = none := by
  rw [replay_append, h]; rfl

def Call.handleUse : Call → Option Nat
  | .timePpsGetcap h | .timePpsSetparams h _ | .timePpsKcbind h _ | .timePpsFetch h => some h
  | _ => none

theorem apply_of_handleUse {c : Call} {h : Nat} (hc : Call.handleUse c = some h) (r : Resources) :
    Call.apply c r = if h ∈ r.handles then some r else none := by
  cases c <;> simp_all [Call.handleUse, Call.apply]

theorem replay_handleUses {r : Resources} {h : Nat} (hr : h ∈ r.handles) :
    ∀ {cs : List Call}, (∀ c ∈ cs, Call.handleUse c = some h) → replay r cs = some r
  | [], _ => rfl
  | c :: cs, hcs => by
      rw [replay_cons, apply_of_handleUse (hcs c (List.mem_cons_self _ _)), if_pos hr]
      exact replay_handleUses hr fun c' hc' => hcs c' (List.mem_cons_of_mem _ hc')

theorem replay_writes {r : Resources} {fd : Int} (hfd : fd ∈ r.fds) (cmds : List String) :
    replay r (cmds.map (Call.write fd)) = some r := by
  induction cmds with
  | nil => rfl
  | cons p ps ih => simp [Call.apply, hfd, ih]

theorem javadPpsapi_cases (o : PpsOutcomes) (s : Instance) :
    o.getcap = none ∧ javadPpsapi o s = (s, false, [.timePpsGetcap s.ppsHandle]) ∨
    (∃ cap, o.getcap = some cap ∧ (if s.assert then cap.captureAssert else cap.captureClear) = false ∧
      javadPpsapi o s = ({ s with ppsMode := ⟨false, false, false⟩ }, false,
        [.timePpsGetcap s.ppsHandle])) ∨
    ∃ cap, o.getcap = some cap ∧ (if s.assert then cap.captureAssert else cap.captureClear) = true ∧
      (o.setparams = false ∧ javadPpsapi o s =
          ({ s with ppsMode := if s.assert then ⟨true, false, true⟩ else ⟨false, true, true⟩ }, false,
            [.timePpsGetcap s.ppsHandle, .timePpsSetparams s.ppsHandle
              (if s.assert then ⟨true, false, true⟩ else ⟨false, true, true⟩)]) ∨
        o.setparams = true ∧ s.hardpps = false ∧ javadPpsapi o s =
          ({ s with ppsMode := if s.assert then ⟨true, false, true⟩ else ⟨false, true, true⟩ }, true,
            [.timePpsGetcap s.ppsHandle, .timePpsSetparams s.ppsHandle
              (if s.assert then ⟨true, false, true⟩ else ⟨false, true, true⟩)]) ∨
        o.setparams = true ∧ s.hardpps = true ∧ javadPpsapi o s =
          ({ s with ppsMode := if s.assert then ⟨true, false, true⟩ else ⟨false, true, true⟩ },
            o.kcbind, [.timePpsGetcap s.ppsHandle, .timePpsSetparams s.ppsHandle
              (if s.assert then ⟨true, false, true⟩ else ⟨false, true, true⟩),
              .timePpsKcbind s.ppsHandle
                (if s.assert then ⟨true, false, false⟩ else ⟨false, true, false⟩)])) := by
  rcases o with ⟨_ | ⟨_ | _, _ | _, _⟩, _ | _, _⟩ <;> rcases s with ⟨_, _, _, _ | _, _ | _⟩ <;>
    first
    | exact .inl ⟨rfl, rfl⟩
    | exact .inr (.inl ⟨_, rfl, rfl, rfl⟩)
    | exact .inr (.inr ⟨_, rfl, rfl, .inl ⟨rfl, rfl⟩⟩)
    | exact .inr (.inr ⟨_, rfl, rfl, .inr (.inl ⟨rfl, rfl, rfl⟩)⟩)
    | exact .inr (.inr ⟨_, rfl, rfl, .inr (.inr ⟨rfl, rfl, rfl⟩)⟩)

theorem javadPpsapi_ppsHandle (o : PpsOutcomes) (s : Instance) :
    (javadPpsapi o s).1.ppsHandle = s.ppsHandle := by
  rcases javadPpsapi_cases o s with ⟨-, h⟩ | ⟨_, -, -, h⟩ | ⟨_, -, -, ⟨-, h⟩ | ⟨-, -, h⟩ | ⟨-, -, h⟩⟩ <;>
    rw [h]

theorem javadPpsapi_calls (o : PpsOutcomes) (s : Instance) :
    ∃ rest, (javadPpsapi o s).2.2 = .timePpsGetcap s.ppsHandle :: rest ∧
      rest.map Call.handleUse = rest.map fun _ => some s.ppsHandle := by
  rcases javadPpsapi_cases o s with ⟨-, h⟩ | ⟨_, -, -, h⟩ | ⟨_, -, -, ⟨-, h⟩ | ⟨-, -, h⟩ | ⟨-, -, h⟩⟩ <;>
    rw [h] <;> exact ⟨_, rfl, rfl⟩

theorem javadPpsapi_replay {r : Resources} {s : Instance} (hs : s.ppsHandle ∈ r.handles)
    (o : PpsOutcomes) : replay r (javadPpsapi o s).2.2 = some r := by
  obtain ⟨rest, hcalls, hrest⟩ := javadPpsapi_calls o s
  rw [hcalls]
  refine replay_handleUses hs fun c hc => ?_
  rcases List.mem_cons.mp hc with rfl | hc
  · rfl
  · exact List.map_inj_left.mp hrest c hc

theorem javadPpsapi_replay_none {r : Resources} {s : Instance} (hs : s.ppsHandle ∉ r.handles)
    (o : PpsOutcomes) : replay r (javadPpsapi o s).2.2 = none := by
  obtain ⟨rest, hcalls, -⟩ := javadPpsapi_calls o s
  simp [hcalls, Call.apply, hs]

theorem javadControl_ppsHandle (pps : PpsOutcomes) (write : String → WriteOutcome) (pp : Proc)
    (s : Instance) : (javadControl pps write pp s).1.ppsHandle = s.ppsHandle := by
  dsimp only [javadControl]
  split_ifs <;> exact javadPpsapi_ppsHandle _ _

theorem javadControl_calls (pps : PpsOutcomes) (write : String → WriteOutcome) (pp : Proc)
    (s : Instance) : ∃ cmds : List String, (javadControl pps write pp s).2 =
      (javadPpsapi pps { s with assert := !pp.sloppyclockflag.flag3 }).2.2 ++
        cmds.map (Call.write pp.ioFd) := by
  dsimp only [javadControl]
  split_ifs
  · exact ⟨_, rfl⟩
  · exact ⟨[], (List.append_nil _).symm⟩

theorem javadReceive_ppsHandle (s : Instance) (chunk : List UInt8) :
    (javadReceive s chunk).1.ppsHandle = s.ppsHandle := by
  simp only [javadReceive]
  split
  · rfl
  · split_ifs <;> rfl

def Holds (r : Resources) (pp : Proc) (s : Instance) : Prop :=
  r = ⟨[pp.ioFd], if s.ppsHandle = 0 then [] else [s.ppsHandle]⟩ ∧ pp.ioFd ≠ -1

theorem javadShutdown_replay {r : Resources} {pp : Proc} {s : Instance} (h : Holds r pp s) :
    replay r (javadShutdown pp (some s)) = some ⟨[], []⟩ := by
  obtain ⟨rfl, hfd⟩ := h
  by_cases h0 : s.ppsHandle = 0 <;> simp [javadShutdown, h0, hfd, Call.apply]

theorem runEntries_receive (pp : Proc) (s : Instance) (chunk : List UInt8) (es : List Entry) :
    runEntries pp s (.receive chunk :: es) = runEntries pp (javadReceive s chunk).1 es := by
  have h := javadReceive_ne_aborted s chunk
  simp only [runEntries]

theorem runEntries_not_aborted (pp : Proc) (s : Instance) (es : List Entry) :
    (runEntries pp s es).aborted = false := by
  induction es generalizing pp s with
  | nil => rfl
  | cons e es ih =>
      cases e with
      | control flags pps write => exact ih _ _
      | poll => exact ih _ _
      | receive chunk => rw [runEntries_receive]; exact ih _ _

theorem runEntries_replay {r : Resources} {pp : Proc} {s : Instance} (h : Holds r pp s)
    (es : List Entry) (hs : s.ppsHandle ≠ 0 ∨ ∀ e ∈ es, e.isControl = false) :
    replay r (runEntries pp s es).calls = some r ∧
      Holds r (runEntries pp s es).pp (runEntries pp s es).s := by
  induction es generalizing pp s with
  | nil => exact ⟨rfl, h⟩
  | cons e es ih =>
      cases e with
      | control flags pps write =>
          have hs0 : s.ppsHandle ≠ 0 := hs.resolve_right (by simp [Entry.isControl])
          have hh : Holds r { pp with sloppyclockflag := flags }
              (javadControl pps write { pp with sloppyclockflag := flags } s).1 := by
            simpa only [Holds, javadControl_ppsHandle] using h
          obtain ⟨cmds, hcalls⟩ := javadControl_calls pps write { pp with sloppyclockflag := flags } s
          obtain ⟨ihr, ihh⟩ := ih hh (Or.inl (by rwa [javadControl_ppsHandle]))
          refine ⟨?_, ihh⟩
          obtain ⟨rfl, hfd⟩ := h
          simp only [runEntries, hcalls, List.append_assoc]
          rw [replay_append_of_eq (javadPpsapi_replay (by simp [hs0]) _),
            replay_append_of_eq (replay_writes (by simp) _), ihr]
      | poll => exact ih h (hs.imp id fun hes e he => hes e (List.mem_cons_of_mem _ he))
      | receive chunk =>
          rw [runEntries_receive]
          exact ih (by simpa only [Holds, javadReceive_ppsHandle] using h)
            (hs.imp (by rw [javadReceive_ppsHandle]; exact id)
              fun hes e he => hes e (List.mem_cons_of_mem _ he))

theorem exists_control_of_cons {e : Entry} {es : List Entry}
    (h : ∃ e' ∈ e :: es, e'.isControl = true) (he : e.isControl = false) :
    ∃ e' ∈ es, e'.isControl = true := by
  obtain ⟨e', hmem, hc⟩ := h
  rcases List.mem_cons.mp hmem with rfl | hmem
  · rw [he] at hc; cases hc
  · exact ⟨e', hmem, hc⟩

theorem runEntries_replay_none {r : Resources} {pp : Proc} {s : Instance}
    (hr : s.ppsHandle ∉ r.handles) (es : List Entry) (hes : ∃ e ∈ es, e.isControl = true) :
    replay r (runEntries pp s es).calls = none := by
  induction es generalizing pp s with
  | nil => simp at hes
  | cons e es ih =>
      cases e with
      | control flags pps write =>
          obtain ⟨cmds, hcalls⟩ := javadControl_calls pps write { pp with sloppyclockflag := flags } s
          simp only [runEntries, hcalls, List.append_assoc]
          exact replay_append_of_none
            (@javadPpsapi_replay_none _ { s with assert := !flags.flag3 } hr pps) _
      | poll => exact ih hr (exists_control_of_cons hes rfl)
      | receive chunk =>
          rw [runEntries_receive]
          exact ih (by rwa [javadReceive_ppsHandle]) (exists_control_of_cons hes rfl)

theorem startPps_ppsHandle (o : Outcomes) (fd : Int) (s : Instance) :
    (startPps o fd s).1.ppsHandle = o.timePpsCreate.getD 0 := by
  cases hc : o.timePpsCreate <;> simp [startPps, hc, javadPpsapi_ppsHandle]

theorem startPps_replay {r : Resources} {fd : Int} (hfd : fd ∈ r.fds) (o : Outcomes)
    (s : Instance) :
    replay r (startPps o fd s).2.2 = some { r with handles := o.timePpsCreate.toList ++ r.handles } := by
  cases hc : o.timePpsCreate with
  | none => simp [startPps, hc, Call.apply, hfd]
  | some h =>
      simp only [startPps, hc, replay_cons, Call.apply, if_pos hfd, Option.some_bind]
      exact javadPpsapi_replay (by simp) _

theorem javadStart_opened {fd : Int} (hfd : 0 < fd) (unit : Nat) (o : Outcomes) (s : Instance)
    (rest : List Call) :
    replay ⟨[], []⟩ (.refclockOpen (gpsdev unit) fd :: .ioAddclock fd :: ((startPps o fd s).2.2 ++ rest)) =
      replay ⟨[fd], o.timePpsCreate.toList⟩ rest := by
  simp only [replay_cons, Call.apply, if_pos hfd, Option.some_bind, List.mem_singleton, if_true]
  rw [replay_append_of_eq (@startPps_replay ⟨[fd], []⟩ fd (by simp) o s)]
  simp

theorem holds_startPps {fd : Int} (hfd : fd ≠ -1) (pp : Proc) (o : Outcomes) (s : Instance)
    (hcreate : o.timePpsCreate ≠ some 0) :
    Holds ⟨[fd], o.timePpsCreate.toList⟩ { pp with ioFd := fd } (startPps o fd s).1 := by
  refine ⟨?_, hfd⟩
  rw [startPps_ppsHandle]
  cases hc : o.timePpsCreate with
  | none => rfl
  | some h =>
      have : h ≠ 0 := fun h0 => hcreate (by rw [hc, h0])
      simp [this]

theorem javadStart_outcome (unit : Nat) (o : Outcomes) (pp : Proc)
    (hcreate : o.timePpsCreate ≠ some 0) :
    if (javadStart unit o pp).2.2.1 then
      ∃ s, (javadStart unit o pp).2.1 = some s ∧ s.ppsHandle = o.timePpsCreate.getD 0 ∧
        replay ⟨[], []⟩ (javadStart unit o pp).2.2.2 = some ⟨[o.refclockOpen], o.timePpsCreate.toList⟩ ∧
        Holds ⟨[o.refclockOpen], o.timePpsCreate.toList⟩ (javadStart unit o pp).1 s
    else (javadStart unit o pp).2.1 = none ∧
      replay ⟨[], []⟩ (javadStart unit o pp).2.2.2 = some ⟨[], []⟩ := by
  unfold javadStart
  by_cases h1 : o.refclockOpen ≤ 0
  · simp [h1, Call.apply, Int.not_lt.mpr h1]
  have hfd : 0 < o.refclockOpen := Int.not_le.mp h1
  cases hadd : o.ioAddclock
  · simp [h1, hadd, Call.apply, hfd]
  have hholds := @holds_startPps o.refclockOpen (by omega) pp o
    { emallocZero with assert := true, hardpps := false } hcreate
  cases hpps : (startPps o o.refclockOpen { emallocZero with assert := true, hardpps := false }).2.1
  · simp only [h1, hadd, hpps, if_false, Bool.not_true, Bool.not_false, Bool.false_eq_true,
      if_true, true_and, List.append_assoc, List.singleton_append, List.cons_append, List.nil_append]
    rw [javadStart_opened hfd]
    exact javadShutdown_replay hholds
  cases hconf : (javadConfig pp.sloppyclockflag o.write
      (startPps o o.refclockOpen { emallocZero with assert := true, hardpps := false }).1).2.1
  · simp only [h1, hadd, hpps, hconf, if_false, Bool.not_true, Bool.not_false, Bool.false_eq_true,
      if_true, true_and, List.append_assoc, List.singleton_append, List.cons_append, List.nil_append]
    rw [javadStart_opened hfd, replay_append_of_eq (replay_writes (by simp) _)]
    exact javadShutdown_replay (by simpa only [Holds, javadConfig_ppsHandle] using hholds)
  · simp only [h1, hadd, hpps, hconf, if_false, Bool.not_true, Bool.false_eq_true, if_true,
      List.append_assoc, List.singleton_append, List.cons_append, List.nil_append]
    refine ⟨_, rfl, by rw [javadConfig_ppsHandle, startPps_ppsHandle], ?_, ?_⟩
    · rw [javadStart_opened hfd, replay_writes (by simp)]
    · simpa only [Holds, javadConfig_ppsHandle] using hholds

theorem javadStart_fail (unit : Nat) (o : Outcomes) (pp : Proc) (hcreate : o.timePpsCreate ≠ some 0)
    (h : (javadStart unit o pp).2.2.1 = false) :
    (javadStart unit o pp).2.1 = none ∧
      replay ⟨[], []⟩ (javadStart unit o pp).2.2.2 = some ⟨[], []⟩ := by
  simpa only [h, Bool.false_eq_true, if_false] using javadStart_outcome unit o pp hcreate

theorem javadStart_ok (unit : Nat) (o : Outcomes) (pp : Proc) (hcreate : o.timePpsCreate ≠ some 0)
    (h : (javadStart unit o pp).2.2.1 = true) :
    ∃ s, (javadStart unit o pp).2.1 = some s ∧ s.ppsHandle = o.timePpsCreate.getD 0 ∧
      replay ⟨[], []⟩ (javadStart unit o pp).2.2.2 = some ⟨[o.refclockOpen], o.timePpsCreate.toList⟩ ∧
      Holds ⟨[o.refclockOpen], o.timePpsCreate.toList⟩ (javadStart unit o pp).1 s := by
  simpa only [h, if_true] using javadStart_outcome unit o pp hcreate

theorem session_releases (unit : Nat) (o : Outcomes) (pp : Proc) (entries : List Entry)
    (hcreate : o.timePpsCreate ≠ some 0)
    (hctl : (javadStart unit o pp).2.2.1 = true → o.timePpsCreate = none →
      ∀ e ∈ entries, e.isControl = false) :
    replay ⟨[], []⟩ (session unit o pp entries).1 = some ⟨[], []⟩ := by
  rcases hst : javadStart unit o pp with ⟨pp', unitptr, ok, calls⟩
  cases ok with
  | false =>
      obtain ⟨hu, hr⟩ := javadStart_fail unit o pp hcreate (by rw [hst])
      rw [hst] at hu hr
      subst hu
      simp only [session, hst, javadShutdown, List.append_nil]
      exact hr
  | true =>
      obtain ⟨s, hu, hh0, hr, hh⟩ := javadStart_ok unit o pp hcreate (by rw [hst])
      rw [hst] at hu hr hh
      subst hu
      have hs : s.ppsHandle ≠ 0 ∨ ∀ e ∈ entries, e.isControl = false := by
        cases hc : o.timePpsCreate with
        | none => exact Or.inr (hctl (by rw [hst]) hc)
        | some h =>
            refine Or.inl ?_
            rw [hh0, hc, Option.getD_some]
            rintro rfl
            exact hcreate hc
      obtain ⟨hrun, hhold⟩ := runEntries_replay hh entries hs
      simp only [session, hst, runEntries_not_aborted, Bool.false_eq_true, if_false]
      rw [replay_append_of_eq (replay_append_of_eq hr _ ▸ hrun)]
      exact javadShutdown_replay hhold

theorem session_getcap_unowned_handle (unit : Nat) (o : Outcomes) (pp : Proc)
    (entries : List Entry) (hstart : (javadStart unit o pp).2.2.1 = true)
    (hcreate : o.timePpsCreate = none) (hctl : ∃ e ∈ entries, e.isControl = true) :
    replay ⟨[], []⟩ (session unit o pp entries).1 = none := by
  rcases hst : javadStart unit o pp with ⟨pp', unitptr, ok, calls⟩
  obtain ⟨s, hu, hh0, hr, -⟩ := javadStart_ok unit o pp (by rw [hcreate]; simp) hstart
  rw [hst] at hu hr hstart
  subst hu hstart
  simp only [session, hst, runEntries_not_aborted, Bool.false_eq_true, if_false]
  rw [List.append_assoc, replay_append_of_eq hr]
  refine replay_append_of_none (runEntries_replay_none ?_ entries hctl) _
  simp [hh0, hcreate]

theorem session_getcap_unowned_handle_fudge :
    (javadStart 0 ⟨3, true, none, ⟨some ⟨true, true, false⟩, true, false⟩,
        fun p => .wrote (p.length + 1)⟩ ⟨-1, ⟨false, false⟩⟩).2.2.1 = true ∧
    replay ⟨[], []⟩ (session 0 ⟨3, true, none, ⟨some ⟨true, true, false⟩, true, false⟩,
        fun p => .wrote (p.length + 1)⟩ ⟨-1, ⟨false, false⟩⟩
      [.control ⟨false, false⟩ ⟨some ⟨true, true, false⟩, true, false⟩
        fun p => .wrote (p.length + 1)]).1 = none := by
  have hstart : (javadStart 0 ⟨3, true, none, ⟨some ⟨true, true, false⟩, true, false⟩,
      fun p => .wrote (p.length + 1)⟩ ⟨-1, ⟨false, false⟩⟩).2.2.1 = true := by decide
  exact ⟨hstart, session_getcap_unowned_handle _ _ _ _ hstart rfl ⟨_, List.mem_singleton_self _, rfl⟩⟩

theorem session_releases_pps_fudge :
    replay ⟨[], []⟩ (session 0 ⟨3, true, some 5, ⟨some ⟨true, true, false⟩, true, false⟩,
        fun p => .wrote (p.length + 1)⟩ ⟨-1, ⟨false, false⟩⟩
      [.control ⟨true, true⟩ ⟨some ⟨true, true, false⟩, true, false⟩
        (fun p => .wrote (p.length + 1)), .receive [65, 13, 10], .poll]).1 = some ⟨[], []⟩ :=
  session_releases _ _ _ _ (by decide) fun _ h => absurd h (by decide)

end RefclockJavad.Lifecycle
