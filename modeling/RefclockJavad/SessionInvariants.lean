import RefclockJavad.Pps
import RefclockJavad.LineFramerRuns

/-!
What holds over every session, whatever the host calls and the external calls
return.
-/

namespace RefclockJavad.SessionInvariants

open RefclockJavad.State
open RefclockJavad.LineFramer
open RefclockJavad.LineFramerRuns
open RefclockJavad.Driver

theorem javadStart_cases (unit : Nat) (o : Outcomes) (pp : Proc) :
    let fd := o.refclockOpen
    let opened := [Call.refclockOpen (gpsdev unit) fd]
    let pp' := { pp with ioFd := fd }
    let pps := startPps o fd { emallocZero with assert := true, hardpps := false }
    let conf := javadConfig pp.sloppyclockflag o.write pps.1
    let calls := opened ++ .ioAddclock fd :: pps.2.2
    javadStart unit o pp = (pp, none, false, opened) ∨
      javadStart unit o pp = ({ pp with ioFd := -1 }, none, false, opened ++ [.ioAddclock fd, .close fd]) ∨
      javadStart unit o pp = (pp', none, false, calls ++ javadShutdown pp' (some pps.1)) ∨
      conf.2.1 = false ∧ javadStart unit o pp =
        (pp', none, false, calls ++ conf.2.2.map (.write fd) ++ javadShutdown pp' (some conf.1)) ∨
      conf.2.1 = true ∧ javadStart unit o pp = (pp', some conf.1, true, calls ++ conf.2.2.map (.write fd)) := by
  unfold javadStart
  dsimp only
  split
  · exact .inl rfl
  split
  · exact .inr (.inl rfl)
  split
  · exact .inr (.inr (.inl rfl))
  split
  · next hconf => exact .inr (.inr (.inr (.inl ⟨by simpa using hconf, rfl⟩)))
  · next hconf => exact .inr (.inr (.inr (.inr ⟨by simpa using hconf, rfl⟩)))

theorem javadPpsapi_calls_cases (o : PpsOutcomes) (s : Instance) :
    (javadPpsapi o s).2.2 = [.timePpsGetcap s.ppsHandle] ∨
      (javadPpsapi o s).2.2 = [.timePpsGetcap s.ppsHandle,
        .timePpsSetparams s.ppsHandle (if s.assert then ⟨true, false, true⟩ else ⟨false, true, true⟩)] ∨
      s.hardpps = true ∧ ∃ edge, (javadPpsapi o s).2.2 = [.timePpsGetcap s.ppsHandle,
        .timePpsSetparams s.ppsHandle (if s.assert then ⟨true, false, true⟩ else ⟨false, true, true⟩),
        .timePpsKcbind s.ppsHandle edge] := by
  rcases Lifecycle.javadPpsapi_cases o s with ⟨-, h⟩ | ⟨_, -, -, h⟩ | ⟨_, -, -, ⟨-, h⟩ | ⟨-, -, h⟩ | ⟨-, hh, h⟩⟩ <;>
    rw [h]
  · exact .inl rfl
  · exact .inl rfl
  · exact .inr (.inl rfl)
  · exact .inr (.inl rfl)
  · exact .inr (.inr ⟨hh, _, rfl⟩)

theorem javadReceive_fields (s : Instance) (chunk : List UInt8) :
    (javadReceive s chunk).1 =
      { s with ibuf := (javadReceive s chunk).1.ibuf, ssize := (javadReceive s chunk).1.ssize } := by
  simp only [javadReceive]
  split
  · rfl
  · split_ifs <;> rfl

theorem javadReceive_sloppyclockflag (s : Instance) (chunk : List UInt8) :
    (javadReceive s chunk).1.sloppyclockflag = s.sloppyclockflag :=
  (congrArg Instance.sloppyclockflag (javadReceive_fields s chunk)).trans rfl

theorem javadReceive_hardpps (s : Instance) (chunk : List UInt8) :
    (javadReceive s chunk).1.hardpps = s.hardpps :=
  (congrArg Instance.hardpps (javadReceive_fields s chunk)).trans rfl

theorem javadPpsapi_hardpps (o : PpsOutcomes) (s : Instance) :
    (javadPpsapi o s).1.hardpps = s.hardpps :=
  (congrArg Instance.hardpps (Pps.javadPpsapi_frame o s)).trans rfl

theorem javadControl_hardpps (pps : PpsOutcomes) (write : String → WriteOutcome) (pp : Proc)
    (s : Instance) : (javadControl pps write pp s).1.hardpps = s.hardpps := by
  have h := javadPpsapi_hardpps pps { s with assert := !pp.sloppyclockflag.flag3 }
  dsimp only [javadControl]
  split_ifs <;> exact h

theorem javadControl_sloppyclockflag (pps : PpsOutcomes) (write : String → WriteOutcome) (pp : Proc)
    (s : Instance) : (javadControl pps write pp s).1.sloppyclockflag = pp.sloppyclockflag := by
  dsimp only [javadControl]
  split_ifs <;> rfl

theorem strlcpyCount_le : ∀ (src : List UInt8) (size : Nat), strlcpyCount src (size + 1) ≤ size
  | [], _ => Nat.zero_le _
  | c :: cs, size => by
      simp only [strlcpyCount]
      split_ifs with h
      · exact Nat.zero_le _
      · obtain ⟨size, rfl⟩ : ∃ k, size = k + 1 := ⟨size - 1, by omega⟩
        exact Nat.succ_le_succ (strlcpyCount_le cs size)

theorem add_receiveLength_le {ssize : Nat} (h : ssize ≤ 513) (n : Nat) :
    ssize + receiveLength ssize n ≤ 513 := by
  simp only [receiveLength, clampBound_of_le h]
  split_ifs <;> omega

theorem scanEnd_le (ibuf : Nat → UInt8) (n : Nat) : scanEnd ibuf n ≤ n := by
  unfold scanEnd
  split
  · exact findEol_le ‹_›
  · split_ifs <;> omega

theorem javadReceive_ssize_le (s : Instance) (chunk : List UInt8) (h : s.ssize ≤ 513) :
    (javadReceive s chunk).1.ssize ≤ 513 := by
  have := add_receiveLength_le h chunk.length
  simp only [javadReceive]
  split
  · exact this
  · split_ifs <;> dsimp only <;> omega

theorem receiveAccesses_within (s : Instance) (chunk : List UInt8) (h : s.ssize ≤ 513) :
    ∀ a ∈ receiveAccesses s chunk, a.hi ≤ if a.write then ibufSize + 2 else 2 * ibufSize + 2 := by
  have hlen := add_receiveLength_le h chunk.length
  have hcnt := strlcpyCount_le chunk (receiveLength s.ssize chunk.length)
  have hscan := scanEnd_le (strlcpy s.ibuf s.ssize chunk (receiveLength s.ssize chunk.length + 1))
    (s.ssize + receiveLength s.ssize chunk.length)
  intro a ha
  simp only [receiveAccesses, List.mem_cons] at ha
  rcases ha with rfl | rfl | ha
  · simp only [if_true, ibufSize]; omega
  · simp only [Bool.false_eq_true, if_false, ibufSize]; omega
  · split at ha
    · cases ha
    · rename_i eol heol
      have he := findEol_le heol
      simp only [List.mem_cons] at ha
      rcases ha with rfl | ha
      · simp only [Bool.false_eq_true, if_false, ibufSize]; omega
      · split_ifs at ha <;>
          simp only [List.mem_cons, List.mem_singleton, List.not_mem_nil, or_false] at ha
        · subst ha; decide
        · rcases ha with rfl | rfl <;> simp only [Bool.false_eq_true, if_false, if_true, ibufSize] <;> omega

theorem javadControl_ssize_le (pps : PpsOutcomes) (write : String → WriteOutcome) (pp : Proc)
    (s : Instance) : (javadControl pps write pp s).1.ssize ≤ s.ssize := by
  have h := congrArg Instance.ssize
    (Pps.javadPpsapi_frame pps { s with assert := !pp.sloppyclockflag.flag3 })
  dsimp only [javadControl]
  split_ifs
  · exact Nat.zero_le _
  · exact Nat.le_of_eq h

theorem runEntries_ssize_le (pp : Proc) (s : Instance) (h : s.ssize ≤ 513) (es : List Entry) :
    (runEntries pp s es).s.ssize ≤ 513 := by
  induction es generalizing pp s with
  | nil => exact h
  | cons e es ih =>
      cases e with
      | control flags pps write => exact ih _ _ ((javadControl_ssize_le _ _ _ _).trans h)
      | poll => exact ih _ _ h
      | receive chunk => rw [Lifecycle.runEntries_receive]; exact ih _ _ (javadReceive_ssize_le _ _ h)

theorem javadStart_ssize {unit : Nat} {o : Outcomes} {pp : Proc} {s : Instance}
    (h : (javadStart unit o pp).2.1 = some s) : s.ssize = 0 := by
  rcases javadStart_cases unit o pp with hc | hc | hc | ⟨-, hc⟩ | ⟨-, hc⟩ <;> rw [hc] at h <;> cases h
  rfl

theorem session_receive_within (unit : Nat) (o : Outcomes) (pp : Proc) (s : Instance)
    (hs : (javadStart unit o pp).2.1 = some s) (es : List Entry) :
    (runEntries (javadStart unit o pp).1 s es).s.ssize ≤ 513 ∧
      ∀ chunk, ∀ a ∈ receiveAccesses (runEntries (javadStart unit o pp).1 s es).s chunk,
        a.hi ≤ if a.write then ibufSize + 2 else 2 * ibufSize + 2 := by
  have h := runEntries_ssize_le (javadStart unit o pp).1 s (by rw [javadStart_ssize hs]; decide) es
  exact ⟨h, fun chunk => receiveAccesses_within _ chunk h⟩

theorem session_receive_within_started :
    ∃ s, (javadStart 0 ⟨3, true, some 5, ⟨some ⟨true, true, false⟩, true, false⟩,
        fun p => .wrote (p.length + 1)⟩ ⟨-1, ⟨false, false⟩⟩).2.1 = some s ∧
      (runEntries (javadStart 0 ⟨3, true, some 5, ⟨some ⟨true, true, false⟩, true, false⟩,
          fun p => .wrote (p.length + 1)⟩ ⟨-1, ⟨false, false⟩⟩).1 s [.receive [65, 13, 10]]).s.ssize ≤ 513 ∧
        ∀ chunk, ∀ a ∈ receiveAccesses (runEntries (javadStart 0 ⟨3, true, some 5,
            ⟨some ⟨true, true, false⟩, true, false⟩, fun p => .wrote (p.length + 1)⟩
            ⟨-1, ⟨false, false⟩⟩).1 s [.receive [65, 13, 10]]).s chunk,
          a.hi ≤ if a.write then ibufSize + 2 else 2 * ibufSize + 2 :=
  ⟨_, (Option.some_get (by decide)).symm,
    session_receive_within _ _ _ _ (Option.some_get (by decide)).symm _⟩

def written : Call → Option (Int × String)
  | .write fd cmd => some (fd, cmd)
  | _ => none

def writes (calls : List Call) : List (Int × String) := calls.filterMap written

theorem sendCommands_of_ok (write : String → WriteOutcome) :
    ∀ ps : List String, (sendCommands write ps).2 = none → (sendCommands write ps).1 = ps
  | [] => fun _ => rfl
  | p :: ps => by
      simp only [sendCommands]
      split
      · exact fun h => congrArg (p :: ·) (sendCommands_of_ok write ps h)
      · intro h; cases h

theorem writes_append (a b : List Call) : writes (a ++ b) = writes a ++ writes b :=
  List.filterMap_append _ _ _

theorem writes_map_write (fd : Int) (cmds : List String) :
    writes (cmds.map (Call.write fd)) = cmds.map (fd, ·) := by
  induction cmds with
  | nil => rfl
  | cons c cs ih => exact congrArg ((fd, c) :: ·) ih

theorem snd_map_pair (fd : Int) (cmds : List String) : (cmds.map (fd, ·)).map Prod.snd = cmds := by
  rw [List.map_map]
  exact List.map_id _

theorem writes_javadPpsapi (o : PpsOutcomes) (s : Instance) : writes (javadPpsapi o s).2.2 = [] := by
  rcases javadPpsapi_calls_cases o s with h | h | ⟨-, _, h⟩ <;> rw [h] <;> rfl

theorem writes_javadShutdown (pp : Proc) (unitptr : Option Instance) :
    writes (javadShutdown pp unitptr) = [] := by
  cases unitptr with
  | none => rfl
  | some s => simp only [javadShutdown]; split_ifs <;> rfl

theorem writes_startPps (o : Outcomes) (fd : Int) (s : Instance) : writes (startPps o fd s).2.2 = [] := by
  unfold startPps
  split
  · rfl
  · exact writes_javadPpsapi _ _

theorem writes_javadControl (pps : PpsOutcomes) (write : String → WriteOutcome) (pp : Proc)
    (s : Instance) :
    writes (javadControl pps write pp s).2 =
      (if pp.sloppyclockflag.flag2 ≠ s.sloppyclockflag.flag2 then (sendCommands write configCommands).1
        else []).map (pp.ioFd, ·) := by
  have h := congrArg Instance.sloppyclockflag
    (Pps.javadPpsapi_frame pps { s with assert := !pp.sloppyclockflag.flag3 })
  dsimp only [javadControl] at h ⊢
  rw [h]
  split_ifs
  · rw [writes_append, writes_javadPpsapi, writes_map_write]
    rfl
  · exact writes_javadPpsapi _ _

theorem javadStart_writes (unit : Nat) (o : Outcomes) (pp : Proc) :
    (javadStart unit o pp).2.2.1 = false ∧ writes (javadStart unit o pp).2.2.2 = [] ∨
      (javadStart unit o pp).2.2.1 = false ∧ (sendCommands o.write configCommands).2.isSome ∧
        writes (javadStart unit o pp).2.2.2 =
          (sendCommands o.write configCommands).1.map (o.refclockOpen, ·) ∨
      (javadStart unit o pp).2.2.1 = true ∧ (javadStart unit o pp).1.ioFd = o.refclockOpen ∧
        writes (javadStart unit o pp).2.2.2 = configCommands.map (o.refclockOpen, ·) := by
  have hpps := writes_startPps o o.refclockOpen { emallocZero with assert := true, hardpps := false }
  rcases javadStart_cases unit o pp with hc | hc | hc | ⟨hconf, hc⟩ | ⟨hconf, hc⟩ <;> rw [hc]
  · exact .inl ⟨rfl, rfl⟩
  · exact .inl ⟨rfl, rfl⟩
  · refine .inl ⟨rfl, ?_⟩
    rw [writes_append, writes_append, writes_javadShutdown, List.append_nil]
    exact hpps
  · refine .inr (.inl ⟨rfl, ?_, ?_⟩)
    · simpa [javadConfig] using hconf
    · rw [writes_append, writes_append, writes_append, writes_javadShutdown, List.append_nil,
        writes_map_write]
      exact congrArg (· ++ _) hpps
  · refine .inr (.inr ⟨rfl, rfl, ?_⟩)
    simp only [javadConfig, Option.isNone_iff_eq_none] at hconf
    rw [writes_append, writes_append, writes_map_write]
    exact (congrArg (· ++ _) hpps).trans (congrArg (List.map _) (sendCommands_of_ok _ _ hconf))

/-- The commands the fudge commands of a run write: the configuration sequence,
up to its first failed write, at each change of `CLK_FLAG2`. -/
def resets : Bool → List Entry → List String
  | _, [] => []
  | flag2, .control flags _ write :: es =>
      (if flags.flag2 ≠ flag2 then (sendCommands write configCommands).1 else []) ++
        resets flags.flag2 es
  | flag2, _ :: es => resets flag2 es

theorem runEntries_resets (pp : Proc) (s : Instance) (es : List Entry) :
    (writes (runEntries pp s es).calls).map Prod.snd = resets s.sloppyclockflag.flag2 es := by
  induction es generalizing pp s with
  | nil => rfl
  | cons e es ih =>
      cases e with
      | control flags pps write =>
          simp only [runEntries, writes_append, List.map_append, resets]
          rw [writes_javadControl, snd_map_pair, ih, javadControl_sloppyclockflag]
      | poll => exact ih pp s
      | receive chunk =>
          rw [Lifecycle.runEntries_receive, ih, javadReceive_sloppyclockflag]
          rfl

theorem session_resets (unit : Nat) (o : Outcomes) (pp : Proc) (entries : List Entry)
    (hok : (javadStart unit o pp).2.2.1 = true) :
    (writes (session unit o pp entries).1).map Prod.snd =
      configCommands ++ resets pp.sloppyclockflag.flag2 entries := by
  have hw : writes (javadStart unit o pp).2.2.2 = configCommands.map (o.refclockOpen, ·) := by
    rcases javadStart_writes unit o pp with ⟨h, -⟩ | ⟨h, -⟩ | ⟨-, -, hw⟩
    · rw [h] at hok; cases hok
    · rw [h] at hok; cases hok
    · exact hw
  rcases javadStart_cases unit o pp with hc | hc | hc | ⟨-, hc⟩ | ⟨-, hc⟩ <;> rw [hc] at hok hw <;>
    cases hok
  simp only [session, hc, Lifecycle.runEntries_not_aborted, Bool.false_eq_true, if_false, writes_append,
    writes_javadShutdown, List.append_nil, List.map_append, hw, snd_map_pair, runEntries_resets]
  rfl

theorem session_resets_flag2_toggles :
    (javadStart 0 ⟨3, true, some 5, ⟨some ⟨true, true, false⟩, true, false⟩,
        fun p => .wrote (p.length + 1)⟩ ⟨-1, ⟨false, false⟩⟩).2.2.1 = true ∧
      (writes (session 0 ⟨3, true, some 5, ⟨some ⟨true, true, false⟩, true, false⟩,
          fun p => .wrote (p.length + 1)⟩ ⟨-1, ⟨false, false⟩⟩
        [.control ⟨true, false⟩ ⟨some ⟨true, true, false⟩, true, false⟩ fun p => .wrote (p.length + 1),
          .receive [65, 13, 10],
          .control ⟨true, true⟩ ⟨some ⟨true, true, false⟩, true, false⟩ fun p => .wrote (p.length + 1),
          .control ⟨false, true⟩ ⟨some ⟨true, true, false⟩, true, false⟩ fun _ => .failed "EIO"]).1).map
          Prod.snd =
        configCommands ++ resets (⟨-1, ⟨false, false⟩⟩ : Proc).sloppyclockflag.flag2
          [.control ⟨true, false⟩ ⟨some ⟨true, true, false⟩, true, false⟩ fun p => .wrote (p.length + 1),
            .receive [65, 13, 10],
            .control ⟨true, true⟩ ⟨some ⟨true, true, false⟩, true, false⟩ fun p => .wrote (p.length + 1),
            .control ⟨false, true⟩ ⟨some ⟨true, true, false⟩, true, false⟩ fun _ => .failed "EIO"] := by
  refine ⟨?h, session_resets _ _ _ _ ?h⟩
  decide

example : resets false
      [.control ⟨true, false⟩ ⟨some ⟨true, true, false⟩, true, false⟩ fun p => .wrote (p.length + 1),
        .receive [65, 13, 10],
        .control ⟨true, true⟩ ⟨some ⟨true, true, false⟩, true, false⟩ fun p => .wrote (p.length + 1),
        .control ⟨false, true⟩ ⟨some ⟨true, true, false⟩, true, false⟩ fun _ => .failed "EIO"] =
    configCommands ++ ["dm,/cur/term"] := by decide

def receivedChunk : Entry → Option (List UInt8)
  | .receive chunk => some chunk
  | _ => none

def runLines : Proc → Instance → List Entry → List (List UInt8)
  | _, _, [] => []
  | pp, s, .control flags pps write :: es =>
      let pp := { pp with sloppyclockflag := flags }
      runLines pp (javadControl pps write pp s).1 es
  | pp, s, .poll :: es => runLines pp s es
  | pp, s, .receive chunk :: es =>
      match javadReceive s chunk with
      | (s, .pending) => runLines pp s es
      | (s, .line l) => l :: runLines pp s es
      | (_, .aborted) => []

/-- The abstract framer over a run, its buffer emptied at each change of
`CLK_FLAG2`. -/
def framedLines : List UInt8 → Bool → List Entry → List (List UInt8)
  | _, _, [] => []
  | buf, flag2, .control flags _ _ :: es =>
      framedLines (if flags.flag2 ≠ flag2 then [] else buf) flags.flag2 es
  | buf, flag2, .poll :: es => framedLines buf flag2 es
  | buf, flag2, .receive c :: es =>
      (frameClamped buf c).2.toList ++ framedLines (frameClamped buf c).1 flag2 es

theorem buffered_javadControl (pps : PpsOutcomes) (write : String → WriteOutcome) (pp : Proc)
    (s : Instance) :
    buffered (javadControl pps write pp s).1 =
      if pp.sloppyclockflag.flag2 ≠ s.sloppyclockflag.flag2 then [] else buffered s := by
  have h := Pps.javadPpsapi_frame pps { s with assert := !pp.sloppyclockflag.flag3 }
  dsimp only [javadControl]
  rw [h]
  split_ifs
  · exact buffered_of_ssize_zero rfl
  · rfl

theorem framedLines_sublist (buf : List UInt8) (flag2 : Bool) (es : List Entry) :
    (framedLines buf flag2 es).flatten.Sublist (buf ++ (es.filterMap receivedChunk).flatten) := by
  induction es generalizing buf flag2 with
  | nil => exact List.nil_sublist _
  | cons e es ih =>
      cases e with
      | control flags pps write =>
          refine (ih _ _).trans (List.Sublist.append ?_ (List.Sublist.refl _))
          split_ifs
          exacts [List.nil_sublist _, List.Sublist.refl _]
      | poll => exact ih buf flag2
      | receive c =>
          have hf := frame_flatten buf (c.take (ibufSize + 1 - buf.length))
          simp only [framedLines, List.flatten_append, List.filterMap_cons, receivedChunk,
            List.flatten_cons, ← List.append_assoc]
          refine ((ih _ _).append_left _).trans ?_
          rw [← List.append_assoc, frameClamped, hf]
          exact ((List.Sublist.refl _).append (List.take_sublist _ _)).append (List.Sublist.refl _)

theorem runLines_framedLines (pp : Proc) (s : Instance) (hs : s.ssize ≤ 513) (es : List Entry)
    (hnul : ∀ c ∈ es.filterMap receivedChunk, 0 ∉ c) :
    runLines pp s es = framedLines (buffered s) s.sloppyclockflag.flag2 es := by
  induction es generalizing pp s with
  | nil => rfl
  | cons e es ih =>
      cases e with
      | control flags pps write =>
          simp only [runLines, framedLines]
          rw [ih _ _ ((javadControl_ssize_le _ _ _ _).trans hs) hnul, buffered_javadControl,
            javadControl_sloppyclockflag]
      | poll => exact ih pp s hs hnul
      | receive c =>
          have htail : ∀ c ∈ es.filterMap receivedChunk, 0 ∉ c := fun c' h =>
            hnul c' (List.mem_cons_of_mem _ h)
          obtain ⟨hbuf, hout⟩ := javadReceive_frameClamped s (hnul c (List.mem_cons_self _ _)) hs
          have ih' := ih pp _ (javadReceive_ssize_le s c hs) htail
          rw [hbuf, javadReceive_sloppyclockflag] at ih'
          simp only [runLines, framedLines]
          generalize javadReceive s c = r at hout ih' ⊢
          obtain ⟨s', out⟩ := r
          dsimp only at hout ih' ⊢
          subst hout
          cases (frameClamped (buffered s) c).2
          · exact ih'
          · exact congrArg (_ :: ·) ih'

theorem session_lines (unit : Nat) (o : Outcomes) (pp : Proc) (s : Instance)
    (hs : (javadStart unit o pp).2.1 = some s) (entries : List Entry)
    (hnul : ∀ c ∈ entries.filterMap receivedChunk, 0 ∉ c) :
    runLines (javadStart unit o pp).1 s entries = framedLines [] pp.sloppyclockflag.flag2 entries ∧
      (runLines (javadStart unit o pp).1 s entries).flatten.Sublist
        (entries.filterMap receivedChunk).flatten := by
  have hflag : s.sloppyclockflag = pp.sloppyclockflag := by
    rcases javadStart_cases unit o pp with hc | hc | hc | ⟨-, hc⟩ | ⟨-, hc⟩ <;> rw [hc] at hs <;> cases hs
    rfl
  have h0 := javadStart_ssize hs
  have h := runLines_framedLines (javadStart unit o pp).1 s (by omega) entries hnul
  rw [buffered_of_ssize_zero h0, hflag] at h
  exact ⟨h, h ▸ framedLines_sublist [] _ entries⟩

theorem session_lines_reset_drops_partial :
    ∃ s, (javadStart 0 ⟨3, true, some 5, ⟨some ⟨true, true, false⟩, true, false⟩, fun p => .wrote (p.length + 1)⟩ ⟨-1, ⟨false, false⟩⟩).2.1 = some s ∧
      (∀ c ∈ ([.receive [65, 13],
          .control ⟨true, false⟩ ⟨some ⟨true, true, false⟩, true, false⟩ fun p => .wrote (p.length + 1),
          .receive [10, 66, 13, 10]] : List Entry).filterMap receivedChunk, 0 ∉ c) ∧
      runLines (javadStart 0 ⟨3, true, some 5, ⟨some ⟨true, true, false⟩, true, false⟩, fun p => .wrote (p.length + 1)⟩ ⟨-1, ⟨false, false⟩⟩).1 s [.receive [65, 13],
          .control ⟨true, false⟩ ⟨some ⟨true, true, false⟩, true, false⟩ fun p => .wrote (p.length + 1),
          .receive [10, 66, 13, 10]] =
        framedLines [] (⟨-1, ⟨false, false⟩⟩ : Proc).sloppyclockflag.flag2 [.receive [65, 13],
          .control ⟨true, false⟩ ⟨some ⟨true, true, false⟩, true, false⟩ fun p => .wrote (p.length + 1),
          .receive [10, 66, 13, 10]] ∧
      (runLines (javadStart 0 ⟨3, true, some 5, ⟨some ⟨true, true, false⟩, true, false⟩, fun p => .wrote (p.length + 1)⟩ ⟨-1, ⟨false, false⟩⟩).1 s [.receive [65, 13],
          .control ⟨true, false⟩ ⟨some ⟨true, true, false⟩, true, false⟩ fun p => .wrote (p.length + 1),
          .receive [10, 66, 13, 10]]).flatten.Sublist
        (([.receive [65, 13],
          .control ⟨true, false⟩ ⟨some ⟨true, true, false⟩, true, false⟩ fun p => .wrote (p.length + 1),
          .receive [10, 66, 13, 10]] : List Entry).filterMap receivedChunk).flatten :=
  ⟨_, (Option.some_get (by decide)).symm, by decide,
    session_lines _ _ _ _ (Option.some_get (by decide)).symm _ (by decide)⟩

example : framedLines [] false [.receive [65, 13],
          .control ⟨true, false⟩ ⟨some ⟨true, true, false⟩, true, false⟩ fun p => .wrote (p.length + 1),
          .receive [10, 66, 13, 10]] = [[10, 66, 13, 10]] := by decide

/-- A PPSAPI request for exactly one edge, never bound to the kernel. -/
def ppsRequestOk : Call → Prop
  | .timePpsSetparams _ mode => mode = ⟨true, false, true⟩ ∨ mode = ⟨false, true, true⟩
  | .timePpsKcbind _ _ => False
  | _ => True

theorem javadPpsapi_requests (o : PpsOutcomes) (s : Instance) (hh : s.hardpps = false) :
    ∀ c ∈ (javadPpsapi o s).2.2, ppsRequestOk c := by
  rcases javadPpsapi_calls_cases o s with h | h | ⟨hk, -⟩
  · rw [h, List.forall_mem_singleton]
    trivial
  · rw [h, List.forall_mem_cons, List.forall_mem_singleton]
    refine ⟨trivial, ?_⟩
    cases s.assert
    · exact .inr rfl
    · exact .inl rfl
  · exact absurd (hh ▸ hk) Bool.false_ne_true

theorem javadControl_requests (pps : PpsOutcomes) (write : String → WriteOutcome) (pp : Proc)
    {s : Instance} (hh : s.hardpps = false) : ∀ c ∈ (javadControl pps write pp s).2, ppsRequestOk c := by
  obtain ⟨cmds, hc⟩ := Lifecycle.javadControl_calls pps write pp s
  intro c h
  rw [hc, List.mem_append] at h
  rcases h with h | h
  · exact javadPpsapi_requests _ _ (by exact hh) c h
  · obtain ⟨_, -, rfl⟩ := List.mem_map.mp h
    trivial

theorem runEntries_requests (pp : Proc) (s : Instance) (hh : s.hardpps = false) (es : List Entry) :
    ∀ c ∈ (runEntries pp s es).calls, ppsRequestOk c := by
  induction es generalizing pp s with
  | nil => exact fun _ h => (by cases h)
  | cons e es ih =>
      cases e with
      | control flags pps write =>
          simp only [runEntries, List.mem_append]
          exact fun c h => h.elim (javadControl_requests pps write _ hh c)
            (ih _ _ ((javadControl_hardpps _ _ _ _).trans hh) c)
      | poll => exact ih pp s hh
      | receive chunk =>
          rw [Lifecycle.runEntries_receive]
          exact ih _ _ ((javadReceive_hardpps _ _).trans hh)

theorem javadShutdown_requests (pp : Proc) (unitptr : Option Instance) :
    ∀ c ∈ javadShutdown pp unitptr, ppsRequestOk c := by
  cases unitptr with
  | none => exact fun _ h => (by cases h)
  | some s =>
      refine List.forall_mem_append.mpr ⟨?_, ?_⟩ <;> split_ifs <;>
        simp only [List.forall_mem_singleton, List.not_mem_nil, false_implies, implies_true] <;> trivial

theorem startPps_requests (o : Outcomes) (fd : Int) {s : Instance} (hh : s.hardpps = false) :
    (startPps o fd s).1.hardpps = false ∧ ∀ c ∈ (startPps o fd s).2.2, ppsRequestOk c := by
  unfold startPps
  split
  · exact ⟨hh, fun c h => by rw [List.mem_singleton.mp h]; trivial⟩
  · refine ⟨(javadPpsapi_hardpps _ _).trans hh, fun c h => ?_⟩
    rcases List.mem_cons.mp h with rfl | h
    · trivial
    · exact javadPpsapi_requests _ _ (by exact hh) c h

theorem javadStart_requests (unit : Nat) (o : Outcomes) (pp : Proc) :
    (∀ c ∈ (javadStart unit o pp).2.2.2, ppsRequestOk c) ∧
      ∀ s, (javadStart unit o pp).2.1 = some s → s.hardpps = false := by
  obtain ⟨hh, hpps⟩ := startPps_requests o o.refclockOpen
    (s := { emallocZero with assert := true, hardpps := false }) rfl
  have hwr : ∀ (fd : Int) (cmds : List String), ∀ c ∈ cmds.map (Call.write fd), ppsRequestOk c :=
    fun _ _ c h => by obtain ⟨_, -, rfl⟩ := List.mem_map.mp h; trivial
  rcases javadStart_cases unit o pp with hc | hc | hc | ⟨-, hc⟩ | ⟨-, hc⟩ <;> rw [hc] <;>
    simp only [List.forall_mem_append, List.forall_mem_cons, List.not_mem_nil, false_implies,
      implies_true, and_true, Option.some.injEq, forall_eq', reduceCtorEq]
  · trivial
  · exact ⟨trivial, trivial, trivial⟩
  · exact ⟨⟨trivial, trivial, hpps⟩, javadShutdown_requests _ _⟩
  · exact ⟨⟨⟨trivial, trivial, hpps⟩, hwr _ _⟩, javadShutdown_requests _ _⟩
  · exact ⟨⟨⟨trivial, trivial, hpps⟩, hwr _ _⟩, hh⟩

theorem session_pps_requests (unit : Nat) (o : Outcomes) (pp : Proc) (entries : List Entry) :
    ∀ c ∈ (session unit o pp entries).1, ppsRequestOk c := by
  obtain ⟨hcalls, hh⟩ := javadStart_requests unit o pp
  rcases hst : javadStart unit o pp with ⟨pp', unitptr, ok, calls⟩
  rw [hst] at hcalls hh
  have hfail : ∀ u, ∀ c ∈ calls ++ javadShutdown pp' u, ppsRequestOk c := fun u =>
    List.forall_mem_append.mpr ⟨hcalls, javadShutdown_requests _ _⟩
  rcases unitptr with _ | s
  · simp only [session, hst]
    exact hfail none
  · cases ok with
    | false => simp only [session, hst]; exact hfail (some s)
    | true =>
        simp only [session, hst, Lifecycle.runEntries_not_aborted, Bool.false_eq_true, if_false,
          List.forall_mem_append]
        exact ⟨⟨hcalls, runEntries_requests _ _ (hh s rfl) _⟩, javadShutdown_requests _ _⟩

theorem session_pps_requests_clear_edge :
    Call.timePpsSetparams 5 ⟨false, true, true⟩ ∈
        (session 0 ⟨3, true, some 5, ⟨some ⟨true, true, false⟩, true, true⟩,
          fun p => .wrote (p.length + 1)⟩ ⟨-1, ⟨false, false⟩⟩
          [.control ⟨false, true⟩ ⟨some ⟨true, true, false⟩, true, true⟩
            fun p => .wrote (p.length + 1)]).1 ∧
      ppsRequestOk (.timePpsSetparams 5 ⟨false, true, true⟩) := by
  refine ⟨?h, session_pps_requests _ _ _ _ _ ?h⟩
  decide

end RefclockJavad.SessionInvariants
