import RefclockJavad.LineFramer

/-!
The driver's entry points as the host calls them.  Each returns the external
calls it made; what those calls return is an argument.  The build modelled
has `HAVE_PPSAPI` and not `DEBUG`.
-/

namespace RefclockJavad.Driver

open RefclockJavad.Basic
open RefclockJavad.State
open RefclockJavad.LineFramer

/-- An external call, with the descriptor or handle it returned where the driver
keeps it. -/
inductive Call
  | refclockOpen (dev : String) (fd : Int)
  | ioAddclock (fd : Int)
  | close (fd : Int)
  | ioCloseclock (fd : Int)
  | write (fd : Int) (cmd : String)
  | timePpsCreate (fd : Int) (handle : Option Nat)
  | timePpsGetcap (handle : Nat)
  | timePpsSetparams (handle : Nat) (mode : PpsMode)
  | timePpsKcbind (handle : Nat) (edge : PpsMode)
  | timePpsFetch (handle : Nat)
  | timePpsDestroy (handle : Nat)
  deriving DecidableEq, Repr

structure PpsOutcomes where
  getcap : Option PpsMode
  setparams : Bool
  kcbind : Bool
  deriving DecidableEq, Repr

structure Outcomes where
  refclockOpen : Int
  ioAddclock : Bool
  timePpsCreate : Option Nat
  pps : PpsOutcomes
  write : String → WriteOutcome

structure Proc where
  ioFd : Int
  sloppyclockflag : ClockFlags
  deriving DecidableEq, Repr

def javadPpsapi (o : PpsOutcomes) (s : Instance) : Instance × Bool × List Call :=
  let h := s.ppsHandle
  match o.getcap with
  | none => (s, false, [.timePpsGetcap h])
  | some capability =>
      let mode : PpsMode :=
        if !s.assert then ⟨false, capability.captureClear, false⟩
        else ⟨capability.captureAssert, false, false⟩
      if !(mode.captureAssert || mode.captureClear) then
        ({ s with ppsMode := mode }, false, [.timePpsGetcap h])
      else
        let s := { s with ppsMode := { mode with tsfmtTspec := true } }
        let calls := [.timePpsGetcap h, .timePpsSetparams h s.ppsMode]
        if !o.setparams then (s, false, calls)
        else if s.hardpps then (s, o.kcbind, calls ++ [.timePpsKcbind h mode])
        else (s, true, calls)

structure LFp where
  lUi : Nat
  lUf : Nat
  deriving DecidableEq, Repr

def jan1970 : Nat := 2208988800

/-- `(u_int32)tv_sec + JAN_1970`, and the nanoseconds scaled by 2^32 / 10^9: for
`tv_nsec` in [0, 10^9) the `double` quotient truncates to the integer one. -/
def toLFp (ts : Timespec) : LFp :=
  ⟨((ts.tvSec % 2 ^ 32).toNat + jan1970) % 2 ^ 32, (ts.tvNsec * 2 ^ 32 / 10 ^ 9).toNat % 2 ^ 32⟩

def javadPps (fetch : Option PpsInfo) (s : Instance) : Instance × Option LFp × List Call :=
  if s.ppsHandle = 0 then (s, none, [])
  else
    let calls := [Call.timePpsFetch s.ppsHandle]
    match fetch with
    | none => (s, none, calls)
    | some info =>
        let prev := s.ppsInfo
        let s := { s with ppsInfo := info }
        let edge : Option Timespec :=
          if s.ppsMode.captureAssert then
            if prev.assertSequence = info.assertSequence then none else some info.assertTimestamp
          else if s.ppsMode.captureClear then
            if prev.clearSequence = info.clearSequence then none else some info.clearTimestamp
          else none
        match edge with
        | none => (s, none, calls)
        | some ts => if s.ts = ts then (s, none, calls) else ({ s with ts }, some (toLFp ts), calls)

def gpsdev (unit : Nat) : String := "/dev/gps" ++ toString unit

def javadShutdown (pp : Proc) (unitptr : Option Instance) : List Call :=
  match unitptr with
  | none => []
  | some s =>
      (if s.ppsHandle ≠ 0 then [.timePpsDestroy s.ppsHandle] else []) ++
        (if pp.ioFd ≠ -1 then [.ioCloseclock pp.ioFd] else [])

def startPps (o : Outcomes) (fd : Int) (s : Instance) : Instance × Bool × List Call :=
  match o.timePpsCreate with
  | none => ({ s with ppsHandle := 0 }, true, [.timePpsCreate fd none])
  | some h =>
      let r := javadPpsapi o.pps { s with ppsHandle := h }
      (r.1, r.2.1, .timePpsCreate fd (some h) :: r.2.2)

/-- `javad_start` on a `procptr` whose `unitptr` is still null. -/
def javadStart (unit : Nat) (o : Outcomes) (pp : Proc) :
    Proc × Option Instance × Bool × List Call :=
  let fd := o.refclockOpen
  let opened := [Call.refclockOpen (gpsdev unit) fd]
  if fd ≤ 0 then (pp, none, false, opened)
  else if !o.ioAddclock then
    ({ pp with ioFd := -1 }, none, false, opened ++ [.ioAddclock fd, .close fd])
  else
    let pp := { pp with ioFd := fd }
    let pps := startPps o fd { emallocZero with assert := true, hardpps := false }
    let calls := opened ++ .ioAddclock fd :: pps.2.2
    if !pps.2.1 then (pp, none, false, calls ++ javadShutdown pp (some pps.1))
    else
      let conf := javadConfig pp.sloppyclockflag o.write pps.1
      let calls := calls ++ conf.2.2.map (.write fd)
      if !conf.2.1 then (pp, none, false, calls ++ javadShutdown pp (some conf.1))
      else (pp, some conf.1, true, calls)

/-- `javad_control` once the host has stored the new fudge flags in `pp`;
the `fudgetime2` stored into `limit` is left out. -/
def javadControl (pps : PpsOutcomes) (write : String → WriteOutcome) (pp : Proc)
    (s : Instance) : Instance × List Call :=
  let r := javadPpsapi pps { s with assert := !pp.sloppyclockflag.flag3 }
  let s := { r.1 with sloppyclockflag := pp.sloppyclockflag }
  if s.sloppyclockflag.flag2 ≠ r.1.sloppyclockflag.flag2 then
    let conf := javadConfig pp.sloppyclockflag write s
    (conf.1, r.2.2 ++ conf.2.2.map (.write pp.ioFd))
  else (s, r.2.2)

inductive Entry
  | control (flags : ClockFlags) (pps : PpsOutcomes) (write : String → WriteOutcome)
  | poll
  | receive (chunk : List UInt8)

def Entry.isControl : Entry → Bool
  | .control .. => true
  | _ => false

structure RunEnd where
  pp : Proc
  s : Instance
  calls : List Call
  aborted : Bool

def runEntries : Proc → Instance → List Entry → RunEnd
  | pp, s, [] => ⟨pp, s, [], false⟩
  | pp, s, .control flags pps write :: es =>
      let pp := { pp with sloppyclockflag := flags }
      let r := runEntries pp (javadControl pps write pp s).1 es
      { r with calls := (javadControl pps write pp s).2 ++ r.calls }
  | pp, s, .poll :: es => runEntries pp s es
  | pp, s, .receive chunk :: es =>
      match javadReceive s chunk with
      | (s, .aborted) => ⟨pp, s, [], true⟩
      | (s, _) => runEntries pp s es

/-- `javad_start`, the entries if it returned 1, then `javad_shutdown` unless the
process aborted. -/
def session (unit : Nat) (o : Outcomes) (pp : Proc) (entries : List Entry) : List Call × Bool :=
  match javadStart unit o pp with
  | (pp, some s, true, calls) =>
      let r := runEntries pp s entries
      if r.aborted then (calls ++ r.calls, true)
      else (calls ++ r.calls ++ javadShutdown r.pp (some r.s), false)
  | (pp, unitptr, _, calls) => (calls ++ javadShutdown pp unitptr, false)

end RefclockJavad.Driver
