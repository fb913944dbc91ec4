import RefclockJavad.Basic

namespace RefclockJavad.State

open RefclockJavad.Basic

structure Timespec where
  tvSec : Int
  tvNsec : Int
  deriving DecidableEq, Repr

structure PpsMode where
  captureAssert : Bool
  captureClear : Bool
  tsfmtTspec : Bool
  deriving DecidableEq, Repr

structure PpsInfo where
  assertSequence : Nat
  clearSequence : Nat
  assertTimestamp : Timespec
  clearTimestamp : Timespec
  deriving DecidableEq, Repr

structure ClockFlags where
  flag2 : Bool
  flag3 : Bool
  deriving DecidableEq, Repr

/-- `struct instance`; `ibuf` takes any index, so that a write past its 512 bytes
is still a step of the model. -/
structure Instance where
  ppsMode : PpsMode
  ppsInfo : PpsInfo
  ppsHandle : Nat
  assert : Bool
  hardpps : Bool
  ts : Timespec
  gposGweek : Nat
  gposSweek : Nat
  gweek : Nat
  lastsweek : Nat
  timecode : Int
  sloppyclockflag : ClockFlags
  ibuf : Nat → UInt8
  ssize : Nat

def zeroTimespec : Timespec := ⟨0, 0⟩

def emallocZero : Instance where
  ppsMode := ⟨false, false, false⟩
  ppsInfo := ⟨0, 0, zeroTimespec, zeroTimespec⟩
  ppsHandle := 0
  assert := false
  hardpps := false
  ts := zeroTimespec
  gposGweek := 0
  gposSweek := 0
  gweek := 0
  lastsweek := 0
  timecode := 0
  sloppyclockflag := ⟨false, false⟩
  ibuf := fun _ => 0
  ssize := 0

@[simp] theorem emallocZero_ssize : emallocZero.ssize = 0 := rfl

inductive WriteOutcome
  | wrote (cc : Nat)
  | failed (strerror : String)
  deriving DecidableEq, Repr

def javadSend (p : String) (write : WriteOutcome) : Option String :=
  let size := p.length + 1
  match write with
  | .failed strerror => some ("write: " ++ strerror)
  | .wrote cc =>
      if cc = size then none
      else some ("short write (" ++ toString cc ++ " != " ++ toString size ++ ")")

def configCommands : List String :=
  ["dm,/cur/term", "set,/par/nmea/notime,off", "em,,nmea/RMC:1"]

/-- The sends of `javad_config`, each made only while every one before went out. -/
def sendCommands (write : String → WriteOutcome) : List String → List String × Option String
  | [] => ([], none)
  | p :: ps =>
      match javadSend p (write p) with
      | none => let rest := sendCommands write ps; (p :: rest.1, rest.2)
      | some errmsg => ([p], some errmsg)

/-- `javad_config`: reset the unit variables and configure the receiver. -/
def javadConfig (flags : ClockFlags) (write : String → WriteOutcome) (s : Instance) :
    Instance × Bool × List String :=
  ({ s with
      sloppyclockflag := flags
      gposGweek := 0
      gposSweek := 0
      gweek := 0
      lastsweek := 2 * weeksecs
      timecode := 0
      ssize := 0 },
    (sendCommands write configCommands).2.isNone,
    (sendCommands write configCommands).1)

section Config

variable (flags : ClockFlags) (write : String → WriteOutcome) (s : Instance)

@[simp] theorem javadConfig_ibuf : (javadConfig flags write s).1.ibuf = s.ibuf := rfl
@[simp] theorem javadConfig_ssize : (javadConfig flags write s).1.ssize = 0 := rfl
@[simp] theorem javadConfig_timecode : (javadConfig flags write s).1.timecode = 0 := rfl
@[simp] theorem javadConfig_gweek : (javadConfig flags write s).1.gweek = 0 := rfl
@[simp] theorem javadConfig_gposGweek : (javadConfig flags write s).1.gposGweek = 0 := rfl
@[simp] theorem javadConfig_gposSweek : (javadConfig flags write s).1.gposSweek = 0 := rfl
@[simp] theorem javadConfig_lastsweek :
    (javadConfig flags write s).1.lastsweek = 2 * weeksecs := rfl
@[simp] theorem javadConfig_ppsHandle :
    (javadConfig flags write s).1.ppsHandle = s.ppsHandle := rfl

end Config

end RefclockJavad.State
