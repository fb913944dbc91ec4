import RefclockJavad.Basic
import RefclockJavad.State
import RefclockJavad.LineFramer
import RefclockJavad.LineFramerRuns
import RefclockJavad.GpsTime
import RefclockJavad.WeekTracking
import RefclockJavad.Driver
import RefclockJavad.Lifecycle
import RefclockJavad.BinaryFramer
import RefclockJavad.FrameChecks
import RefclockJavad.Pps
import RefclockJavad.SessionInvariants
