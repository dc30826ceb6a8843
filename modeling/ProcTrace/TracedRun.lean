import ProcTrace.Drive
import ProcTrace.Inspect
import ProcTrace.Recruit

/-!
# Tracing one program

A program is spawned, stopped at its exec, asked for the number of the system call that it has just
returned from, and then run to its end.

* `Tracer.runTraced`   does all of it.  The tracee is not handed out, so `TracedRun` records what
                       became of it.
-/

namespace ProcTrace

structure RunReport where
  pid : Pid
  /-- the word of the syscall-number register at the exec stop -/
  syscallNumber : Word
  exit : Stop
deriving DecidableEq

namespace Drive

/-- looks into the tracee -/
def inspect (look : Tracee → Attempt α) : Drive α := fun s =>
  let (result, host) := (look s.tracee).runOn s.host
  (result, { s with host })

/-- An action without whose result the tracee is of no use: if it fails, the tracee is killed. -/
def orKill (act : Drive α) : Drive α := do
  try act
  catch e =>
    try
      let _ ← kill
    catch failure => Host.note (.killFailed (← pid) failure)
    throw e

/-- from a newly spawned tracee to its end -/
def follow (layout : Layout) : Drive RunReport := do
  waitForExec
  let pid ← pid
  let syscallNumber ← orKill (inspect (Inspect.syscallNumber · layout))
  Host.note (.syscallNumberRead pid syscallNumber)
  resume
  let exit ← waitForEnd
  return { pid, syscallNumber, exit }

end Drive

/-- a program that was traced: what came of it, and its tracee afterwards -/
structure TracedRun where
  report : Except Error RunReport
  tracee : Tracee

/-- drives a new tracee; what that came to, and the tracee afterwards -/
def Recruit.drive (act : Drive α) (tracee : Tracee) : Recruit (Except Error α × Tracee) :=
  fun s =>
    let (result, scene) := act.runOn { tracer := s.tracer, tracee, host := s.host }
    (.ok (result, scene.tracee), { tracer := scene.tracer, host := scene.host })

/-- It fails only if there was no tracee. -/
def Tracer.runTraced (command : Command) (layout : Layout) : Recruit (Forked TracedRun) := do
  match ← spawn command with
  | .child exit => return .child exit
  | .parent tracee =>
    let (report, tracee) ← Recruit.drive (Drive.follow layout) tracee
    return .parent { report, tracee }

end ProcTrace
