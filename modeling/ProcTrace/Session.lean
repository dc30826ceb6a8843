import ProcTrace.TracedRun

/-!
# Sessions

Several tracers and the tracees that they have made, driven one operation (`Op`) at a time; each
operation comes with a kernel of its own, which answers its system calls.

* `Session.step`   does one operation: the answer, with the journal of what was done, and the
                   session after it;
* `Session.run`    does one operation after the other.

Any tracer may be handed any tracee.  A tracee is known by its position among all tracees; one
made by tracing a program is never handed out, and is kept apart as abandoned.
-/

namespace ProcTrace

/-- a tracee, the position of the tracer that made it, and the first stop that this promised -/
structure Held where
  owner : Nat
  origin : FirstStop
  tracee : Tracee
deriving DecidableEq

structure Session where
  tracers : List Tracer
  tracees : List Held := []
  /-- tracees to which nobody has a handle -/
  abandoned : List Held := []
  /-- what the last failing system call left behind -/
  errno : Errno := .unknown
  nextPid : Pid := 1000
deriving DecidableEq

/-- a look into a tracee -/
inductive Look where
  | memoryWord (address : Address)
  | register (register : Slot)
  | syscallNumber (layout : Layout)
  | stackPointer (layout : Layout)
  | instructionPointer (layout : Layout)
  | string (address : Address)
  | strings (address : Address)
  | execArguments (layout : Layout)
  | execEnvironment (layout : Layout)
deriving DecidableEq

/-- an operation; tracers and tracees are named by position -/
inductive Op where
  | spawn (tracer : Nat) (command : Command)
  /-- the child's side of a spawn by a new tracer -/
  | spawnChild (command : Command)
  | attach (tracer : Nat) (pid : Pid)
  | wait (tracer tracee : Nat)
  | waitForExec (tracer tracee : Nat)
  | resume (tracer tracee : Nat)
  | kill (tracer tracee : Nat)
  | runTraced (tracer : Nat) (command : Command) (layout : Layout)
  | setOptions (tracer : Nat) (options : Options)
  | isTracing (tracer : Nat) (pid : Pid)
  | sameTracer (tracer other : Nat)
  | sameTracee (tracee other : Nat)
  | look (tracee : Nat) (look : Look)
deriving DecidableEq

/-- what an operation gives -/
inductive Value where
  | done
  | tracee (position : Nat)
  /-- the child ended, with this exit code or as a new image -/
  | child (exit : Option Int32)
  | stop (stop : Stop)
  | word (word : Word)
  | bytes (bytes : Bytes)
  | strings (strings : List Bytes)
  | flag (b : Bool)
  | options (options : Options)
  /-- the report on a traced program, and whether its process is still traced -/
  | report (report : RunReport) (tracing : Bool)
deriving DecidableEq

inductive Outcome where
  | ok (value : Value)
  | error (error : Error)
  /-- there is no tracee at that position -/
  | noTracee
  /-- there is no tracer at that position -/
  | noTracer
deriving DecidableEq

structure Answer where
  outcome : Outcome
  journal : Journal := []
deriving DecidableEq

def Look.run (t : Tracee) : Look → Attempt Value
  | memoryWord address => .word <$> Inspect.memoryWord t address
  | register r => .word <$> Inspect.register t r
  | syscallNumber layout => .word <$> Inspect.syscallNumber t layout
  | stackPointer layout => .word <$> Inspect.stackPointer t layout
  | instructionPointer layout => .word <$> Inspect.instructionPointer t layout
  | string address => .bytes <$> Inspect.string t address
  | strings address => .strings <$> Inspect.strings t address
  | execArguments layout => .strings <$> Inspect.execArguments t layout
  | execEnvironment layout => .strings <$> Inspect.execEnvironment t layout

namespace Session

/-- new tracers, `n` of them, without tracees -/
def new (n : Nat) : Session := { tracers := List.replicate n .new }

/-- the host that answers one operation -/
def host (s : Session) (k : Kernel) : Host := ⟨k, s.errno, s.nextPid, []⟩

/-- what stays of a host after an operation -/
def keepHost (s : Session) (host : Host) : Session :=
  { s with errno := host.errno, nextPid := host.nextPid }

def setTracer (s : Session) (i : Nat) (t : Tracer) : Session :=
  { s with tracers := s.tracers.set i t }

def setTracee (s : Session) (i : Nat) (t : Tracee) : Session :=
  { s with tracees := s.tracees.modify i ({ · with tracee := t }) }

/-! ## kinds of operations -/

/-- a look into a tracee, which changes nothing but what the host leaves behind -/
def inspect (s : Session) (k : Kernel) (tracee : Tracee) (look : Look) : Answer × Session :=
  let (result, host) := (look.run tracee).runOn (s.host k)
  let outcome := match result with
    | .ok value => .ok value
    | .error e => .error e
  (⟨outcome, host.journal⟩, s.keepHost host)

/-- An action of a tracer that gets it a tracee.  `back` puts the tracer back, also if that failed.
A child is a process of its own: what it does, down to the error number that it leaves behind, stays
with it, and this session goes on as it was. -/
def recruit (s : Session) (k : Kernel) (t : Tracer) (act : Recruit (Forked α))
    (back : Session → Tracer → Session) (keep : Session → α → Outcome × Session) :
    Answer × Session :=
  let (result, stage) := act.runOn ⟨t, s.host k⟩
  let after := back (s.keepHost stage.host) stage.tracer
  match result with
  | .error e => (⟨.error e, stage.host.journal⟩, after)
  | .ok (.child exit) => (⟨.ok (.child exit), stage.host.journal⟩, s)
  | .ok (.parent a) =>
    let (outcome, after) := keep after a
    (⟨outcome, stage.host.journal⟩, after)

/-- an action of a tracer on a tracee -/
def drive (s : Session) (k : Kernel) (tracer tracee : Nat) (act : Drive α) (value : α → Value) :
    Answer × Session :=
  match s.tracees[tracee]?, s.tracers[tracer]? with
  | none, _ => (⟨.noTracee, []⟩, s)
  | _, none => (⟨.noTracer, []⟩, s)
  | some h, some t =>
    let (result, scene) := act.runOn ⟨t, h.tracee, s.host k⟩
    let s := ((s.keepHost scene.host).setTracer tracer scene.tracer).setTracee tracee scene.tracee
    let outcome := match result with
      | .ok a => .ok (value a)
      | .error e => .error e
    (⟨outcome, scene.host.journal⟩, s)

/-- an operation of a tracer -/
def withTracer (s : Session) (i : Nat) (f : Tracer → Answer × Session) : Answer × Session :=
  match s.tracers[i]? with
  | none => (⟨.noTracer, []⟩, s)
  | some t => f t

/-! ## what is kept of a new tracee -/

def keepNew (owner : Nat) (origin : FirstStop) (s : Session) (tracee : Tracee) :
    Outcome × Session :=
  (.ok (.tracee s.tracees.length), { s with tracees := s.tracees ++ [{ owner, origin, tracee }] })

/-- the program of a traced run, which nobody holds once the run is over -/
def keepRun (owner : Nat) (s : Session) (traced : TracedRun) : Outcome × Session :=
  let held := { owner, origin := .exec, tracee := traced.tracee }
  let outcome := match traced.report with
    | .ok report => .ok (.report report (s.tracers[owner]?.any (·.isTracing report.pid)))
    | .error e => .error e
  (outcome, { s with abandoned := s.abandoned ++ [held] })

/-! ## steps -/

def step (s : Session) (k : Kernel) : Op → Answer × Session
  | .spawn i command =>
    s.withTracer i fun t =>
      s.recruit k t (Tracer.spawn command) (·.setTracer i) (keepNew i .exec)
  | .spawnChild command =>
    s.recruit { k with forks := [.ok 0] } .new (Tracer.spawn command) (fun s _ => s)
      fun s _ => (.ok .done, s)
  | .attach i pid =>
    s.withTracer i fun t =>
      s.recruit k t (.parent <$> Tracer.attach pid) (·.setTracer i) (keepNew i .attach)
  | .wait i j => s.drive k i j Drive.wait .stop
  | .waitForExec i j => s.drive k i j Drive.waitForExec fun _ => .done
  | .resume i j => s.drive k i j Drive.resume fun _ => .done
  | .kill i j => s.drive k i j Drive.kill .stop
  | .runTraced i command layout =>
    s.withTracer i fun t =>
      s.recruit k t (Tracer.runTraced command layout) (·.setTracer i) (keepRun i)
  | .setOptions i options =>
    s.withTracer i fun t =>
      let t := t.setOptions options
      (⟨.ok (.options t.options), []⟩, s.setTracer i t)
  | .isTracing i pid => s.withTracer i fun t => (⟨.ok (.flag (t.isTracing pid)), []⟩, s)
  | .sameTracer i j =>
    s.withTracer i fun t => s.withTracer j fun u => (⟨.ok (.flag (t = u)), []⟩, s)
  | .sameTracee i j =>
    match s.tracees[i]?, s.tracees[j]? with
    | some t, some u => (⟨.ok (.flag (t.tracee = u.tracee)), []⟩, s)
    | _, _ => (⟨.noTracee, []⟩, s)
  | .look j look =>
    match s.tracees[j]? with
    | none => (⟨.noTracee, []⟩, s)
    | some h => s.inspect k h.tracee look

/-- a sequence of operations: the answers in order, and the session at the end -/
def run : List (Kernel × Op) → Session → List Answer × Session
  | [], s => ([], s)
  | (k, op) :: rest, s =>
    let (answer, s) := s.step k op
    let (answers, s) := run rest s
    (answer :: answers, s)

end Session

end ProcTrace
