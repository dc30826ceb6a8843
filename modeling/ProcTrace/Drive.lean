import ProcTrace.Tracer

/-!
# Driving one tracee

A tracee is driven in turns: wait until it stops, look at it, let it run on.  `Drive` is an action
of one tracer on one tracee; what it did before it failed stays done.

* `Drive.wait`          until the tracee stops or ends;
* `Drive.resume`        lets a stopped tracee run on;
* `Drive.waitForExec`   until the exec stop of a spawned tracee, past any stop before it;
* `Drive.kill`          kills the tracee and waits for its end, past any stop still queued.

The loops go round once for each reply of waiting that is left: each wait takes at least one, and
with none left a wait fails.
-/

namespace ProcTrace

/-- one tracer, one tracee and the host they are on -/
structure Scene where
  tracer : Tracer
  tracee : Tracee
  host : Host

abbrev Drive := ExceptT Error (StateM Scene)

instance : MonadLift HostM Drive where
  monadLift act := fun scene =>
    let (a, host) := act scene.host
    (.ok a, { scene with host })

namespace Drive

/-! ## running an action -/

/-- what an action comes to on a scene, and the scene afterwards -/
def runOn (act : Drive α) (s : Scene) : Except Error α × Scene := act s

theorem runOn_pure (a : α) (s : Scene) : runOn (pure a) s = (.ok a, s) := rfl

theorem runOn_throw (e : Error) (s : Scene) : (throw e : Drive α).runOn s = (.error e, s) := rfl

theorem runOn_lift (act : HostM α) (s : Scene) :
    runOn (liftM act) s = (.ok (act s.host).1, { s with host := (act s.host).2 }) := rfl

theorem runOn_bind (x : Drive α) (f : α → Drive β) (s : Scene) :
    runOn (x >>= f) s = match x.runOn s with
      | (.ok a, t) => (f a).runOn t
      | (.error e, t) => (.error e, t) := by
  show ExceptT.bind x f s = _
  simp only [runOn, ExceptT.bind, ExceptT.mk, bind, StateT.bind]
  rcases x s with ⟨r, t⟩
  cases r <;> rfl

/-! ## parts -/

/-- a look at the scene -/
def ask (f : Scene → α) : Drive α := fun s => (.ok (f s), s)

def update (f : Scene → Scene) : Drive Unit := fun s => (.ok (), f s)

def tracee : Drive Tracee := ask Scene.tracee

def tracer : Drive Tracer := ask Scene.tracer

def pid : Drive Pid := ask (·.tracee.pid)

def setState (state : State) : Drive Unit := do
  let tracee ← (← tracee).setState state
  update fun s => { s with tracee }

/-- goes on only if the tracer may do this to the tracee -/
def permit (action : String) (allowed : List State) : Drive Unit :=
  fun s => (s.tracer.permit s.tracee action allowed, s)

/-- gives up a tracee that has ended -/
def release (state : State) : Drive Unit := do
  let pid ← pid
  Host.note (.released pid state)
  setState state
  update fun s => { s with tracer := s.tracer.release pid }

/-- sets the tracer's options on the tracee, if there are any -/
def setOptions : Drive Unit := do
  let pid ← pid
  let options := (← tracer).options
  if options.isEmpty then
    return
  else
    Host.note (.settingOptions pid options)
    match ← Host.setOptions pid options with
    | .ok _ => return
    | .error e => throw (.ofRequest pid e)

/-! ## waiting -/

def waitsLeft : Drive Nat := ask (·.host.waitsLeft)

/-- waits again as long as a signal interrupts it, `n` times at most -/
def waitpidWithin (pid : Pid) : Nat → HostM (Reply Waited)
  | 0 => Host.waitpid pid
  | n + 1 => do
    let reply ← Host.waitpid pid
    if reply = .error .eintr then
      waitpidWithin pid n
    else
      return reply

/-- waits for a process; a wait that a signal interrupts is taken up again -/
def waitpid (pid : Pid) : Drive (Reply Waited) := do
  waitpidWithin pid (← waitsLeft)

/-- The plain stop that the tracee still owes opens its tracing, and the options are set then. -/
def plainStop (signal : Signal) : Drive Stop := do
  match (← tracee).awaiting with
  | none => return .signal signal
  | some first =>
    if signal = first.signal then
      setOptions
      update fun s => { s with tracee.awaiting := none }
      return first.stop
    else
      return .signal signal

def stopOf : WaitStatus → Drive Stop
  | .exited code => return .exited code
  | .signaled signal coreDumped => return .signaled signal coreDumped
  | .stopped signal => plainStop signal
  | .event signal event => return .event signal event
  | .syscall => throw (.internal "unexpected syscall-stop")
  | .continued | .stillAlive => throw (.internal "unreachable \x60wait()\x60 status")

/-- brings the tracee to the state that a stop leaves it in -/
def settle (stop : Stop) : Drive Unit := do
  update fun s => { s with tracee.lastStop := some stop }
  if stop.isTerminal then
    release (← tracee).endState
  else
    setState .stopped

/-- The end of a wait that failed.  A tracee that is no child any more was reaped by someone else,
and is given up. -/
def lose (e : Errno) : Drive Stop := do
  let pid ← pid
  if e = .echild then
    Host.note (.vanished pid)
    release .exited
    throw (.noSuchProcess pid)
  else
    throw (.os e)

/-- the end of a wait that was answered -/
def see (waited : Waited) : Drive Stop := do
  Host.note (.statusSeen (← pid) waited)
  let stop ← stopOf waited.status
  settle stop
  return stop

def wait : Drive Stop := do
  permit "wait on" [.attached, .running]
  match ← waitpid (← pid) with
  | .error e => lose e
  | .ok waited => see waited

/-- lets a stopped tracee run on; the signal that it stopped by is not delivered -/
def resume : Drive Unit := do
  permit "resume" [.stopped]
  let pid ← pid
  match ← Host.cont pid none with
  | .error e => throw (.resume pid e)
  | .ok _ => setState .running

/-! ## loops -/

/-- waits, and as long as the stop is not `final` does `pass` and waits again -/
def waitUntilWithin (final : Stop → Bool) (pass : Stop → Drive Unit) : Nat → Drive Stop
  | 0 => wait
  | n + 1 => do
    let stop ← wait
    if final stop then
      return stop
    else
      pass stop
      waitUntilWithin final pass n

/-- the first stop that is `final`, with `pass` done for every stop before it -/
def waitUntil (final : Stop → Bool) (pass : Stop → Drive Unit) : Drive Stop := do
  waitUntilWithin final pass (← waitsLeft)

/-- resumes a stop seen before the exec -/
def skip (stop : Stop) : Drive Unit := do
  Host.note (.skipping (← pid) stop)
  resume

/-- lets go a stop of a killed tracee, which runs to its end by itself -/
def letGo (stop : Stop) : Drive Unit := do
  Host.note (.letGo (← pid) stop)
  setState .running

/-- resumes a stop seen after the exec -/
def passOn (stop : Stop) : Drive Unit := do
  Host.note (.passing (← pid) stop)
  resume

def waitForExec : Drive Unit := do
  let t ← tracee
  if t.awaiting ≠ some .exec then
    throw (.invalidState t.pid t.state "wait for exec of")
  let stop ← waitUntil (fun stop => stop == .exec || stop.isTerminal) skip
  if stop.isTerminal then
    throw (.exec t.pid stop)

/-- lets a tracee run to its end, past every stop -/
def waitForEnd : Drive Stop := waitUntil Stop.isTerminal passOn

def kill : Drive Stop := do
  permit "kill" [.attached, .stopped, .running]
  let pid ← pid
  match ← Host.kill pid .kill with
  | .error e => throw (.ofRequest pid e)
  | .ok _ =>
    if (← tracee).isStopped then
      setState .running
    let stop ← waitUntil Stop.isTerminal letGo
    Host.note (.killed pid stop)
    return stop

end Drive

end ProcTrace
