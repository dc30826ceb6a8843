import ProcTrace.Fork
import ProcTrace.Tracer

/-!
# Getting tracees

A tracer gets a tracee by starting a command or by taking a process that runs already.  `Recruit`
is an action of one tracer that has no tracee yet; what it did before it failed stays done.

* `Tracer.spawn`    starts a command as a new tracee;
* `Tracer.attach`   makes a running process a new tracee.
-/

namespace ProcTrace

/-- one tracer and the host it is on -/
structure Stage where
  tracer : Tracer
  host : Host

abbrev Recruit := ExceptT Error (StateM Stage)

instance : MonadLift Attempt Recruit where
  monadLift act := fun stage =>
    let (result, host) := act.runOn stage.host
    (result, { stage with host })

namespace Recruit

/-- what an action comes to on a stage, and the stage afterwards -/
def runOn (act : Recruit α) (s : Stage) : Except Error α × Stage := act s

theorem runOn_lift (act : Attempt α) (s : Stage) :
    runOn (liftM act) s = ((act.runOn s.host).1, { s with host := (act.runOn s.host).2 }) := rfl

theorem runOn_bind (x : Recruit α) (f : α → Recruit β) (s : Stage) :
    runOn (x >>= f) s = match x.runOn s with
      | (.ok a, t) => (f a).runOn t
      | (.error e, t) => (.error e, t) := by
  show ExceptT.bind x f s = _
  simp only [runOn, ExceptT.bind, ExceptT.mk, bind, StateT.bind]
  rcases x s with ⟨r, t⟩
  cases r <;> rfl

theorem runOn_map (f : α → β) (x : Recruit α) (s : Stage) :
    runOn (f <$> x) s = ((x.runOn s).1.map f, (x.runOn s).2) := by
  show ExceptT.map f x s = _
  simp only [runOn, ExceptT.map, ExceptT.mk, bind, StateT.bind]
  rcases x s with ⟨r, t⟩
  cases r <;> rfl

def tracer : Recruit Tracer := fun s => (.ok s.tracer, s)

/-- The process counts as traced from now on. -/
def adopt (pid : Pid) : Recruit Unit := fun s => (.ok (), { s with tracer := s.tracer.adopt pid })

end Recruit

namespace Tracer

/-- Starts a command as a new tracee.  Its child side asks to be traced before the exec, so the
process counts as traced from the start. -/
def spawn (command : Command) : Recruit (Forked Tracee) := do
  match ← command.forkExec with
  | .child exit => return .child exit
  | .parent pid =>
    Host.note (.spawned pid command.program)
    let tracee ← (Tracee.new pid .exec).setState .attached
    Recruit.adopt pid
    return .parent tracee

/-- Attaches to a running process, which sends it a stop. -/
def attach (pid : Pid) : Recruit Tracee := do
  if (← Recruit.tracer).isTracing pid then
    throw (.alreadyTraced pid)
  match ← Host.attach pid with
  | .error e => throw (.attach pid e)
  | .ok _ =>
    Host.note (.attached pid)
    let tracee ← (Tracee.new pid .attach).setState .attached
    Recruit.adopt pid
    return tracee

end Tracer

end ProcTrace
