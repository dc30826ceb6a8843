import ProcTrace.Drive.Loops

/-!
# Running the parts of driving

Each part of `Drive`, run on a scene, gives its result and the scene afterwards in closed form.

* `Drive.runOn_setOptions`   nothing is asked for where there are no options to set;
* `Drive.runOn_plainStop`    the stop that is owed sets the options, any other is told as it is;
* `Drive.runOn_see`, `Drive.runOn_lose`   the two ends of a wait;
* `Drive.runOn_wait`          a wait: the last of its calls that was not interrupted tells its end;
* `Drive.runOn_resume`, `Drive.runOn_waitForExec`, `Drive.runOn_kill`   the other actions.
-/

namespace ProcTrace

namespace Drive

/-! ## first actions -/

theorem runOn_ask_bind (g : Scene → α) (f : α → Drive β) (s : Scene) :
    (ask g >>= f).runOn s = (f (g s)).runOn s := rfl

theorem runOn_lift_bind (act : HostM α) (f : α → Drive β) (s : Scene) :
    (liftM act >>= f).runOn s = (f (act s.host).1).runOn { s with host := (act s.host).2 } := rfl

theorem runOn_note_bind (n : Note) (f : Unit → Drive β) (s : Scene) :
    (liftM (Host.note n) >>= f).runOn s = (f ()).runOn { s with host := s.host.noted n } := rfl

theorem runOn_permit_bind (action : String) (allowed : List State) (f : Unit → Drive β)
    (s : Scene) : (permit action allowed >>= f).runOn s =
      match s.tracer.permit s.tracee action allowed with
      | .ok _ => (f ()).runOn s
      | .error e => (.error e, s) := by
  have asked : (permit action allowed).runOn s = (s.tracer.permit s.tracee action allowed, s) := rfl
  rw [runOn_bind, asked]
  cases s.tracer.permit s.tracee action allowed <;> rfl

/-! ## changes of state -/

theorem runOn_settle (stop : Stop) (s : Scene) :
    (settle stop).runOn s =
      if stop.isTerminal then
        (release s.tracee.endState).runOn { s with tracee.lastStop := some stop }
      else (setState .stopped).runOn { s with tracee.lastStop := some stop } := by
  cases stop <;> rfl

/-! ## the end of a wait -/

theorem runOn_setOptions (s : Scene) :
    setOptions.runOn s =
      if s.tracer.options.isEmpty then (.ok (), s)
      else
        let set := Host.setOptions s.tracee.pid s.tracer.options
          (s.host.noted (.settingOptions s.tracee.pid s.tracer.options))
        match set.1 with
        | .ok _ => (.ok (), { s with host := set.2 })
        | .error e => (.error (.ofRequest s.tracee.pid e), { s with host := set.2 }) := by
  rw [setOptions, pid, runOn_ask_bind, tracer, runOn_ask_bind]
  by_cases none : s.tracer.options.isEmpty = true
  · simp only [if_pos none]
    rfl
  · simp only [if_neg none]
    rw [runOn_note_bind, runOn_lift_bind]
    cases (Host.setOptions s.tracee.pid s.tracer.options
      (s.host.noted (.settingOptions s.tracee.pid s.tracer.options))).1 <;> rfl

theorem runOn_plainStop (signal : Signal) (s : Scene) :
    (plainStop signal).runOn s = match s.tracee.awaiting with
      | none => (.ok (.signal signal), s)
      | some first =>
        if signal = first.signal then match setOptions.runOn s with
          | (.ok _, u) => (.ok first.stop, { u with tracee.awaiting := none })
          | (.error e, u) => (.error e, u)
        else (.ok (.signal signal), s) := by
  rw [plainStop, tracee, runOn_ask_bind]
  cases s.tracee.awaiting with
  | none => rfl
  | some first =>
    show (if signal = first.signal then _ else _ : Drive Stop).runOn s = if _ then _ else _
    split
    · rw [runOn_bind]
      rcases setOptions.runOn s with ⟨r, u⟩
      cases r <;> rfl
    · rfl

theorem runOn_stopOf_first {x : Tracee} {first : FirstStop} (owed : x.awaiting = some first)
    (t : Tracer) (h : Host) :
    (stopOf (.stopped first.signal)).runOn ⟨t, x, h⟩ = match setOptions.runOn ⟨t, x, h⟩ with
      | (.ok _, u) => (.ok first.stop, { u with tracee.awaiting := none })
      | (.error e, u) => (.error e, u) := by
  rw [stopOf, runOn_plainStop, owed]
  exact if_pos rfl

theorem runOn_see (w : Waited) (s : Scene) :
    (see w).runOn s =
      match (stopOf w.status).runOn { s with host := s.host.noted (.statusSeen s.tracee.pid w) } with
      | (.ok stop, u) => (.ok stop, ((settle stop).runOn u).2)
      | (.error e, u) => (.error e, u) := by
  rw [see, pid, runOn_ask_bind, runOn_note_bind, runOn_bind]
  rcases (stopOf w.status).runOn { s with host := s.host.noted (.statusSeen s.tracee.pid w) }
    with ⟨r, u⟩
  cases r with
  | error e => rfl
  | ok stop => cases stop <;> rfl

theorem runOn_lose (e : Errno) (s : Scene) :
    (lose e).runOn s =
      if e = .echild then
        (.error (.noSuchProcess s.tracee.pid),
          ((release .exited).runOn { s with host := s.host.noted (.vanished s.tracee.pid) }).2)
      else (.error (.os e), s) := by
  rw [lose, pid, runOn_ask_bind]
  split <;> rfl

/-- The replies of the interrupted waits are in the journal below that of the last. -/
theorem journal_waitpidWithin (pid : Pid) (n : Nat) (h : Host) :
    ∃ m, (waitpidWithin pid n h).2.journal = .call (.waitpid pid (waitpidWithin pid n h).1) ::
      (List.replicate m (.call (.waitpid pid (.error .eintr))) ++ h.journal) := by
  induction n generalizing h with
  | zero => exact ⟨0, rfl⟩
  | succ n ih =>
    rw [waitpidWithin_succ]
    by_cases interrupted : (Host.waitpid pid h).1 = .error .eintr
    · obtain ⟨m, rest⟩ := ih (Host.waitpid pid h).2
      refine ⟨m + 1, ?_⟩
      rw [if_pos interrupted, rest, List.replicate_succ', List.append_assoc]
      rw [show (Host.waitpid pid h).2.journal =
        .call (.waitpid pid (Host.waitpid pid h).1) :: h.journal from rfl, interrupted]
      rfl
    · rw [if_neg interrupted]
      exact ⟨0, rfl⟩

theorem runOn_wait (s : Scene) :
    wait.runOn s = match s.tracer.permit s.tracee "wait on" [.attached, .running] with
      | .error e => (.error e, s)
      | .ok _ =>
        let told := waitpidWithin s.tracee.pid s.host.waitsLeft s.host
        match told.1 with
        | .error e => (lose e).runOn { s with host := told.2 }
        | .ok w => (see w).runOn { s with host := told.2 } := by
  rw [wait, runOn_permit_bind]
  cases s.tracer.permit s.tracee "wait on" [.attached, .running] with
  | error e => rfl
  | ok _ =>
    show (Drive.pid >>= _ : Drive Stop).runOn s = _
    rw [pid, runOn_ask_bind, runOn_bind, runOn_waitpid]
    simp only
    cases (waitpidWithin s.tracee.pid s.host.waitsLeft s.host).1 <;> rfl

/-! ## the actions -/

theorem runOn_resume (s : Scene) :
    resume.runOn s = match s.tracer.permit s.tracee "resume" [.stopped] with
      | .error e => (.error e, s)
      | .ok _ =>
        let told := Host.cont s.tracee.pid none s.host
        match told.1 with
        | .error e => (.error (.resume s.tracee.pid e), { s with host := told.2 })
        | .ok _ => (setState .running).runOn { s with host := told.2 } := by
  rw [resume, runOn_permit_bind]
  cases s.tracer.permit s.tracee "resume" [.stopped] with
  | error e => rfl
  | ok _ =>
    show (Drive.pid >>= _ : Drive Unit).runOn s = _
    rw [pid, runOn_ask_bind, runOn_lift_bind]
    simp only
    cases (Host.cont s.tracee.pid none s.host).1 <;> rfl

/-- the stops at which waiting for the exec ends -/
def execOver (stop : Stop) : Bool := stop == .exec || stop.isTerminal

theorem runOn_waitForExec (s : Scene) :
    waitForExec.runOn s =
      if s.tracee.awaiting = some .exec then match (waitUntil execOver skip).runOn s with
        | (.ok stop, u) =>
          if stop.isTerminal then (.error (.exec s.tracee.pid stop), u) else (.ok (), u)
        | (.error e, u) => (.error e, u)
      else (.error (.invalidState s.tracee.pid s.tracee.state "wait for exec of"), s) := by
  rw [waitForExec, tracee, runOn_ask_bind]
  by_cases owed : s.tracee.awaiting = some .exec
  · rw [if_neg (fun ne => ne owed), if_pos owed]
    show (waitUntil execOver skip >>= _ : Drive Unit).runOn s = _
    rw [runOn_bind]
    rcases (waitUntil execOver skip).runOn s with ⟨r, u⟩
    cases r with
    | error e => rfl
    | ok stop => cases stop <;> rfl
  · rw [if_pos owed, if_neg owed]
    rfl

/-- from the `SIGKILL` to the end that it brings -/
def reap (pid : Pid) : Drive Stop := do
  let stop ← waitUntil Stop.isTerminal letGo
  Host.note (.killed pid stop)
  return stop

/-- A tracee that stands still is taken to run as soon as it is killed. -/
theorem runOn_kill (s : Scene) :
    kill.runOn s = match s.tracer.permit s.tracee "kill" [.attached, .stopped, .running] with
      | .error e => (.error e, s)
      | .ok _ =>
        let told := Host.kill s.tracee.pid .kill s.host
        match told.1 with
        | .error e => (.error (.ofRequest s.tracee.pid e), { s with host := told.2 })
        | .ok _ =>
          let sent : Scene := { s with host := told.2 }
          (reap s.tracee.pid).runOn
            (if s.tracee.isStopped then ((setState .running).runOn sent).2 else sent) := by
  rw [kill, runOn_permit_bind]
  cases s.tracer.permit s.tracee "kill" [.attached, .stopped, .running] with
  | error e => rfl
  | ok _ =>
    show (Drive.pid >>= _ : Drive Stop).runOn s = _
    rw [pid, runOn_ask_bind, runOn_lift_bind]
    simp only
    cases (Host.kill s.tracee.pid .kill s.host).1 with
    | error e => rfl
    | ok _ =>
      simp only
      rw [tracee, runOn_ask_bind]
      cases s.tracee.isStopped <;> rfl

end Drive

end ProcTrace
