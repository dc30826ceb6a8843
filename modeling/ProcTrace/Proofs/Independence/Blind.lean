import ProcTrace.Drive.Parts
import ProcTrace.Inspect.Scans

/-!
# Blindness to the error number

What an action does with a tracee does not depend on the error number that was left before, nor on
anything that its tracer holds but the options and whether it traces that one process.

* `SetsErrno`        what the caller of a wait relies on: a wait that fails sets the error number;
* `Host.Alike`       hosts that differ in the error number alone;
* `Attempt.Blind`    attempts to which such hosts are the same, as they are to every look
                     (`Look.blind`);
* `Scene.Alike`      scenes that differ in what the tracee has no part in;
* `Drive.Blind`      actions to which such scenes are the same, as they are to every action
                     (`Blind.wait`, `Blind.waitForExec`, `Blind.resume`, `Blind.kill`).
-/

namespace ProcTrace

/-- A wait that returns `-1` has failed, and is documented to set the error number, which is a reply
`.error`.  So none of the replies to waiting for this process returns `-1` and sets none. -/
def SetsErrno (pid : Pid) (waits : List (Reply RawStatus)) : Prop :=
  ∀ raw : RawStatus, .ok raw ∈ waits → raw.returned.getD pid ≠ -1

theorem SetsErrno.tail {pid : Pid} {waits : List (Reply RawStatus)} (sets : SetsErrno pid waits) :
    SetsErrno pid waits.tail := fun raw mem => sets raw (List.mem_of_mem_tail mem)

theorem SetsErrno.head {pid : Pid} {waits : List (Reply RawStatus)} (sets : SetsErrno pid waits)
    {raw : RawStatus} (first : waits.headD (.error .echild) = .ok raw) :
    raw.returned.getD pid ≠ -1 := by
  cases waits with
  | nil => cases first
  | cons reply rest => exact sets raw (List.mem_cons.mpr (.inl first.symm))

/-! ## hosts -/

/-- The hosts differ in the error number alone, and if there are waits for this process, those that
fail set it.  Both count new processes on from `next`. -/
structure Host.Alike (waits : Bool) (pid next : Pid) (h g : Host) : Prop where
  same : g = { h with errno := g.errno }
  next : h.nextPid = next
  sets : waits = true → SetsErrno pid h.kernel.waits

/-- Hosts that are alike give the action the same result, and are alike after it. -/
def HostM.Blind (waits : Bool) (pid : Pid) (act : HostM α) : Prop :=
  ∀ ⦃next h g⦄, Host.Alike waits pid next h g →
    (act g).1 = (act h).1 ∧ Host.Alike waits pid next (act h).2 (act g).2

namespace Host

variable {w : Bool} {pid next : Pid} {h g : Host}

theorem Alike.waitsLeft (alike : Alike w pid next h g) : g.waitsLeft = h.waitsLeft := by
  rw [alike.same]
  rfl

theorem Alike.journal (alike : Alike w pid next h g) : g.journal = h.journal := by rw [alike.same]

theorem Alike.nextPid (alike : Alike w pid next h g) : g.nextPid = next := by
  rw [alike.same]
  exact alike.next

theorem note_blind (n : Note) : HostM.Blind w pid (note n) := by
  intro next h g alike
  rw [alike.same]
  exact ⟨rfl, rfl, alike.next, alike.sets⟩

theorem kill_blind (p : Pid) (signal : Signal) : HostM.Blind w pid (kill p signal) := by
  intro next h g alike
  rw [alike.same]
  exact ⟨rfl, rfl, alike.next, alike.sets⟩

theorem cont_blind (p : Pid) (signal : Option Signal) :
    HostM.Blind w pid (cont p signal) := by
  intro next h g alike
  rw [alike.same]
  exact ⟨rfl, rfl, alike.next, alike.sets⟩

theorem setOptions_blind (p : Pid) (options : Options) :
    HostM.Blind w pid (setOptions p options) := by
  intro next h g alike
  rw [alike.same]
  exact ⟨rfl, rfl, alike.next, alike.sets⟩

/-- The error number that was left before is only looked at where `-1` was returned. -/
theorem bind_ofRaw_congr {reply : Reply RawStatus}
    (sets : ∀ raw, reply = .ok raw → raw.returned.getD pid ≠ -1) (a b : Errno) :
    reply.bind (Waited.ofRaw pid (reply.errno a)) =
      reply.bind (Waited.ofRaw pid (reply.errno b)) := by
  cases reply with
  | error e => rfl
  | ok raw =>
    have other := sets raw rfl
    show Waited.ofRaw pid a raw = Waited.ofRaw pid b raw
    rw [Waited.ofRaw, Waited.ofRaw, if_neg other, if_neg other]

theorem waitpid_blind (pid : Pid) : HostM.Blind true pid (waitpid pid) := by
  intro next h g alike
  have reply (k : Host) : (waitpid pid k).1 = (k.kernel.waits.headD (.error .echild)).bind
      (Waited.ofRaw pid ((k.kernel.waits.headD (.error .echild)).errno k.errno)) := rfl
  have after (k : Host) : (waitpid pid k).2 = { k with
    kernel.waits := k.kernel.waits.tail
    errno := (k.kernel.waits.headD (.error .echild)).errno k.errno
    journal := .call (.waitpid pid (waitpid pid k).1) :: k.journal } := rfl
  have told : (waitpid pid g).1 = (waitpid pid h).1 := by
    rw [reply, reply, alike.same]
    exact bind_ofRaw_congr (fun raw => (alike.sets rfl).head) _ _
  refine ⟨told, ?_, alike.next, fun waits => (alike.sets waits).tail⟩
  rw [after g, after h, told, alike.same]

end Host

namespace HostM.Blind

variable {pid : Pid}

theorem waitpidWithin (n : Nat) : HostM.Blind true pid (Drive.waitpidWithin pid n) := by
  induction n with
  | zero => exact Host.waitpid_blind pid
  | succ n ih =>
    intro next h g alike
    obtain ⟨told, after⟩ := Host.waitpid_blind pid alike
    rw [Drive.waitpidWithin_succ, Drive.waitpidWithin_succ, told]
    split
    · exact ih after
    · exact ⟨told, after⟩

end HostM.Blind

/-! ## looks -/

/-- Hosts that are alike give the attempt the same result, and are alike after it. -/
def Attempt.Blind (waits : Bool) (pid : Pid) (act : Attempt α) : Prop :=
  ∀ ⦃next h g⦄, Host.Alike waits pid next h g →
    (act.runOn g).1 = (act.runOn h).1 ∧ Host.Alike waits pid next (act.runOn h).2 (act.runOn g).2

namespace Attempt.Blind

variable {w : Bool} {pid : Pid}

theorem bind {act : Attempt α} {f : α → Attempt β} (first : Blind w pid act)
    (rest : ∀ a, Blind w pid (f a)) : Blind w pid (act >>= f) := by
  intro next h g alike
  obtain ⟨told, after⟩ := first alike
  rw [runOn_bind, runOn_bind]
  rcases run : act.runOn h with ⟨r, h'⟩
  rcases run' : act.runOn g with ⟨r', g'⟩
  rw [run, run'] at told after
  cases told
  cases r with
  | ok a => exact rest a after
  | error e => exact ⟨rfl, after⟩

/-- A peek clears the error number before. -/
theorem memoryWord (x : Tracee) (a : Address) : Blind w pid (Inspect.memoryWord x a) := by
  intro next h g alike
  rw [Inspect.runOn_memoryWord, Inspect.runOn_memoryWord, alike.same]
  cases x.require "read memory of" [.stopped] with
  | error e => exact ⟨rfl, rfl, alike.next, alike.sets⟩
  | ok _ =>
    simp only
    cases (h.kernel.memory x.pid a).named <;> exact ⟨rfl, rfl, alike.next, alike.sets⟩

theorem register (x : Tracee) (r : Slot) : Blind w pid (Inspect.register x r) := by
  intro next h g alike
  rw [Inspect.runOn_register, Inspect.runOn_register, alike.same]
  cases x.require "read registers of" [.stopped] with
  | error e => exact ⟨rfl, rfl, alike.next, alike.sets⟩
  | ok _ =>
    simp only
    cases (h.kernel.registers x.pid r.offset).named <;> exact ⟨rfl, rfl, alike.next, alike.sets⟩

theorem closed (w : Bool) (pid : Pid) (x : Tracee) : Inspect.Closed x (Blind w pid) where
  pure _ := fun _ _ _ alike => ⟨rfl, alike⟩
  throw _ := fun _ _ _ alike => ⟨rfl, alike⟩
  bind := bind
  memoryWord := memoryWord x
  register := register x

end Attempt.Blind

theorem Look.blind (w : Bool) (pid : Pid) (x : Tracee) (look : Look) : (look.run x).Blind w pid :=
  (Attempt.Blind.closed w pid x).look look

/-! ## driving -/

/-- Scenes of the process `pid` that differ in the error number, and in what their tracers hold
beside the options and the tracing of that process. -/
structure Scene.Alike (waits : Bool) (pid next : Pid) (s u : Scene) : Prop where
  here : s.tracee.pid = pid
  tracee : u.tracee = s.tracee
  options : u.tracer.options = s.tracer.options
  tracing : u.tracer.isTracing pid = s.tracer.isTracing pid
  host : s.host.Alike waits pid next u.host

namespace Drive

/-- Scenes that are alike give the action the same result, and are alike after it. -/
def Blind (waits : Bool) (pid : Pid) (act : Drive α) : Prop :=
  ∀ ⦃next s u⦄, Scene.Alike waits pid next s u →
    (act.runOn u).1 = (act.runOn s).1 ∧ Scene.Alike waits pid next (act.runOn s).2 (act.runOn u).2

namespace Blind

variable {w : Bool} {p : Pid}

theorem pure (a : α) : Blind w p (pure a) := fun _ _ _ alike => ⟨rfl, alike⟩

theorem throw (e : Error) : Blind w p (throw e : Drive α) := fun _ _ _ alike => ⟨rfl, alike⟩

theorem bind {act : Drive α} {f : α → Drive β} (first : Blind w p act)
    (rest : ∀ a, Blind w p (f a)) : Blind w p (act >>= f) := by
  intro next s u alike
  obtain ⟨told, after⟩ := first alike
  rw [runOn_bind, runOn_bind]
  rcases run : act.runOn s with ⟨r, s'⟩
  rcases run' : act.runOn u with ⟨r', u'⟩
  rw [run, run'] at told after
  cases told
  cases r with
  | ok a => exact rest a after
  | error e => exact ⟨rfl, after⟩

/-- A question at which scenes that are alike have one answer. -/
theorem asked {g : Scene → α} {f : α → Drive β}
    (same : ∀ {next s u}, Scene.Alike w p next s u → f (g u) = f (g s))
    (rest : ∀ s, s.tracee.pid = p → Blind w p (f (g s))) : Blind w p (ask g >>= f) := by
  intro next s u alike
  rw [runOn_ask_bind, runOn_ask_bind, same alike]
  exact rest s alike.here alike

theorem pid {f : Pid → Drive β} (rest : Blind w p (f p)) : Blind w p (Drive.pid >>= f) :=
  asked (fun alike => by rw [alike.tracee]) fun _ here => by rwa [here]

theorem tracee {f : Tracee → Drive β} (rest : ∀ x, Blind w p (f x)) :
    Blind w p (Drive.tracee >>= f) :=
  asked (fun alike => by rw [alike.tracee]) fun _ _ => rest _

theorem waitsLeft {f : Nat → Drive β} (rest : ∀ n, Blind w p (f n)) :
    Blind w p (Drive.waitsLeft >>= f) :=
  asked (fun alike => by rw [alike.host.waitsLeft]) fun _ _ => rest _

theorem lift {act : HostM α} (blind : HostM.Blind w p act) : Blind w p (liftM act) := by
  intro next s u alike
  obtain ⟨told, after⟩ := blind alike.host
  rw [runOn_lift, runOn_lift, told]
  exact ⟨rfl, { alike with host := after }⟩

theorem note (n : Note) : Blind w p (liftM (Host.note n)) := lift (Host.note_blind n)

theorem permit (action : String) (allowed : List State) : Blind w p (permit action allowed) := by
  intro next s u alike
  refine ⟨?_, alike⟩
  show u.tracer.permit u.tracee action allowed = s.tracer.permit s.tracee action allowed
  rw [alike.tracee, Tracer.permit, Tracer.permit, alike.here, alike.tracing]

/-- a change of the tracee that leaves it its process id -/
theorem change (f : Tracee → Tracee) (kept : ∀ x, (f x).pid = x.pid) :
    Blind w p (update fun s => { s with tracee := f s.tracee }) :=
  fun _ _ _ alike => ⟨rfl, { alike with
    here := (kept _).trans alike.here
    tracee := congrArg f alike.tracee }⟩

theorem setState (state : State) : Blind w p (setState state) := by
  intro next s u alike
  have run (s : Scene) : (Drive.setState state).runOn s = (.ok (), { s with
    tracee := { s.tracee with state }
    host := s.host.noted (.stateSet s.tracee.pid s.tracee.state state) }) := rfl
  rw [run, run, alike.tracee]
  exact ⟨rfl, { alike with tracee := rfl, host := (Host.note_blind _ alike.host).2 }⟩

theorem giveUp : Blind w p (update fun s => { s with tracer := s.tracer.release p }) := by
  intro next s u alike
  have tracing : (u.tracer.release p).isTracing p = (s.tracer.release p).isTracing p := by
    rw [Bool.eq_iff_iff, Tracer.isTracing_release, Tracer.isTracing_release, alike.tracing]
  exact ⟨rfl, { alike with tracing }⟩

theorem release (state : State) : Blind w p (release state) :=
  pid <| bind (note _) fun _ => bind (setState state) fun _ => giveUp

theorem setOptions : Blind w p setOptions := by
  refine pid <| asked (g := Scene.tracer) (fun alike => by simp only [alike.options]) fun s _ => ?_
  by_cases empty : s.tracer.options.isEmpty = true
  · simp only [if_pos empty]
    exact pure ()
  · simp only [if_neg empty]
    refine bind (note _) fun _ => bind (lift (Host.setOptions_blind _ _)) fun reply => ?_
    cases reply with
    | ok _ => exact pure ()
    | error e => exact throw _

theorem stopOf (status : WaitStatus) : Blind w p (stopOf status) := by
  cases status with
  | stopped signal =>
    refine tracee fun x => ?_
    cases x.awaiting with
    | none => exact pure _
    | some first =>
      by_cases opens : signal = first.signal
      · simp only [opens]
        exact bind setOptions fun _ =>
          bind (change ({ · with awaiting := none }) fun _ => rfl) fun _ => pure _
      · simp only [opens]
        exact pure _
  | exited _ | signaled _ _ | event _ _ => exact pure _
  | syscall | continued | stillAlive => exact throw _

theorem settle (stop : Stop) : Blind w p (settle stop) := by
  refine bind (change ({ · with lastStop := some stop }) fun _ => rfl) fun _ => ?_
  by_cases final : stop.isTerminal = true
  · simp only [final]
    exact tracee fun x => release _
  · simp only [final]
    exact setState _

theorem see (waited : Waited) : Blind w p (see waited) :=
  pid <| bind (note _) fun _ => bind (stopOf _) fun stop => bind (settle stop) fun _ => pure stop

theorem lose (e : Errno) : Blind w p (lose e) := by
  refine pid ?_
  by_cases gone : e = .echild
  · simp only [if_pos gone]
    exact bind (note _) fun _ => bind (release _) fun _ => throw _
  · simp only [if_neg gone]
    exact throw _

theorem wait : Blind true p wait := by
  refine bind (permit _ _) fun _ => pid <| bind ?_ fun reply => ?_
  · exact waitsLeft fun n => lift (.waitpidWithin n)
  · cases reply with
    | error e => exact lose e
    | ok waited => exact see waited

theorem resume : Blind w p resume := by
  refine bind (permit _ _) fun _ => pid <| bind (lift (Host.cont_blind p none)) fun reply => ?_
  cases reply with
  | ok _ => exact setState _
  | error e => exact throw _

theorem waitUntil {final : Stop → Bool} {pass : Stop → Drive Unit}
    (passes : ∀ stop, Blind true p (pass stop)) : Blind true p (waitUntil final pass) := by
  refine waitsLeft fun n => ?_
  induction n with
  | zero => exact wait
  | succ n ih =>
    refine bind wait fun stop => ?_
    by_cases done : final stop = true
    · simp only [if_pos done]
      exact pure stop
    · simp only [if_neg done]
      exact bind (passes stop) fun _ => ih

theorem skip (stop : Stop) : Blind w p (skip stop) := pid <| bind (note _) fun _ => resume

theorem letGo (stop : Stop) : Blind w p (letGo stop) := pid <| bind (note _) fun _ => setState _

theorem waitForExec : Blind true p waitForExec := by
  refine tracee fun x => ?_
  by_cases owed : x.awaiting = some .exec
  · simp only [owed, ne_eq, not_true_eq_false, if_false]
    refine bind (waitUntil skip) fun stop => ?_
    by_cases final : stop.isTerminal = true
    · simp only [if_pos final]
      exact throw _
    · simp only [if_neg final]
      exact pure _
  · simp only [ne_eq, owed, not_false_eq_true, if_true]
    exact throw _

theorem kill : Blind true p kill := by
  refine bind (permit _ _) fun _ => pid <| bind (lift (Host.kill_blind p _)) fun reply => ?_
  cases reply with
  | error e => exact throw _
  | ok _ =>
    refine tracee fun x => ?_
    have reaped : Blind true p (reap p) :=
      bind (waitUntil letGo) fun stop => bind (note _) fun _ => pure stop
    by_cases still : x.isStopped = true
    · simp only [if_pos still]
      exact bind (setState _) fun _ => reaped
    · simp only [if_neg still]
      exact reaped

end Blind

end Drive

end ProcTrace
