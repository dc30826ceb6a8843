import ProcTrace.Proofs.Doings
import ProcTrace.Proofs.Failures
import ProcTrace.Proofs.Ownership
import ProcTrace.Proofs.Reaping

/-!
# Live tracees can be killed

Nothing that goes wrong takes a live tracee out of the hands of its tracer.

* `Session.owner_may`         a live tracee is its tracer's, in a state in which it may be killed;
* `Drive.kill_asks`, `Drive.kill_ends`   a kill that is permitted asks the kernel for it, and comes to
                              the end that is told next;
* `Session.Attachable`        a process that anyone may attach to;
* `Session.attachable_of_ended`   as is that of a tracee that has ended;
* `Session.killable_of_run`   whole runs.
-/

namespace ProcTrace

open Course

/-! ## one kill -/

namespace Drive

variable {t : Tracer} {x : Tracee} {h : Host}

/-- The first thing that is done is to ask the kernel. -/
theorem kill_asks (may : t.May x [.attached, .stopped, .running]) (new : h.journal = []) :
    (kill.runOn ⟨t, x, h⟩).2.host.journal.calls.head? =
      some (.kill x.pid .kill (h.kernel.kills.headD (.ok ()))) := by
  obtain ⟨calls, r, d, g, kills, answered, run, came⟩ := (kill_holds (c := ⟨t, x⟩) may).run h
  have run : kill.runOn ⟨t, x, h⟩ = (r, d.on g) := run
  have written : (d.on g).host.journal.calls = calls := came.calls_of_new new
  rw [run, written]
  have reply : (Host.kill x.pid .kill h).1 = h.kernel.kills.headD (.ok ()) := rfl
  cases kills with
  | refused e =>
    have told : Syscall.kill x.pid .kill (Host.kill x.pid .kill h).1 = .kill x.pid .kill (.error e) :=
      answered.1
    rw [List.head?_cons, ← told, reply]
  | sent rounds =>
    have told : Syscall.kill x.pid .kill (Host.kill x.pid .kill h).1 = .kill x.pid .kill (.ok ()) :=
      answered.1
    rw [List.head?_cons, ← told, reply]

theorem kill_ends (may : t.May x [.attached, .stopped, .running]) {last : Told} {exit : Stop}
    (ended : last.status.stop? = some exit) (final : exit.isTerminal = true)
    (answered : h.Answers (.kill x.pid .kill (.ok ()) :: last.calls x.pid)) :
    ∃ (d : Cast) (g : Host), kill.runOn ⟨t, x, h⟩ = (.ok exit, d.on g) ∧
      Cast.Ended ⟨t, x⟩ exit d := by
  obtain ⟨d, rounds, ends⟩ := Rounds.end_of_told (t := t) (x := x.struck)
    (LetsGo.by_nothing x.struck.pid) (List.forall_mem_nil _) ended final
  rw [x.pid_struck] at rounds
  obtain ⟨g, run⟩ := kill_does may rounds answered
  exact ⟨d, g, run, ends.of_keeps (x.struck_keeps t)⟩

end Drive

namespace Session

variable {s u : Session} {i j n : Nat} {h : Held} {pid : Pid}

/-! ## who may kill -/

/-- Whatever was done and whatever failed, a live tracee is traced by the tracer that made it, and is
attached, stopped or running. -/
theorem owner_may {ops : List (Kernel × Op)} (fresh : Fresh ops (new n)) {p : Place}
    (at_ : (run ops (new n)).2.at? p = some h) (live : h.isLive = true) :
    ∃ t, (run ops (new n)).2.tracers[h.owner]? = some t ∧
      t.May h.tracee [.attached, .stopped, .running] := by
  have own := run_ownership fresh
  have sound : h.tracee.Sound h.origin := sound_at ops at_
  have mem : h ∈ (run ops (new n)).2.tracees ++ (run ops (new n)).2.abandoned := by
    rw [List.mem_append]
    cases p with
    | held j => exact .inl (List.mem_of_getElem? at_)
    | abandoned m => exact .inr (List.mem_of_getElem? at_)
  obtain ⟨t, found⟩ : ∃ t, (run ops (new n)).2.tracers[h.owner]? = some t :=
    ⟨_, List.getElem?_eq_getElem (own.owner h mem)⟩
  have state : h.tracee.state ∈ [.attached, .stopped, .running] := by
    have made := sound.made
    have lives := Held.isLive_iff.mp live
    cases state : h.tracee.state with
    | created => exact absurd state made
    | exited | failed =>
      rw [state] at lives
      cases lives
    | attached | stopped | running => simp
  exact ⟨t, found, (own.traced _ t found _).mpr ⟨h, mem, rfl, live, rfl⟩, state⟩

/-! ## after the end -/

/-- No tracer traces the process and no live tracee has its id, so that whoever attaches to it is
answered by the kernel alone. -/
structure Attachable (s : Session) (pid : Pid) : Prop where
  untraced {i : Nat} {t : Tracer} (found : s.tracers[i]? = some t) : t.isTracing pid = false
  unused : pid ∉ s.livePids
  asks {i : Nat} {t : Tracer} (found : s.tracers[i]? = some t) (k : Kernel) :
    (s.step k (.attach i pid)).1.journal.calls = [.attach pid (k.attaches.headD (.ok ()))]
  attaches {i : Nat} {t : Tracer} (found : s.tracers[i]? = some t) {k : Kernel}
    (granted : k.attaches.headD (.ok ()) = .ok ()) :
    (s.step k (.attach i pid)).1.outcome = .ok (.tracee s.tracees.length)

theorem attach_eq {t : Tracer} (found : s.tracers[i]? = some t) (untraced : t.isTracing pid = false)
    (k : Kernel) : (s.step k (.attach i pid)).1 = match (Host.attach pid (s.host k)).1 with
      | .error e => ⟨.error (.attach pid e), (Host.attach pid (s.host k)).2.journal⟩
      | .ok _ => ⟨.ok (.tracee s.tracees.length), .note (.stateSet pid .created .attached) ::
          .note (.attached pid) :: (Host.attach pid (s.host k)).2.journal⟩ := by
  rw [step, withTracer, found]
  simp only
  rw [recruit, Recruit.runOn_map, Tracer.runOn_attach, untraced]
  cases (Host.attach pid (s.host k)).1 <;> rfl

theorem attachable_of_untraced (unused : pid ∉ s.livePids)
    (untraced : ∀ (i : Nat) (t : Tracer), s.tracers[i]? = some t → t.isTracing pid = false) :
    s.Attachable pid where
  untraced := untraced _ _
  unused := unused
  asks := by
    intro i t found k
    have reply : (Host.attach pid (s.host k)).1 = k.attaches.headD (.ok ()) := rfl
    have written : (Host.attach pid (s.host k)).2.journal =
        [.call (.attach pid (k.attaches.headD (.ok ())))] := rfl
    rw [attach_eq found (untraced i t found), reply, written]
    cases k.attaches.headD (.ok ()) <;> rfl
  attaches := by
    intro i t found k granted
    have reply : (Host.attach pid (s.host k)).1 = .ok () := granted
    rw [attach_eq found (untraced i t found), reply]

/-- The process of a tracee that has just ended, and was given up by its tracer. -/
theorem attachable_of_ended {past : Journal} (own : (s.ledger past).Ownership)
    {t : Tracer} (found : s.tracers[i]? = some t) (at_ : s.tracees[j]? = some h)
    (live : h.isLive = true) (tracing : t.isTracing h.tracee.pid = true) {x : Tracee}
    (gone : x.state.isTerminal = true)
    (becomes : s.Becomes i j (t.release h.tracee.pid) x u) : u.Attachable h.tracee.pid := by
  obtain ⟨a, b, whole, changed⟩ := Held.split at_
  have ended : Held.isLive { h with tracee := x } = false := congrArg (!·) gone
  have mem : h ∈ s.tracees ++ s.abandoned := List.mem_append_left _ (List.mem_of_getElem? at_)
  have mine : h.owner = i := own.owner_of_isTracing found mem live tracing
  refine attachable_of_untraced ?_ fun k v now => ?_
  · have distinct : (Held.livePids (s.tracees ++ s.abandoned)).Nodup := own.distinct
    rw [whole, List.append_assoc, List.cons_append] at distinct
    rw [livePids, becomes.tracees, changed, becomes.abandoned, List.append_assoc,
      List.cons_append, Held.livePids_append, Held.livePids_cons, ended,
      if_neg Bool.false_ne_true, ← Held.livePids_append]
    exact Held.pid_alone distinct live
  · rw [becomes.tracers] at now
    rw [Bool.eq_false_iff]
    intro traced
    obtain ⟨rfl, rfl⟩ | ⟨other, now⟩ := getElem?_set_some found now
    · exact ((t.isTracing_release _ _).mp traced).1 rfl
    · have owner : h.owner = k := own.owner_of_isTracing now mem live traced
      exact other (owner.symm.trans mine)

/-! ## every live tracee -/

/-- What comes of killing the tracee at this position, by the tracer that made it. -/
structure Killable (s : Session) (j : Nat) (h : Held) : Prop where
  asks (k : Kernel) : (s.step k (.kill h.owner j)).1.journal.calls.head? =
    some (.kill h.tracee.pid .kill (k.kills.headD (.ok ())))
  /-- The kill was sent, and the next that is told, after any number of interruptions, is an end. -/
  reaps {k : Kernel} {last : Told} {exit : Stop} (ended : last.status.stop? = some exit)
    (final : exit.isTerminal = true)
    (answered : (s.host k).Answers
      (.kill h.tracee.pid .kill (.ok ()) :: last.calls h.tracee.pid)) :
    (s.step k (.kill h.owner j)).1.outcome = .ok (.stop exit) ∧
      (∃ t x, s.tracers[h.owner]? = some t ∧ x.pid = h.tracee.pid ∧ x.state.isTerminal = true ∧
        x.lastStop = some exit ∧
        s.Becomes h.owner j (t.release h.tracee.pid) x (s.step k (.kill h.owner j)).2) ∧
      (s.step k (.kill h.owner j)).2.Attachable h.tracee.pid

/-- Whatever was done and whatever has failed, each live tracee, held or abandoned, may be killed by
the tracer that made it; and one that is held comes to its end so, if the kernel kills it. -/
theorem killable_of_run {ops : List (Kernel × Op)} (fresh : Fresh ops (new n)) :
    let s := (run ops (new n)).2
    (∀ p h, s.at? p = some h → h.isLive = true → ∃ t, s.tracers[h.owner]? = some t ∧
      t.permit h.tracee "kill" [.attached, .stopped, .running] = .ok ()) ∧
    ∀ j h, s.tracees[j]? = some h → h.isLive = true → s.Killable j h := by
  intro s
  refine ⟨fun p h at_ live => ?_, fun j h at_ live => ?_⟩
  · obtain ⟨t, found, may⟩ := owner_may fresh at_ live
    exact ⟨t, found, Tracer.permit_ok.mpr ⟨Held.isLive_iff.mp live, may.owned, may.state⟩⟩
  obtain ⟨t, found, may⟩ := owner_may (p := .held j) fresh at_ live
  constructor
  · intro k
    show (s.drive k h.owner j Drive.kill .stop).1.journal.calls.head? = _
    rw [drive_eq found at_]
    exact Drive.kill_asks may rfl
  · intro k last exit ended final answered
    obtain ⟨d, g, run, ends⟩ := Drive.kill_ends may ended final answered
    have becomes : s.Becomes h.owner j (t.release h.tracee.pid) d.tracee
        (s.step k (.kill h.owner j)).2 := by
      show s.Becomes _ _ _ _ (s.drive k h.owner j Drive.kill .stop).2
      rw [drive_eq found at_, run, ← ends.tracer]
      exact ⟨rfl, rfl, rfl⟩
    have outcome : (s.step k (.kill h.owner j)).1.outcome = .ok (.stop exit) := by
      show (s.drive k h.owner j Drive.kill .stop).1.outcome = _
      rw [drive_eq found at_, run]
      rfl
    have free : (s.step k (.kill h.owner j)).2.Attachable h.tracee.pid :=
      attachable_of_ended (run_ownership fresh) found at_ live may.owned ends.terminal becomes
    exact ⟨outcome, ⟨t, d.tracee, found, ends.pid, ends.terminal, ends.lastStop, becomes⟩, free⟩

/-- A program to which much happens: its tracer is told of a system call, the options are refused at
its exec, it cannot be resumed from a signal, a kill of it is refused, and the wait after another
fails. -/
def hardships : List (Kernel × Op) :=
  [({}, .spawn 0 ls), ({ waits := [.ok ⟨none, 0x857f⟩] }, .wait 0 0),
    ({ waits := [.ok ⟨none, 0x57f⟩], setOptions := [.error .eperm] }, .wait 0 0),
    ({ waits := [.ok ⟨none, 0xa7f⟩] }, .wait 0 0), ({ conts := [.error .eperm] }, .resume 0 0),
    ({ kills := [.error .eperm] }, .kill 0 0), ({ waits := [.error .eperm] }, .kill 0 0)]

theorem killable_of_hardships : Fresh hardships (new 1) ∧
    let s := (run hardships (new 1)).2
    let done := s.step { waits := [.error .eintr, .ok ⟨none, 9⟩] } (.kill 0 0)
    s.tracees[0]? = some ⟨0, .exec, ⟨1000, .running, some .exec, some (.signal .usr1)⟩⟩ ∧
      done.1.outcome = .ok (.stop (.signaled .kill false)) ∧ done.2.Attachable 1000 := by
  have fresh : Fresh hardships (new 1) := by decide +kernel
  have at_ : (run hardships (new 1)).2.tracees[0]? =
      some ⟨0, .exec, ⟨1000, .running, some .exec, some (.signal .usr1)⟩⟩ := by
    decide +kernel
  let last : Told := ⟨1, ⟨1000, .signaled .kill false⟩⟩
  have answered : ((run hardships (new 1)).2.host
      { waits := [.error .eintr, .ok ⟨none, 9⟩] }).Answers
        (.kill 1000 .kill (.ok ()) :: last.calls 1000) := by
    decide +kernel
  have ended : last.status.stop? = some (.signaled .kill false) := rfl
  obtain ⟨_, killable⟩ := killable_of_run fresh
  obtain ⟨outcome, _, free⟩ := (killable 0 _ at_ rfl).reaps ended rfl answered
  -- the same position and id, spelt out, as unifying them would run the whole session
  dsimp only at outcome free
  exact ⟨fresh, at_, outcome, free⟩

end Session

end ProcTrace
