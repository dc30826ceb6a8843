import ProcTrace.Proofs.Dialogue.Turns
import ProcTrace.Proofs.Doings

/-!
# Sightings

What the waits for a tracee report, as long as it is driven by waits and resumptions alone.

* `WaitStatus.reported?`      the stop as which a status is reported, which depends on whether there
                              was a first stop before;
* `Session.Sighting`          a wait that gave a stop;
* `Session.Sighted`           the sightings of a tracee tell what was delivered, in order;
* `Session.sighted_of_wait`   a wait goes on with that, whatever the kernel replies;
* `Session.sighted_of_run`    whole runs.
-/

namespace ProcTrace

open Course

/-! ## statuses -/

/-- the stop opens the tracing of a process -/
def Stop.isFirst : Stop → Bool
  | exec | attach => true
  | _ => false

theorem FirstStop.isFirst_stop (f : FirstStop) : f.stop.isFirst = true := by cases f <;> rfl

/-- The stop as which a status is reported, where the tracing was to open with `origin` and `opened`
says whether it has: the plain stop by which `origin` arrives is that once, and later a signal. -/
def WaitStatus.reported? (origin : FirstStop) (opened : Bool) (s : WaitStatus) : Option Stop :=
  if opened = false ∧ s = .stopped origin.signal then some origin.stop else s.stop?

namespace WaitStatus

variable {origin : FirstStop} {opened : Bool} {s : WaitStatus} {stop : Stop}

theorem isFirst_of_stop? (told : s.stop? = some stop) : stop.isFirst = false := by
  cases s <;> cases told <;> rfl

/-- A stop has the status that told it. -/
theorem status_of_reported? (told : s.reported? origin opened = some stop) : stop.status = s := by
  unfold reported? at told
  split at told
  · rename_i opens
    rw [← Option.some.inj told, FirstStop.status_stop, opens.2]
  · exact status_stop? told

/-- Only the first stop that was promised is reported as such, and only once. -/
theorem first_of_reported? (told : s.reported? origin opened = some stop)
    (first : stop.isFirst = true) : opened = false ∧ stop = origin.stop := by
  unfold reported? at told
  split at told
  · rename_i opens
    exact ⟨opens.1, (Option.some.inj told).symm⟩
  · rw [isFirst_of_stop? told] at first
    cases first

theorem reported?_of_later (later : opened = false → s ≠ .stopped origin.signal) :
    s.reported? origin opened = s.stop? := if_neg fun opens => later opens.1 opens.2

end WaitStatus

/-- the status that a call told -/
def Syscall.told? : Syscall → Option WaitStatus
  | waitpid _ (.ok w) => some w.status
  | _ => none

/-- The calls of a wait tell one status. -/
theorem Told.told?_calls (pid : Pid) (told : Told) {rest : List Syscall}
    (silent : ∀ c ∈ rest, c.isWait = false) :
    (told.calls pid ++ rest).filterMap Syscall.told? = [told.status] := by
  have none : rest.filterMap Syscall.told? = [] := by
    rw [List.filterMap_eq_nil_iff]
    intro c mem
    have silent := silent c mem
    cases c <;> first | rfl | cases silent
  have interrupted : (List.replicate told.interrupted
      (Syscall.waitpid pid (.error .eintr))).filterMap Syscall.told? = [] := by
    rw [List.filterMap_eq_nil_iff]
    intro c mem
    rw [List.eq_of_mem_replicate mem]
    rfl
  rw [List.filterMap_append, none, Told.calls, heard, List.filterMap_append, interrupted]
  rfl

def Op.waits : Op → Bool
  | wait _ _ => true
  | _ => false

/-- Some stops that the operation waits for are not told to its caller. -/
def Op.swallows : Op → Bool
  | waitForExec _ _ | kill _ _ => true
  | _ => false

namespace Session

/-! ## sightings -/

/-- a wait that gave a stop, with the calls that it made -/
structure Sighting where
  calls : List Syscall
  stop : Stop
deriving DecidableEq

def Deed.sighting? (d : Deed) : Option Sighting :=
  match d.op, d.answer.outcome with
  | .wait _ _, .ok (.stop stop) => some ⟨d.answer.journal.calls, stop⟩
  | _, _ => none

/-- the waits that gave a stop, earliest first -/
def sightings (ds : List Deed) : List Sighting := ds.filterMap Deed.sighting?

theorem sightings_concat (ds : List Deed) (d : Deed) :
    sightings (ds ++ [d]) = sightings ds ++ d.sighting?.toList := by
  rw [sightings, List.filterMap_append]
  cases seen : d.sighting? <;> simp [sightings, seen]

/-- One of these sightings is of a first stop. -/
def opened (seen : List Sighting) : Bool := seen.any (·.stop.isFirst)

theorem opened_concat (seen : List Sighting) (s : Sighting) :
    opened (seen ++ [s]) = (opened seen || s.stop.isFirst) := by simp [opened]

/-- Each status that was told in this deed is no stop; or the options were to be set at it, and that
failed. -/
def Deed.LosesNoStop (pid : Pid) (d : Deed) : Prop :=
  ∀ w, .waitpid pid (.ok w) ∈ d.answer.journal.calls → w.status.stop? = none ∨
    ∃ options e, .setOptions pid options (.error e) ∈ d.answer.journal.calls

/-- what the waits for a tracee have reported, in these deeds -/
structure Sighted (ds : List Deed) (h : Held) : Prop where
  /-- Each sighting takes any number of interruptions and then one status, and reports that; what it
  reports depends on the sightings before it alone. -/
  told {earlier : List Sighting} {s : Sighting} {later : List Sighting}
    (split : sightings ds = earlier ++ s :: later) : ∃ (told : Told) (rest : List Syscall),
      s.calls = told.calls h.tracee.pid ++ rest ∧ (∀ c ∈ rest, c.isWait = false) ∧
      told.status.reported? h.origin (opened earlier) = some s.stop
  /-- The stops follow the statuses. -/
  order : (sightings ds).flatMap (·.calls.filterMap Syscall.told?) =
    (sightings ds).map (·.stop.status)
  /-- There is one first stop at most, -/
  once : ((sightings ds).filter (·.stop.isFirst)).length ≤ 1
  /-- and it is the one that was promised. -/
  own : ∀ s ∈ sightings ds, s.stop.isFirst = true → s.stop = h.origin.stop
  owed : h.tracee.awaiting = if opened (sightings ds) then none else some h.origin
  last : h.tracee.lastStop = (sightings ds).getLast?.map (·.stop)
  /-- Where a wait has given no stop, there was none to report. -/
  complete : ∀ d ∈ ds, d.op.waits = true → d.sighting? = none → d.LosesNoStop h.tracee.pid

namespace Sighted

variable {ds : List Deed} {d : Deed} {h : Held} {x : Tracee}

/-- Nothing was seen. -/
theorem silent (sighted : Sighted ds h) (unseen : d.sighting? = none) (pid : x.pid = h.tracee.pid)
    (awaiting : x.awaiting = h.tracee.awaiting) (last : x.lastStop = h.tracee.lastStop)
    (complete : d.op.waits = true → d.LosesNoStop h.tracee.pid) :
    Sighted (ds ++ [d]) { h with tracee := x } := by
  have same : sightings (ds ++ [d]) = sightings ds := by
    rw [sightings_concat, unseen]
    exact List.append_nil _
  refine ⟨?_, ?_, ?_, ?_, ?_, ?_, ?_⟩
  · rw [same, pid]
    exact sighted.told
  · rw [same]
    exact sighted.order
  · rw [same]
    exact sighted.once
  · rw [same]
    exact sighted.own
  · rw [same, awaiting]
    exact sighted.owed
  · rw [same, last]
    exact sighted.last
  · rw [pid]
    exact List.forall_mem_append.mpr ⟨sighted.complete, by simpa using fun waits _ => complete waits⟩

/-- One more stop was seen. -/
theorem seen (sighted : Sighted ds h) (told : Told) (rest : List Syscall) (stop : Stop)
    (now : d.sighting? = some ⟨told.calls h.tracee.pid ++ rest, stop⟩)
    (silent : ∀ c ∈ rest, c.isWait = false)
    (reported : told.status.reported? h.origin (opened (sightings ds)) = some stop)
    (pid : x.pid = h.tracee.pid)
    (awaiting : x.awaiting = if stop.isFirst then none else h.tracee.awaiting)
    (last : x.lastStop = some stop) : Sighted (ds ++ [d]) { h with tracee := x } := by
  have more : sightings (ds ++ [d]) =
      sightings ds ++ [⟨told.calls h.tracee.pid ++ rest, stop⟩] := by
    rw [sightings_concat, now]
    rfl
  refine ⟨fun {earlier s later} split => ?_, ?_, ?_, ?_, ?_, ?_, ?_⟩
  · rw [pid]
    rw [more] at split
    rcases List.eq_nil_or_concat later with rfl | ⟨later, final, rfl⟩
    · obtain ⟨rfl, same⟩ := List.append_inj' split rfl
      cases same
      exact ⟨told, rest, rfl, silent, reported⟩
    · rw [List.concat_eq_append, ← List.cons_append, ← List.append_assoc] at split
      exact sighted.told (List.append_inj' split rfl).1
  · rw [more, List.flatMap_append, List.map_append, sighted.order]
    simp [Told.told?_calls _ _ silent, WaitStatus.status_of_reported? reported]
  · rw [more, List.filter_append, List.length_append]
    have before := sighted.once
    cases first : stop.isFirst with
    | false => simpa [first] using before
    | true =>
      have unopened := (WaitStatus.first_of_reported? reported first).1
      have none : (sightings ds).filter (·.stop.isFirst) = [] := by
        simpa [opened] using unopened
      simp [none, first]
  · rw [more]
    refine List.forall_mem_append.mpr ⟨sighted.own, ?_⟩
    simpa using fun first => (WaitStatus.first_of_reported? reported first).2
  · rw [more, opened_concat]
    show x.awaiting = _
    rw [awaiting, sighted.owed]
    cases opened (sightings ds) <;> cases stop.isFirst <;> rfl
  · rw [more, List.getLast?_concat]
    exact last
  · rw [pid]
    exact List.forall_mem_append.mpr ⟨sighted.complete, by simp [now]⟩

end Sighted

/-! ## operations -/

theorem reply_of_mem_heard {pid q : Pid} {n : Nat} {reply : Reply Waited} {w : Waited}
    (mem : .waitpid q (.ok w) ∈ heard pid n reply) : reply = .ok w := by
  rcases List.mem_append.mp mem with mem | mem
  · cases List.eq_of_mem_replicate mem
  · cases List.mem_singleton.mp mem
    rfl

variable {s : Session} {k : Kernel} {i j : Nat} {ds : List Deed} {g h : Held}

/-- Whatever was said in a wait, the sightings go on. -/
theorem Sighted.waits (sighted : Sighted ds g) {t : Tracer} {calls : List Syscall}
    {r : Except Error Stop} {d : Cast} (waits : Waits t g.tracee calls r d) {journal : Journal}
    (said : journal.calls = calls) (i j : Nat) :
    Sighted (ds ++ [⟨.wait i j, ⟨.of .stop r, journal⟩⟩]) { g with tracee := d.tracee } := by
  -- a wait that fails has no stop to report
  have fails {e : Error} {x : Tracee} (pid : x.pid = g.tracee.pid)
      (awaiting : x.awaiting = g.tracee.awaiting) (last : x.lastStop = g.tracee.lastStop)
      (complete : ∀ w, .waitpid g.tracee.pid (.ok w) ∈ calls → w.status.stop? = none ∨
        ∃ options e, .setOptions g.tracee.pid options (.error e) ∈ calls) :
      Sighted (ds ++ [⟨.wait i j, ⟨.error e, journal⟩⟩]) { g with tracee := x } := by
    refine sighted.silent rfl pid awaiting last fun _ => ?_
    rw [Deed.LosesNoStop, said]
    exact complete
  -- a status that does not open the tracing is reported as it is
  have later {w : Waited} (later : ∀ first, g.tracee.awaiting = some first →
      w.status ≠ .stopped first.signal) :
      w.status.reported? g.origin (opened (sightings ds)) = w.status.stop? := by
    refine WaitStatus.reported?_of_later fun unopened => later g.origin ?_
    rw [sighted.owed, unopened]
    rfl
  cases waits with
  | failed n e news other =>
    exact fails rfl rfl rfl fun w mem => absurd (reply_of_mem_heard mem) nofun
  | vanished n =>
    exact fails rfl rfl rfl fun w mem => absurd (reply_of_mem_heard mem) nofun
  | odd n w odd =>
    refine fails rfl rfl rfl fun w' mem => .inl ?_
    cases reply_of_mem_heard mem
    exact odd
  | missed n w first owed told some e =>
    exact fails rfl rfl rfl fun w' mem => .inr ⟨t.options, e, by simp⟩
  | ended n w stop told final =>
    refine sighted.seen ⟨n, w⟩ [] stop ?_ (by simp) ?_ rfl ?_ rfl
    · rw [List.append_nil]
      exact congrArg (fun calls => some (Sighting.mk calls stop)) said
    · show w.status.reported? _ _ = _
      rw [later, told]
      intro first _ same
      rw [same] at told
      cases told
      cases final
    · rw [WaitStatus.isFirst_of_stop? told]
      rfl
  | opened n w first owed told =>
    have unopened : opened (sightings ds) = false := by
      cases already : opened (sightings ds) with
      | false => rfl
      | true =>
        have none := sighted.owed
        rw [already, owed] at none
        cases none
    have mine : g.origin = first := by
      have promised := sighted.owed
      rw [unopened, owed] at promised
      exact (Option.some.inj promised).symm
    refine sighted.seen ⟨n, w⟩ (t.optionsCalls g.tracee.pid) first.stop ?_
      Tracer.isWait_of_mem_optionsCalls ?_ rfl ?_ rfl
    · exact congrArg (fun calls => some (Sighting.mk calls first.stop)) said
    · rw [mine, unopened]
      exact if_pos ⟨rfl, told⟩
    · rw [first.isFirst_stop]
      rfl
  | stopped n w stop told still owed =>
    refine sighted.seen ⟨n, w⟩ [] stop ?_ (by simp) ?_ rfl ?_ rfl
    · rw [List.append_nil]
      exact congrArg (fun calls => some (Sighting.mk calls stop)) said
    · exact (later owed).trans told
    · rw [WaitStatus.isFirst_of_stop? told]
      rfl

/-- A wait adds its sighting, if it has one. -/
theorem sighted_of_wait (sighted : Sighted ds g) (at_ : s.tracees[j]? = some g)
    (now : (s.step k (.wait i j)).2.tracees[j]? = some h) :
    Sighted (ds ++ [⟨.wait i j, (s.step k (.wait i j)).1⟩]) h := by
  have wait : s.step k (.wait i j) = s.drive k i j Drive.wait .stop := rfl
  have refused (outcome : Outcome) (unseen : ∀ stop, outcome ≠ .ok (.stop stop)) :
      Sighted (ds ++ [⟨.wait i j, ⟨outcome, []⟩⟩]) g := by
    refine sighted.silent (x := g.tracee) ?_ rfl rfl rfl fun _ w mem => absurd mem List.not_mem_nil
    unfold Deed.sighting?
    split
    · rename_i same
      exact absurd same (unseen _)
    · rfl
  rw [wait] at now ⊢
  cases found : s.tracers[i]? with
  | none =>
    rw [drive, at_, found] at now ⊢
    cases at_.symm.trans now
    exact refused _ fun _ same => by cases same
  | some t =>
    have same := tracee_of_drive found at_ now
    rw [drive_eq found at_, same]
    cases permitted : t.permit g.tracee "wait on" [.attached, .running] with
    | error e =>
      rw [Drive.runOn_wait, permitted]
      exact refused _ fun _ same => by cases same
    | ok _ =>
      have may : Cast.May ⟨t, g.tracee⟩ moving := .of_permit permitted
      obtain ⟨calls, r, d, host, talk, _, run, came⟩ := (Drive.wait_holds may).run (s.host k)
      rw [Cast.on] at run
      rw [run]
      exact sighted.waits talk came.written i j

/-- A resumption changes only the state of the tracee. -/
theorem resume_tracee (u : Scene) :
    ∃ state, (Drive.resume.runOn u).2.tracee = { u.tracee with state } := by
  rw [Drive.runOn_resume]
  cases u.tracer.permit u.tracee "resume" [.stopped] with
  | error e => exact ⟨u.tracee.state, rfl⟩
  | ok _ =>
    simp only
    cases (Host.cont u.tracee.pid none u.host).1 with
    | error e => exact ⟨u.tracee.state, rfl⟩
    | ok _ => exact ⟨.running, rfl⟩

theorem sighted_of_resume (sighted : Sighted ds g) (at_ : s.tracees[j]? = some g)
    (now : (s.step k (.resume i j)).2.tracees[j]? = some h) (answer : Answer) :
    Sighted (ds ++ [⟨.resume i j, answer⟩]) h := by
  have now : (s.drive k i j Drive.resume fun _ => .done).2.tracees[j]? = some h := now
  cases found : s.tracers[i]? with
  | none =>
    rw [drive, at_, found] at now
    cases at_.symm.trans now
    exact sighted.silent rfl rfl rfl rfl fun waits => by cases waits
  | some t =>
    obtain ⟨state, resumed⟩ := resume_tracee ⟨t, g.tracee, s.host k⟩
    rw [tracee_of_drive found at_ now, resumed]
    exact sighted.silent rfl rfl rfl rfl fun waits => by cases waits

/-! ## whole runs -/

/-- A tracee that has just been made has not been seen. -/
theorem sighted_of_born {d : Deed} (off : d.op.tracee? = none) (i : Nat) (pid : Pid)
    (first : FirstStop) : Sighted [d] ⟨i, first, .born pid first⟩ := by
  obtain ⟨op, answer⟩ := d
  have silent : op.waits = false := by cases op <;> first | rfl | cases off
  have unseen : Deed.sighting? ⟨op, answer⟩ = none := by
    cases op <;> first | rfl | cases off
  have nothing : sightings [⟨op, answer⟩] = [] := by simp [sightings, unseen]
  refine ⟨fun split => ?_, ?_, ?_, ?_, ?_, ?_, ?_⟩
  · rw [nothing] at split
    simp at split
  · rw [nothing]
    rfl
  · rw [nothing]
    exact Nat.zero_le 1
  · simp [nothing]
  · rw [nothing]
    rfl
  · rw [nothing]
    rfl
  · simp [silent]

/-- After any run in which a tracee was driven by waits and resumptions alone, with any looks
between, its sightings tell what was delivered, in order. -/
theorem sighted_of_run (ops : List (Kernel × Op)) (n : Nat) {j : Nat} {h : Held}
    (at_ : (run ops (new n)).2.tracees[j]? = some h)
    (gently : ∀ d ∈ deeds (.held j) ops (new n), d.op.swallows = false) :
    Sighted (deeds (.held j) ops (new n)) h := by
  refine deeds_induction (p := .held j)
    (P := fun ds h => (∀ d ∈ ds, d.op.swallows = false) → Sighted ds h)
    (fun off begins _ => ?_) (fun {s k op ds g h} before at_ on now leads gently => ?_)
    ops at_ gently
  · cases begins with
    | born i pid first birth => exact sighted_of_born off i pid first
  · obtain ⟨earlier, last⟩ := List.forall_mem_append.mp gently
    have last := last _ (List.mem_singleton.mpr rfl)
    have on : op.tracee? = some j := Op.isOn_held.mp on
    cases op with
    | wait i l =>
      cases on
      exact sighted_of_wait (before earlier) at_ now
    | resume i l =>
      cases on
      exact sighted_of_resume (before earlier) at_ now _
    | look l look =>
      cases leads with
      | looked _ => exact (before earlier).silent rfl rfl rfl rfl nofun
      | driven drives _ _ => cases drives
    | waitForExec i l | kill i l => cases last
    | _ => cases on

/-- At the exec the options are refused; the trap is told once more and opens the tracing, and the
third trap is a signal. -/
def trappedThrice : List (Kernel × Op) :=
  [({}, .spawn 0 ls),
    ({ waits := [.ok ⟨none, 0x57f⟩], setOptions := [.error .eperm] }, .wait 0 0),
    ({ waits := [.error .eintr, .ok ⟨none, 0x57f⟩] }, .wait 0 0), ({}, .resume 0 0),
    ({ waits := [.ok ⟨none, 0x57f⟩] }, .wait 0 0), ({}, .resume 0 0),
    ({ waits := [.error .eintr, .error .eintr, .ok ⟨none, 0⟩] }, .wait 0 0)]

theorem sighted_of_trappedThrice :
    let ds := deeds (.held 0) trappedThrice (new 1)
    let exited : Held := ⟨0, .exec, ⟨1000, .exited, none, some (.exited 0)⟩⟩
    (sightings ds).map (·.stop) = [.exec, .signal .trap, .exited 0] ∧ Sighted ds exited := by
  intro ds exited
  have at_ : (run trappedThrice (new 1)).2.tracees[0]? = some exited := by decide +kernel
  have gently : ∀ d ∈ ds, d.op.swallows = false := by decide +kernel
  exact ⟨by decide +kernel, sighted_of_run trappedThrice 1 at_ gently⟩

end Session

end ProcTrace
