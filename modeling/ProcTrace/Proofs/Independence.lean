import ProcTrace.Proofs.Moves
import ProcTrace.Proofs.Independence.Blind

/-!
# Operations on different tracees

An operation on one tracee changes that tracee and the error number, and a tracer in no more than
that it gives up the tracee.  What it gives depends on no more either, so operations on tracees of
different process ids may change places.

* `Mark`, `Session.marked`         what an operation on a tracee makes of a session;
* `Session.SameTo`                 sessions that differ in what one process has no part in;
* `Session.marks_of_step`          an operation makes the same mark on all of these;
* `Session.marked_comm`            marks by different tracees change places;
* `Session.independent_of_pid_ne`  so do the operations.
-/

namespace ProcTrace

/-! ## changes in one place -/

theorem map_modify_of_eq {f : α → α} {g : α → β} (kept : ∀ a, g (f a) = g a) (l : List α)
    (i : Nat) : (l.modify i f).map g = l.map g := by
  refine List.ext_getElem? fun n => ?_
  rw [List.getElem?_map, List.getElem?_map, List.getElem?_modify]
  cases l[n]? with
  | none => rfl
  | some a =>
    by_cases here : i = n
    · simp only [if_pos here]
      exact congrArg some (kept a)
    · simp only [if_neg here]
      rfl

theorem modify_comm {f g : α → α} (comm : ∀ a, f (g a) = g (f a)) (l : List α) (i j : Nat) :
    (l.modify i f).modify j g = (l.modify j g).modify i f := by
  by_cases here : i = j
  · subst here
    rw [List.modify_modify_eq, List.modify_modify_eq]
    exact congrArg (l.modify i) (funext fun a => (comm a).symm)
  · exact List.modify_modify_ne f g l here

theorem set_eq_modify {l : List α} {i : Nat} {a : α} (found : l[i]? = some a) (f : α → α) :
    l.set i (f a) = l.modify i f := by
  have : Inhabited α := ⟨a⟩
  rw [List.modify_eq_set, found]
  rfl

/-! ## tracers -/

namespace Tracer

/-- the tracer after it has driven a tracee from `x` to `y`: one that has ended is given up -/
def after (x y : Tracee) (t : Tracer) : Tracer :=
  if y.state.isTerminal = x.state.isTerminal then t else t.release x.pid

theorem after_self (x : Tracee) (t : Tracer) : t.after x x = t := if_pos rfl

theorem release_comm (p q : Pid) (t : Tracer) : (t.release p).release q = (t.release q).release p :=
  congrArg (mk t.options) (PidSet.erase_comm p q t.traced)

theorem after_comm (x y x' y' : Tracee) (t : Tracer) :
    (t.after x y).after x' y' = (t.after x' y').after x y := by
  unfold after
  split <;> split
  · rfl
  · rfl
  · rfl
  · exact release_comm _ _ t

/-- what a process has to do with the tracer -/
def seen (pid : Pid) (t : Tracer) : Options × Bool := (t.options, t.isTracing pid)

theorem seen_after {x y : Tracee} {pid : Pid} (other : pid ≠ x.pid) (t : Tracer) :
    (t.after x y).seen pid = t.seen pid := by
  unfold after
  split
  · rfl
  · have tracing : (t.release x.pid).isTracing pid = t.isTracing pid := by
      rw [Bool.eq_iff_iff, isTracing_release]
      exact and_iff_right other
    exact congrArg (t.options, ·) tracing

end Tracer

/-- A course leaves its tracer as it was, or gives up the tracee as that ends. -/
theorem Course.Steps.tracer {c d : Course} (steps : Steps c d) :
    d.tracer = c.tracer.after c.tracee d.tracee := by
  induction steps with
  | refl => exact (Tracer.after_self _ _).symm
  | @tail b d before step ih =>
    rcases step.tracer with ⟨tracer, state⟩ | ⟨tracer, gone, owned, live⟩
    · rw [tracer, ih, Tracer.after, Tracer.after, state]
    · cases started : c.tracee.state.isTerminal with
      | true =>
        -- nobody owns a tracee that has ended and would come back
        rw [ih, Tracer.after, if_neg (by simp [started, live]), Steps.pid before,
          Tracer.isTracing_release] at owned
        exact absurd rfl owned.1
      | false =>
        rw [tracer, ih, Tracer.after, if_pos (by rw [live, started]), Tracer.after,
          if_neg (by simp [gone, started]), Steps.pid before]

/-! ## marks -/

/-- what an operation has done: which tracer drove which tracee, from where and to where -/
structure Mark where
  tracer : Nat
  tracee : Nat
  before : Tracee
  after : Tracee

/-- The operation waits for its tracee. -/
def Op.awaits : Op → Bool
  | wait _ _ | waitForExec _ _ | kill _ _ => true
  | _ => false

namespace Session

/-- the session with the mark, and with this error number left -/
def marked (s : Session) (m : Mark) (e : Errno) : Session :=
  { s with
    tracers := s.tracers.modify m.tracer (Tracer.after m.before m.after)
    tracees := s.tracees.modify m.tracee ({ · with tracee := m.after })
    errno := e }

/-- The sessions are the same to an operation on the tracee at this position, which is the process
`pid`: they differ in other tracees, in whether these are traced, and in the error number. -/
structure SameTo (j : Nat) (pid : Pid) (s u : Session) : Prop where
  tracee : u.tracees[j]? = s.tracees[j]?
  tracers : u.tracers.map (Tracer.seen pid) = s.tracers.map (Tracer.seen pid)
  nextPid : u.nextPid = s.nextPid

variable {s u : Session} {j : Nat} {pid : Pid} {h : Held}

theorem SameTo.refl (s : Session) : SameTo j pid s s := ⟨rfl, rfl, rfl⟩

theorem sameTo_marked {m : Mark} (position : m.tracee ≠ j) (other : pid ≠ m.before.pid)
    (e : Errno) : SameTo j pid s (s.marked m e) where
  tracee := List.getElem?_modify_ne _ _ position
  tracers := map_modify_of_eq (Tracer.seen_after other) _ _
  nextPid := rfl

/-- An operation that leaves its tracee as it was leaves no mark. -/
theorem marked_self (at_ : u.tracees[j]? = some h) (i : Nat) (e : Errno) :
    u.marked ⟨i, j, h.tracee, h.tracee⟩ e = { u with errno := e } := by
  have tracers : u.tracers.modify i (Tracer.after h.tracee h.tracee) = u.tracers := by
    rw [show Tracer.after h.tracee h.tracee = id from funext (Tracer.after_self _), List.modify_id]
  rw [marked, tracers, modify_tracees_self at_]

/-- Marks by different tracees change places, all but the error number. -/
theorem marked_comm {m n : Mark} (positions : m.tracee ≠ n.tracee) (s : Session)
    (e e' f f' : Errno) :
    (s.marked m e).marked n e' = { (s.marked n f).marked m f' with errno := e' } := by
  have tracers := modify_comm (fun t => Tracer.after_comm n.before n.after m.before m.after t)
    s.tracers m.tracer n.tracer
  have tracees := List.modify_modify_ne (fun h : Held => { h with tracee := m.after })
    (fun h : Held => { h with tracee := n.after }) s.tracees positions
  simp only [marked, tracers, tracees]

/-! ## what an operation does -/

variable {k : Kernel}

theorem SameTo.tracer (same : SameTo j pid s u) {i : Nat} {t : Tracer}
    (found : s.tracers[i]? = some t) :
    ∃ t', u.tracers[i]? = some t' ∧ t'.seen pid = t.seen pid := by
  have seen : (u.tracers[i]?).map (Tracer.seen pid) = some (t.seen pid) := by
    rw [← List.getElem?_map, same.tracers, List.getElem?_map, found]
    rfl
  exact Option.map_eq_some_iff.mp seen

theorem SameTo.noTracer (same : SameTo j pid s u) {i : Nat} (missing : s.tracers[i]? = none) :
    u.tracers[i]? = none := by
  have seen : (u.tracers[i]?).map (Tracer.seen pid) = none := by
    rw [← List.getElem?_map, same.tracers, List.getElem?_map, missing]
    rfl
  exact Option.map_eq_none_iff.mp seen

/-- Hosts of sessions that are the same are alike. -/
theorem SameTo.host (same : SameTo j pid s u) {waits : Bool}
    (sets : waits = true → SetsErrno pid k.waits) :
    (s.host k).Alike waits pid s.nextPid (u.host k) :=
  ⟨congrArg (Host.mk k u.errno · []) same.nextPid, rfl, sets⟩

/-- The operation gives this answer and leaves this mark, in `s` and in all sessions that are the
same to it. -/
def Marks (s : Session) (k : Kernel) (op : Op) (pid : Pid) (answer : Answer) (m : Mark) : Prop :=
  ∀ u, SameTo m.tracee pid s u → ∃ e, u.step k op = (answer, u.marked m e)

theorem drive_marked {i : Nat} {t : Tracer} (found : s.tracers[i]? = some t)
    (at_ : s.tracees[j]? = some h) {act : Drive α} (follows : act.Follows) (value : α → Value) :
    let out := act.runOn ⟨t, h.tracee, s.host k⟩
    s.drive k i j act value = (⟨.of value out.1, out.2.host.journal⟩,
      { s.marked ⟨i, j, h.tracee, out.2.tracee⟩ out.2.host.errno with
        nextPid := out.2.host.nextPid }) := by
  have tracer : (act.runOn ⟨t, h.tracee, s.host k⟩).2.tracer =
      t.after h.tracee (act.runOn ⟨t, h.tracee, s.host k⟩).2.tracee :=
    (follows [] ⟨t, h.tracee, s.host k⟩).tracer
  have tracers := set_eq_modify found
    (Tracer.after h.tracee (act.runOn ⟨t, h.tracee, s.host k⟩).2.tracee)
  rw [drive_eq found at_]
  simp only [marked, setTracee, setTracer, keepHost, tracer, tracers]

theorem marks_of_drive (at_ : s.tracees[j]? = some h) (op : Op) {i : Nat} {act : Drive α}
    {value : α → Value} (does : ∀ u : Session, u.step k op = u.drive k i j act value)
    (follows : act.Follows) (blind : act.Blind op.awaits h.tracee.pid)
    (sets : SetsErrno h.tracee.pid k.waits) :
    ∃ answer i y, Marks s k op h.tracee.pid answer ⟨i, j, h.tracee, y⟩ := by
  cases found : s.tracers[i]? with
  | none =>
    refine ⟨⟨.noTracer, []⟩, i, h.tracee, fun u same => ⟨u.errno, ?_⟩⟩
    have here := same.tracee.trans at_
    rw [does, drive, here, same.noTracer found, marked_self here]
  | some t =>
    let out := act.runOn ⟨t, h.tracee, s.host k⟩
    refine ⟨⟨.of value out.1, out.2.host.journal⟩, i, out.2.tracee, fun u same => ?_⟩
    obtain ⟨t', found', seen⟩ := same.tracer found
    have alike : Scene.Alike op.awaits h.tracee.pid s.nextPid ⟨t, h.tracee, s.host k⟩
        ⟨t', h.tracee, u.host k⟩ :=
      ⟨rfl, rfl, congrArg Prod.fst seen, congrArg Prod.snd seen,
        same.host fun _ => sets⟩
    obtain ⟨told, after⟩ := blind alike
    refine ⟨(act.runOn ⟨t', h.tracee, u.host k⟩).2.host.errno, ?_⟩
    rw [does, drive_marked found' (same.tracee.trans at_) follows, told, after.tracee,
      after.host.journal, after.host.nextPid, ← same.nextPid]
    rfl

theorem marks_of_look (at_ : s.tracees[j]? = some h) (look : Look) :
    ∃ answer i y, Marks s k (.look j look) h.tracee.pid answer ⟨i, j, h.tracee, y⟩ := by
  let out := (look.run h.tracee).runOn (s.host k)
  refine ⟨⟨.of id out.1, out.2.journal⟩, 0, h.tracee, fun u same => ?_⟩
  have here := same.tracee.trans at_
  -- a look waits for nothing
  have alike : (s.host k).Alike false h.tracee.pid s.nextPid (u.host k) := same.host nofun
  obtain ⟨told, after⟩ := Look.blind false h.tracee.pid h.tracee look alike
  refine ⟨((look.run h.tracee).runOn (u.host k)).2.errno, ?_⟩
  rw [marked_self here, look_eq here]
  simp only [told, after.journal, keepHost, after.nextPid, same.nextPid]
  rfl

theorem marks_of_step {op : Op} (on : op.tracee? = some j) (at_ : s.tracees[j]? = some h)
    {k : Kernel} (sets : SetsErrno h.tracee.pid k.waits) :
    ∃ answer i y, Marks s k op h.tracee.pid answer ⟨i, j, h.tracee, y⟩ := by
  cases op with
  | wait i _ =>
    cases on
    exact marks_of_drive at_ (.wait i j) (fun _ => rfl) Drive.wait_follows .wait sets
  | waitForExec i _ =>
    cases on
    exact marks_of_drive at_ (.waitForExec i j) (fun _ => rfl) Drive.waitForExec_follows
      .waitForExec sets
  | resume i _ =>
    cases on
    exact marks_of_drive at_ (.resume i j) (fun _ => rfl) Drive.resume_follows .resume sets
  | kill i _ =>
    cases on
    exact marks_of_drive at_ (.kill i j) (fun _ => rfl) Drive.kill_follows .kill sets
  | look _ look =>
    cases on
    exact marks_of_look at_ look
  | spawn _ _ | spawnChild _ | attach _ _ | runTraced _ _ _ | setOptions _ _ | isTracing _ _
  | sameTracer _ _ | sameTracee _ _ => cases on

/-! ## independence -/

/-- Two operations of a session do not depend on each other: `a` on the tracee at position `i`, the
process `p`, and `b` on that at position `j`, the process `q`. -/
structure Independent (s : Session) (i j : Nat) (p q : Pid) (k l : Kernel) (a b : Op) : Prop where
  /-- each gives the same answer, and makes the same calls, before the other and after it -/
  first : ((s.step l b).2.step k a).1 = (s.step k a).1
  second : ((s.step k a).2.step l b).1 = (s.step l b).1
  /-- and both orders leave one session, but for the error number -/
  ends : ∃ e, ((s.step k a).2.step l b).2 = { ((s.step l b).2.step k a).2 with errno := e }
  /-- neither changes the other tracee, or who traces it -/
  spares : SameTo j q s (s.step k a).2
  spared : SameTo i p s (s.step l b).2

/-- Operations on two processes do not depend on each other.  The error number that one of them has
left would be seen by the other only if that failed to wait without setting its own. -/
theorem independent_of_pid_ne (s : Session) {i j : Nat} {g h : Held} {k l : Kernel} {a b : Op}
    (first : s.tracees[i]? = some g) (second : s.tracees[j]? = some h)
    (other : g.tracee.pid ≠ h.tracee.pid) (on : a.tracee? = some i) (on' : b.tracee? = some j)
    (sets : SetsErrno g.tracee.pid k.waits) (sets' : SetsErrno h.tracee.pid l.waits) :
    Independent s i j g.tracee.pid h.tracee.pid k l a b := by
  have positions : i ≠ j := by
    rintro rfl
    rw [first] at second
    cases second
    exact other rfl
  obtain ⟨answer, m, x, marks⟩ := marks_of_step on first sets
  obtain ⟨answer', n, y, marks'⟩ := marks_of_step on' second sets'
  obtain ⟨e, alone⟩ := marks s (.refl s)
  obtain ⟨e', alone'⟩ := marks' s (.refl s)
  have spares : SameTo j h.tracee.pid s (s.step k a).2 := by
    rw [alone]
    exact sameTo_marked positions other.symm e
  have spared : SameTo i g.tracee.pid s (s.step l b).2 := by
    rw [alone']
    exact sameTo_marked positions.symm other e'
  obtain ⟨f, after⟩ := marks (s.step l b).2 spared
  obtain ⟨f', after'⟩ := marks' (s.step k a).2 spares
  refine ⟨by rw [after, alone], by rw [after', alone'], ⟨f', ?_⟩, spares, spared⟩
  rw [after, after', alone, alone']
  exact marked_comm positions s e f' e' f

/-- two programs, started by one tracer -/
def bothStarted : List (Kernel × Op) := [({}, .spawn 0 ls), ({}, .spawn 0 ls)]

/-- One program is killed and reaped at its exec, the other ends by itself, and the tracer gives up
both. -/
theorem independent_of_bothEnded :
    let s := (run bothStarted (new 1)).2
    let k : Kernel := { waits := [.ok ⟨none, 0x57f⟩, .error .eintr, .ok ⟨none, 9⟩] }
    let l : Kernel := { waits := [.error .eintr, .ok ⟨none, 0⟩] }
    Independent s 0 1 1000 1001 k l (.kill 0 0) (.wait 0 1) ∧
      ((s.step k (.kill 0 0)).2.step l (.wait 0 1)).2.tracers = [.new] := by
  intro s k l
  have first : s.tracees[0]? = some ⟨0, .exec, .born 1000 .exec⟩ := by decide +kernel
  have second : s.tracees[1]? = some ⟨0, .exec, .born 1001 .exec⟩ := by decide +kernel
  have sets : SetsErrno 1000 k.waits := by simp [SetsErrno, k]
  have sets' : SetsErrno 1001 l.waits := by simp [SetsErrno, l]
  exact ⟨independent_of_pid_ne s first second (by decide) rfl rfl sets sets', by decide +kernel⟩

end Session

end ProcTrace
