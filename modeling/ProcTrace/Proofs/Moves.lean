import ProcTrace.Proofs.Ledger.Session

/-!
# What an operation does with tracees

* `Op.tracee?`                              the tracee that an operation is done on;
* `Session.drive_eq`, `Session.look_eq`     what driving it or looking at it comes to;
* `Session.Moved`, `Session.step_moved`     what any operation may do with the tracees of a session:
                                            it makes one, drives one, looks at one, or leaves them
                                            all alone.
-/

namespace ProcTrace

/-- the position of the tracee that an operation is done on; making one is done on none -/
def Op.tracee? : Op → Option Nat
  | wait _ j | waitForExec _ j | resume _ j | kill _ j | look j _ => some j
  | _ => none

/-- The operation drives a tracee; the others look at one, make one or leave them all alone. -/
def Op.drives : Op → Bool
  | wait _ _ | waitForExec _ _ | resume _ _ | kill _ _ | runTraced _ _ _ => true
  | _ => false

/-! ## operations on a tracee -/

/-- what is said of the result of an action -/
def Outcome.of (value : α → Value) : Except Error α → Outcome
  | .ok a => .ok (value a)
  | .error e => .error e

namespace Session

/-- An action on a tracee that is there, by a tracer that is there. -/
theorem drive_eq {s : Session} {i j : Nat} {t : Tracer} {h : Held} (found : s.tracers[i]? = some t)
    (at_ : s.tracees[j]? = some h) (k : Kernel) (act : Drive α) (value : α → Value) :
    s.drive k i j act value =
      let out := act.runOn ⟨t, h.tracee, s.host k⟩
      (⟨.of value out.1, out.2.host.journal⟩,
        ((s.keepHost out.2.host).setTracer i out.2.tracer).setTracee j out.2.tracee) := by
  rw [drive, at_, found]
  simp only
  rcases act.runOn ⟨t, h.tracee, s.host k⟩ with ⟨_ | _, u⟩ <;> rfl

theorem tracee_of_drive {s : Session} {k : Kernel} {i j : Nat} {t : Tracer} {g h : Held}
    (found : s.tracers[i]? = some t) (at_ : s.tracees[j]? = some g) {act : Drive α}
    {value : α → Value} (now : (s.drive k i j act value).2.tracees[j]? = some h) :
    h = { g with tracee := (act.runOn ⟨t, g.tracee, s.host k⟩).2.tracee } := by
  rw [drive_eq found at_] at now
  have now : (s.tracees.modify j _)[j]? = some h := now
  rw [List.getElem?_modify_eq, at_] at now
  exact (Option.some.inj now).symm

/-- A tracee that is put where it is already. -/
theorem modify_tracees_self {s : Session} {j : Nat} {h : Held} (at_ : s.tracees[j]? = some h) :
    s.tracees.modify j ({ · with tracee := h.tracee }) = s.tracees := by
  obtain ⟨a, b, whole, changed⟩ := Held.split at_
  rw [changed, whole]

/-- A look at a tracee that is there. -/
theorem look_eq {s : Session} {j : Nat} {h : Held} (at_ : s.tracees[j]? = some h) (k : Kernel)
    (look : Look) : s.step k (.look j look) =
      let out := (look.run h.tracee).runOn (s.host k)
      (⟨.of id out.1, out.2.journal⟩, s.keepHost out.2) := by
  rw [step, at_]
  simp only [inspect]
  rcases (look.run h.tracee).runOn (s.host k) with ⟨_ | _, g⟩ <;> rfl

/-! ## every operation -/

/-- What an operation may do with the tracees of a session, and what it writes meanwhile. -/
inductive Moved (s : Session) (op : Op) : Answer × Session → Prop where
  /-- it concerns no tracee -/
  | aside {answer u} (off : op.tracee? = none) (tracees : u.tracees = s.tracees)
      (abandoned : u.abandoned = s.abandoned) (idle : ∀ e ∈ answer.journal, e.about = none) :
    Moved s op (answer, u)
  /-- it hands out a new tracee -/
  | born {answer u} (off : op.tracee? = none) (i : Nat) (pid : Pid) (first : FirstStop)
      (birth : Birth pid first answer.journal)
      (tracees : u.tracees = s.tracees ++ [⟨i, first, .born pid first⟩])
      (abandoned : u.abandoned = s.abandoned) : Moved s op (answer, u)
  /-- it makes a tracee, drives it and abandons it -/
  | traced {answer u} (off : op.tracee? = none) (drives : op.drives = true) (i : Nat) (t : Tracer)
      (pid : Pid) (es : Journal) (c : Course) (birth : Birth pid .exec es)
      (steps : Course.Steps ⟨t, .born pid .exec, es⟩ c) (written : c.journal = answer.journal)
      (tracees : u.tracees = s.tracees)
      (abandoned : u.abandoned = s.abandoned ++ [⟨i, .exec, c.tracee⟩]) : Moved s op (answer, u)
  /-- there is no tracee to do it on -/
  | missing {j : Nat} (outcome : Outcome) (on : op.tracee? = some j) (none : s.tracees[j]? = none) :
    Moved s op (⟨outcome, []⟩, s)
  /-- it only looks at a tracee -/
  | looked {answer u} {j : Nat} {h : Held} (on : op.tracee? = some j)
      (at_ : s.tracees[j]? = some h) (looks : ∀ e ∈ answer.journal, e.Looks h.tracee)
      (tracees : u.tracees = s.tracees) (abandoned : u.abandoned = s.abandoned) :
    Moved s op (answer, u)
  /-- it drives a tracee -/
  | driven {answer u} {j : Nat} {h : Held} {t : Tracer} {c : Course} (on : op.tracee? = some j)
      (drives : op.drives = true) (at_ : s.tracees[j]? = some h) (mem : t ∈ s.tracers)
      (steps : Course.Steps ⟨t, h.tracee, []⟩ c) (written : c.journal = answer.journal)
      (tracees : u.tracees = s.tracees.modify j ({ · with tracee := c.tracee }))
      (abandoned : u.abandoned = s.abandoned) : Moved s op (answer, u)

variable {s u : Session} {k : Kernel} {op : Op}

theorem moved_nowhere (off : op.tracee? = none) (outcome : Outcome) :
    Moved s op (⟨outcome, []⟩, s) := .aside off rfl rfl (by simp)

theorem moved_of_withTracer (off : op.tracee? = none) {i : Nat} {f : Tracer → Answer × Session}
    (with_ : ∀ t, Moved s op (f t)) : Moved s op (s.withTracer i f) := by
  rw [withTracer]
  cases s.tracers[i]? with
  | none => exact moved_nowhere off _
  | some t => exact with_ t

/-- What has been written by an attempt is all that it added to the empty journal of its host. -/
theorem journal_of_host {g : Host} {es : Journal} (written : g.journal = es ++ (s.host k).journal) :
    g.journal = es := written.trans (List.append_nil es)

theorem moved_of_idled (off : op.tracee? = none) {g : Host} (idled : (s.host k).Idled g)
    {outcome : Outcome} (tracees : u.tracees = s.tracees) (abandoned : u.abandoned = s.abandoned) :
    Moved s op (⟨outcome, g.journal⟩, u) := by
  obtain ⟨es, written, idle⟩ := idled
  refine .aside off tracees abandoned ?_
  rw [journal_of_host written]
  exact idle

theorem moved_of_born (off : op.tracee? = none) {g : Host} {pid : Pid} {first : FirstStop}
    {es : Journal} (birth : Birth pid first es) (written : g.journal = es ++ (s.host k).journal)
    (i : Nat) (t : Tracer) (outcome : Outcome) : Moved s op (⟨outcome, g.journal⟩,
      (keepNew i first ((s.keepHost g).setTracer i t) (.born pid first)).2) := by
  refine .born off i pid first ?_ rfl rfl
  rw [journal_of_host written]
  exact birth

theorem moved_of_drive {act : Drive α} (follows : act.Follows) {i j : Nat} {value : α → Value}
    (on : op.tracee? = some j) (drives : op.drives = true) :
    Moved s op (s.drive k i j act value) := by
  cases at_ : s.tracees[j]? with
  | none =>
    rw [drive, at_]
    exact .missing _ on at_
  | some h =>
    cases found : s.tracers[i]? with
    | none =>
      rw [drive, at_, found]
      exact .looked on at_ (by simp) rfl rfl
    | some t =>
      rw [drive_eq found at_]
      exact .driven on drives at_ (List.mem_of_getElem? found) (follows [] ⟨t, h.tracee, s.host k⟩)
        (List.append_nil _) rfl rfl

theorem moved_of_runTraced (i : Nat) (t : Tracer) (c : Command) (layout : Layout) :
    Moved s (.runTraced i c layout)
      (s.recruit k t (Tracer.runTraced c layout) (·.setTracer i) (keepRun i)) := by
  rcases t.runTraced_cases c layout (s.host k) with ⟨e, g, run, idled⟩ | ⟨exit, g, run, idled⟩ |
    ⟨pid, g, es, birth, written, run⟩
  · rw [recruit_error run]
    exact moved_of_idled rfl idled rfl rfl
  · rw [recruit_child run]
    exact moved_of_idled rfl idled rfl rfl
  · rw [recruit_parent run]
    have course := Drive.follow_follows layout [] ⟨t.adopt pid, .born pid .exec, g⟩
    rw [Scene.course, List.append_nil, journal_of_host written] at course
    exact .traced rfl rfl i _ pid es _ birth course (List.append_nil _) rfl rfl

theorem moved_of_look (j : Nat) (look : Look) :
    Moved s (.look j look) (s.step k (.look j look)) := by
  cases at_ : s.tracees[j]? with
  | none =>
    rw [step, at_]
    exact .missing _ rfl at_
  | some h =>
    obtain ⟨es, written, looks⟩ := Look.run_looks h.tracee look (s.host k)
    rw [← journal_of_host written] at looks
    rw [look_eq at_]
    exact .looked rfl at_ looks rfl rfl

theorem step_moved (s : Session) (k : Kernel) (op : Op) : Moved s op (s.step k op) := by
  cases op with
  | spawn i c =>
    refine moved_of_withTracer rfl fun t => ?_
    rcases t.spawn_cases c (s.host k) with ⟨e, g, run, idled⟩ | ⟨exit, g, run, idled⟩ |
      ⟨pid, g, es, run, birth, written⟩
    · rw [recruit_error run]
      exact moved_of_idled rfl idled rfl rfl
    · rw [recruit_child run]
      exact moved_of_idled rfl idled rfl rfl
    · rw [recruit_parent run]
      exact moved_of_born rfl birth written i _ _
  | spawnChild c =>
    obtain ⟨exit, g, run, idled⟩ :=
      Tracer.new.spawn_child c (h := s.host { k with forks := [.ok 0] }) rfl
    rw [step, recruit_child run]
    exact moved_of_idled rfl idled rfl rfl
  | attach i pid =>
    refine moved_of_withTracer rfl fun t => ?_
    rcases t.attach_cases pid (s.host k) with ⟨e, g, run, idled⟩ | ⟨g, es, run, birth, written⟩
    · rw [recruit_error run]
      exact moved_of_idled rfl idled rfl rfl
    · rw [recruit_parent run]
      exact moved_of_born rfl birth written i _ _
  | wait i j => exact moved_of_drive Drive.wait_follows rfl rfl
  | waitForExec i j => exact moved_of_drive Drive.waitForExec_follows rfl rfl
  | resume i j => exact moved_of_drive Drive.resume_follows rfl rfl
  | kill i j => exact moved_of_drive Drive.kill_follows rfl rfl
  | runTraced i c layout => exact moved_of_withTracer rfl fun t => moved_of_runTraced i t c layout
  | setOptions i options =>
    exact moved_of_withTracer rfl fun t => .aside rfl rfl rfl (by simp)
  | isTracing i pid => exact moved_of_withTracer rfl fun t => moved_nowhere rfl _
  | sameTracer i j =>
    exact moved_of_withTracer rfl fun t => moved_of_withTracer rfl fun u => moved_nowhere rfl _
  | sameTracee i j =>
    rw [step]
    cases s.tracees[i]? with
    | none => exact moved_nowhere rfl _
    | some t => cases s.tracees[j]? <;> exact moved_nowhere rfl _
  | look j look => exact moved_of_look j look

end Session

end ProcTrace
