import ProcTrace.Proofs.Course.Drive
import ProcTrace.Proofs.Ledger

/-!
# Sessions go by the steps of their ledgers

* `Tracer.spawn_cases`, `Tracer.attach_cases`, `Tracer.runTraced_cases`   what getting a tracee comes
                           to, and what is left of the tracer where it fails;
* `Journal.newPids`        the process ids that forks and attaches have given;
* `Session.Fresh`          a run in which they give only ids that no live tracee has;
* `Session.chronicle`      the journal of a whole run, latest first;
* `Session.step_goes`      every operation takes the ledger of its session along its steps;
* `Session.run_goes`       and so does every run.
-/

namespace ProcTrace

/-! ## births -/

theorem Host.journal_fork (h : Host) :
    (Host.fork h).2.journal = .call (.fork (Host.fork h).1) :: h.journal := by
  obtain ⟨⟨forks, _, _, _, _, _, _, _, _, _, _⟩, _, _, _⟩ := h
  cases forks <;> rfl

theorem Command.journal_runChild (c : Command) (h : Host) :
    ∃ es, (c.runChild h).2.journal = es ++ h.journal ∧ ∀ e ∈ es, e.about = none := by
  rw [runChild, HostM.bind_apply]
  cases (Host.traceMe h).1 with
  | error e => exact ⟨[_, _], rfl, by simp [Entry.about, Syscall.about]⟩
  | ok _ =>
    simp only
    rw [HostM.bind_apply]
    cases (Host.exec c.program.image c.argvPointers c.envPointers (Host.traceMe h).2).1 with
    | ok _ => exact ⟨[_, _], rfl, by simp [Entry.about, Syscall.about]⟩
    | error e => exact ⟨[_, _, _], rfl, by simp [Entry.about, Syscall.about]⟩

theorem Command.runOn_forkExec (c : Command) (h : Host) :
    c.forkExec.runOn h = match (Host.fork h).1 with
      | .error e => (.error (.spawn e), (Host.fork h).2)
      | .ok pid =>
        if pid = 0 then
          (.ok (.child (c.runChild (Host.fork h).2).1), (c.runChild (Host.fork h).2).2)
        else (.ok (.parent pid), (Host.fork h).2) := by
  rw [forkExec, Attempt.runOn_bind, Attempt.runOn_lift]
  simp only
  cases (Host.fork h).1 with
  | error e => rfl
  | ok pid =>
    by_cases zero : pid = 0
    · simp only [if_pos zero]
      rfl
    · simp only [if_neg zero]
      rfl

theorem Tracer.runOn_spawn (t : Tracer) (c : Command) (h : Host) :
    (spawn c).runOn ⟨t, h⟩ = match (Host.fork h).1 with
      | .error e => (.error (.spawn e), ⟨t, (Host.fork h).2⟩)
      | .ok pid =>
        if pid = 0 then
          (.ok (.child (c.runChild (Host.fork h).2).1), ⟨t, (c.runChild (Host.fork h).2).2⟩)
        else (.ok (.parent (.born pid .exec)), ⟨t.adopt pid,
          ((Host.fork h).2.noted (.spawned pid c.program)).noted
            (.stateSet pid .created .attached)⟩) := by
  rw [spawn, Recruit.runOn_bind, Recruit.runOn_lift, c.runOn_forkExec]
  cases (Host.fork h).1 with
  | error e => rfl
  | ok pid =>
    by_cases zero : pid = 0
    · simp only [if_pos zero]
      rfl
    · simp only [if_neg zero]
      rfl

theorem Tracer.runOn_attach (t : Tracer) (pid : Pid) (h : Host) :
    (attach pid).runOn ⟨t, h⟩ =
      if t.isTracing pid then (.error (.alreadyTraced pid), ⟨t, h⟩)
      else match (Host.attach pid h).1 with
        | .error e => (.error (.attach pid e), ⟨t, (Host.attach pid h).2⟩)
        | .ok _ => (.ok (.born pid .attach), ⟨t.adopt pid,
          ((Host.attach pid h).2.noted (.attached pid)).noted
            (.stateSet pid .created .attached)⟩) := by
  rw [attach, Recruit.runOn_bind]
  show Recruit.runOn (if t.isTracing pid then _ else _) _ = _
  cases t.isTracing pid with
  | true => rfl
  | false =>
    simp only [Bool.false_eq_true, if_false]
    show Recruit.runOn ((liftM (liftM (Host.attach pid) : Attempt _) : Recruit _) >>= _) _ = _
    rw [Recruit.runOn_bind, Recruit.runOn_lift, Attempt.runOn_lift]
    simp only
    cases (Host.attach pid h).1 <;> rfl

theorem Tracer.runOn_runTraced (c : Command) (layout : Layout) (s : Stage) :
    (runTraced c layout).runOn s = match (spawn c).runOn s with
      | (.error e, u) => (.error e, u)
      | (.ok (.child exit), u) => (.ok (.child exit), u)
      | (.ok (.parent x), u) =>
        let out := (Drive.follow layout).runOn ⟨u.tracer, x, u.host⟩
        (.ok (.parent ⟨out.1, out.2.tracee⟩), ⟨out.2.tracer, out.2.host⟩) := by
  rw [runTraced, Recruit.runOn_bind]
  rcases (spawn c).runOn s with ⟨r, u⟩
  cases r with
  | error e => rfl
  | ok forked =>
    cases forked with
    | child exit => rfl
    | parent x => rfl

theorem Tracer.runTraced_unforked (t : Tracer) (c : Command) (layout : Layout) {h : Host} {e : Errno}
    (forked : (Host.fork h).1 = .error e) :
    (runTraced c layout).runOn ⟨t, h⟩ = (.error (.spawn e), ⟨t, (Host.fork h).2⟩) := by
  rw [runOn_runTraced, runOn_spawn, forked]

theorem Tracer.runTraced_child (t : Tracer) (c : Command) (layout : Layout) {h : Host}
    (child : (Host.fork h).1 = .ok 0) :
    (runTraced c layout).runOn ⟨t, h⟩ = (.ok (.child (c.runChild (Host.fork h).2).1),
      ⟨t, (c.runChild (Host.fork h).2).2⟩) := by
  rw [runOn_runTraced, runOn_spawn, child]
  rfl

/-! ## what spawning and attaching come to -/

/-- the journal has grown by what concerns no tracee -/
def Host.Idled (h g : Host) : Prop :=
  ∃ es, g.journal = es ++ h.journal ∧ ∀ e ∈ es, e.about = none

theorem Tracer.spawn_child (t : Tracer) (c : Command) {h : Host} (child : (Host.fork h).1 = .ok 0) :
    ∃ exit g, (spawn c).runOn ⟨t, h⟩ = (.ok (.child exit), ⟨t, g⟩) ∧ h.Idled g := by
  obtain ⟨es, more, idle⟩ := c.journal_runChild (Host.fork h).2
  rw [runOn_spawn, child]
  refine ⟨_, _, rfl, es ++ [.call (.fork (.ok 0))], ?_, List.forall_mem_append.mpr ⟨idle, ?_⟩⟩
  · rw [more, Host.journal_fork, child, List.append_assoc]
    rfl
  · simp [Entry.about, Syscall.about]

/-- A spawn fails, or ends as the child, with the tracer as it was, or makes a tracee. -/
theorem Tracer.spawn_cases (t : Tracer) (c : Command) (h : Host) :
    (∃ e g, (spawn c).runOn ⟨t, h⟩ = (.error e, ⟨t, g⟩) ∧ h.Idled g) ∨
      (∃ exit g, (spawn c).runOn ⟨t, h⟩ = (.ok (.child exit), ⟨t, g⟩) ∧ h.Idled g) ∨
      ∃ pid g es, (spawn c).runOn ⟨t, h⟩ = (.ok (.parent (.born pid .exec)), ⟨t.adopt pid, g⟩) ∧
        Birth pid .exec es ∧ g.journal = es ++ h.journal := by
  cases forked : (Host.fork h).1 with
  | error e =>
    refine .inl ⟨.spawn e, (Host.fork h).2, ?_, [_], Host.journal_fork h, ?_⟩
    · rw [runOn_spawn, forked]
    · simp [forked, Entry.about, Syscall.about]
  | ok pid =>
    by_cases child : pid = 0
    · exact .inr (.inl (t.spawn_child c (forked.trans (congrArg _ child))))
    · refine .inr (.inr ⟨pid, ((Host.fork h).2.noted (.spawned pid c.program)).noted
        (.stateSet pid .created .attached), _, ?_, .spawned c.program child, ?_⟩)
      · rw [runOn_spawn, forked]
        exact if_neg child
      · rw [Host.noted, Host.noted, Host.journal_fork, forked]
        rfl

/-- A traced run fails where the spawn does, or ends as the child, or drives a tracee from its birth
on. -/
theorem Tracer.runTraced_cases (t : Tracer) (c : Command) (layout : Layout) (h : Host) :
    (∃ e g, (runTraced c layout).runOn ⟨t, h⟩ = (.error e, ⟨t, g⟩) ∧ h.Idled g) ∨
      (∃ exit g, (runTraced c layout).runOn ⟨t, h⟩ = (.ok (.child exit), ⟨t, g⟩) ∧ h.Idled g) ∨
      ∃ pid g es, Birth pid .exec es ∧ g.journal = es ++ h.journal ∧
        let out := (Drive.follow layout).runOn ⟨t.adopt pid, .born pid .exec, g⟩
        (runTraced c layout).runOn ⟨t, h⟩ =
          (.ok (.parent ⟨out.1, out.2.tracee⟩), ⟨out.2.tracer, out.2.host⟩) := by
  rw [runOn_runTraced]
  rcases t.spawn_cases c h with ⟨e, g, run, idled⟩ | ⟨exit, g, run, idled⟩ |
    ⟨pid, g, es, run, birth, written⟩
  · rw [run]
    exact .inl ⟨e, g, rfl, idled⟩
  · rw [run]
    exact .inr (.inl ⟨exit, g, rfl, idled⟩)
  · rw [run]
    exact .inr (.inr ⟨pid, g, es, birth, written, rfl⟩)

/-- An attach fails, with the tracer as it was, or makes a tracee.  It never forks. -/
theorem Tracer.attach_cases (t : Tracer) (pid : Pid) (h : Host) :
    (∃ e g, (Forked.parent <$> attach pid).runOn ⟨t, h⟩ = (.error e, ⟨t, g⟩) ∧ h.Idled g) ∨
      ∃ g es, (Forked.parent <$> attach pid).runOn ⟨t, h⟩ =
          (.ok (.parent (.born pid .attach)), ⟨t.adopt pid, g⟩) ∧
        Birth pid .attach es ∧ g.journal = es ++ h.journal := by
  rw [Recruit.runOn_map, runOn_attach]
  cases t.isTracing pid with
  | true => exact .inl ⟨_, h, rfl, [], rfl, by simp⟩
  | false =>
    have written : (Host.attach pid h).2.journal =
        .call (.attach pid (Host.attach pid h).1) :: h.journal := rfl
    generalize Host.attach pid h = attached at written ⊢
    obtain ⟨reply, g⟩ := attached
    simp only at written ⊢
    cases reply with
    | error e => exact .inl ⟨_, g, rfl, [_], written, by simp [Entry.about, Syscall.about]⟩
    | ok _ =>
      refine .inr ⟨_, _, rfl, .attached, ?_⟩
      rw [Host.noted, Host.noted, written]
      rfl

/-- the process id that a call gave, to the parent -/
def Entry.newPid? : Entry → Option Pid
  | .call (.fork (.ok pid)) => if pid = 0 then none else some pid
  | .call (.attach pid (.ok _)) => some pid
  | _ => none

def Journal.newPids (j : Journal) : List Pid := j.filterMap Entry.newPid?

theorem Birth.mem_newPids {pid : Pid} {first : FirstStop} {es : Journal}
    (birth : Birth pid first es) (later : Journal) : pid ∈ Journal.newPids (later ++ es) := by
  rw [Journal.newPids, List.filterMap_append, List.mem_append]
  right
  cases birth with
  | spawned _ parent => simp [Entry.newPid?, parent]
  | attached => simp [Entry.newPid?]

namespace Session

open Ledger

def ledger (s : Session) (past : Journal) : Ledger := ⟨s.tracers, s.tracees ++ s.abandoned, past⟩

/-- the process ids of all tracees that have not ended, abandoned ones among them -/
def livePids (s : Session) : List Pid := Held.livePids (s.tracees ++ s.abandoned)

/-- Forks and attaches give only process ids that no live tracee has. -/
def Fresh : List (Kernel × Op) → Session → Prop
  | [], _ => True
  | (k, op) :: rest, s =>
    (∀ pid ∈ (s.step k op).1.journal.newPids, pid ∉ s.livePids) ∧ Fresh rest (s.step k op).2

instance decidableFresh : (ops : List (Kernel × Op)) → (s : Session) → Decidable (Fresh ops s)
  | [], _ => isTrue trivial
  | (k, op) :: rest, s =>
    -- runs through the new ids only, not through all there are
    have : Decidable (∀ pid ∈ (s.step k op).1.journal.newPids, pid ∉ s.livePids) :=
      List.decidableBAll _ _
    have := decidableFresh rest (s.step k op).2
    inferInstanceAs (Decidable (_ ∧ _))

/-- the journal of all answers, latest first -/
def chronicle : List Answer → Journal
  | [] => []
  | answer :: rest => chronicle rest ++ answer.journal

/-- the calls of all answers, earliest first -/
def callTrace (answers : List Answer) : List Syscall := answers.flatMap (·.journal.calls)

theorem calls_chronicle (answers : List Answer) : (chronicle answers).calls = callTrace answers := by
  induction answers with
  | nil => rfl
  | cons answer rest ih =>
    rw [chronicle, Journal.calls_append, ih]
    rfl

/-! ## operations -/

/-- A tracer that is put where it is already. -/
theorem set_tracers_self {s : Session} {i : Nat} {t : Tracer} (found : s.tracers[i]? = some t) :
    s.tracers.set i t = s.tracers := by
  obtain ⟨_, tracer⟩ := List.getElem?_eq_some_iff.mp found
  rw [← tracer, List.set_getElem_self]

/-- An operation takes the ledger along its steps, where new process ids are as `may` allows. -/
def Goes (may : Ledger → Pid → Prop) (past : Journal) (s : Session) (out : Answer × Session) :
    Prop :=
  (∀ pid ∈ out.1.journal.newPids, may (s.ledger past) pid) →
    Steps may (s.ledger past) (out.2.ledger (out.1.journal ++ past))

variable {may : Ledger → Pid → Prop} {past : Journal} {s : Session} {k : Kernel}

theorem goes_nowhere (outcome : Outcome) : Goes may past s (⟨outcome, []⟩, s) := fun _ => .refl

theorem withTracer_goes {i : Nat} {f : Tracer → Answer × Session}
    (with_ : ∀ t, s.tracers[i]? = some t → Goes may past s (f t)) :
    Goes may past s (s.withTracer i f) := by
  rw [withTracer]
  cases found : s.tracers[i]? with
  | none => exact goes_nowhere _
  | some t => exact with_ t found

section recruiting

variable {t u : Tracer} {act : Recruit (Forked α)} {g : Host} {back : Session → Tracer → Session}
  {keep : Session → α → Outcome × Session}

theorem recruit_error {e : Error} (run : act.runOn ⟨t, s.host k⟩ = (.error e, ⟨u, g⟩)) :
    s.recruit k t act back keep = (⟨.error e, g.journal⟩, back (s.keepHost g) u) := by
  rw [recruit, run]

theorem recruit_child {exit : Option Int32}
    (run : act.runOn ⟨t, s.host k⟩ = (.ok (.child exit), ⟨u, g⟩)) :
    s.recruit k t act back keep = (⟨.ok (.child exit), g.journal⟩, s) := by
  rw [recruit, run]

theorem recruit_parent {a : α} (run : act.runOn ⟨t, s.host k⟩ = (.ok (.parent a), ⟨u, g⟩)) :
    s.recruit k t act back keep = (⟨(keep (back (s.keepHost g) u) a).1, g.journal⟩,
      (keep (back (s.keepHost g) u) a).2) := by
  rw [recruit, run]

end recruiting

/-- What concerns no tracee leaves the ledger as it is, but for the journal. -/
theorem goes_idle {g : Host} {outcome : Outcome} {u : Session} (idle : (s.host k).Idled g)
    (tracers : u.tracers = s.tracers) (tracees : u.tracees = s.tracees)
    (abandoned : u.abandoned = s.abandoned) : Goes may past s (⟨outcome, g.journal⟩, u) := by
  intro _
  obtain ⟨es, written, none⟩ := idle
  have steps : Steps may (s.ledger past) _ := .idle none
  have written : g.journal = es := by rw [written, host, List.append_nil]
  have after : u.ledger (g.journal ++ past) = { s.ledger past with journal := es ++ past } := by
    rw [ledger, ledger, tracers, tracees, abandoned, written]
  show Steps may _ (u.ledger (g.journal ++ past))
  rw [after]
  exact steps

/-- A failure that leaves the tracer as it was. -/
theorem failed_goes {i : Nat} {t : Tracer} (found : s.tracers[i]? = some t) {g : Host}
    (idle : (s.host k).Idled g) (outcome : Outcome) :
    Goes may past s (⟨outcome, g.journal⟩, (s.keepHost g).setTracer i t) :=
  goes_idle idle (set_tracers_self found) rfl rfl

/-- A birth, with the new tracee handed out. -/
theorem born_goes {i : Nat} {t : Tracer} (found : s.tracers[i]? = some t) {pid : Pid}
    {first : FirstStop} {es : Journal} (birth : Birth pid first es) {g : Host}
    (written : g.journal = es ++ (s.host k).journal) (outcome : Outcome) :
    Goes may past s (⟨outcome, g.journal⟩,
      (keepNew i first ((s.keepHost g).setTracer i (t.adopt pid)) (.born pid first)).2) := by
  intro bears
  have written : g.journal = es := by rw [written, host, List.append_nil]
  have new : pid ∈ g.journal.newPids := written ▸ birth.mem_newPids []
  have step : Step may ⟨s.tracers, s.tracees ++ s.abandoned, past⟩ _ :=
    .born i t found pid first es birth (bears pid new)
  rw [List.append_cons, ← written] at step
  exact .single step

theorem spawn_goes {i : Nat} {t : Tracer} (found : s.tracers[i]? = some t) (c : Command) :
    Goes may past s
      (s.recruit k t (Tracer.spawn c) (·.setTracer i) (keepNew i .exec)) := by
  rcases t.spawn_cases c (s.host k) with ⟨e, g, run, idle⟩ | ⟨exit, g, run, idle⟩ |
    ⟨pid, g, es, run, birth, written⟩
  · rw [recruit_error run]
    exact failed_goes found idle _
  · rw [recruit_child run]
    exact goes_idle idle rfl rfl rfl
  · rw [recruit_parent run]
    exact born_goes found birth written _

theorem attach_goes {i : Nat} {t : Tracer} (found : s.tracers[i]? = some t) (pid : Pid) :
    Goes may past s
      (s.recruit k t (.parent <$> Tracer.attach pid) (·.setTracer i) (keepNew i .attach)) := by
  rcases t.attach_cases pid (s.host k) with ⟨e, g, run, idle⟩ | ⟨g, es, run, birth, written⟩
  · rw [recruit_error run]
    exact failed_goes found idle _
  · rw [recruit_parent run]
    exact born_goes found birth written _

theorem drive_goes {act : Drive α} (follows : act.Follows) (i j : Nat) (value : α → Value) :
    Goes may past s (s.drive k i j act value) := by
  rw [drive]
  cases at_ : s.tracees[j]? with
  | none => exact goes_nowhere _
  | some h =>
    cases found : s.tracers[i]? with
    | none => exact goes_nowhere _
    | some t =>
      have course := follows past ⟨t, h.tracee, s.host k⟩
      simp only
      generalize act.runOn ⟨t, h.tracee, s.host k⟩ = out at course ⊢
      obtain ⟨result, scene⟩ := out
      intro _
      obtain ⟨a, b, whole, changed⟩ := Held.split at_
      have steps : Steps may ⟨s.tracers, a ++ h :: (b ++ s.abandoned), past⟩ _ :=
        .driven found course
      have before : s.ledger past = ⟨s.tracers, a ++ h :: (b ++ s.abandoned), past⟩ := by
        rw [ledger, whole, List.append_assoc, List.cons_append]
      have after : s.tracees.modify j ({ · with tracee := scene.tracee }) ++ s.abandoned =
          a ++ { h with tracee := scene.tracee } :: (b ++ s.abandoned) := by
        rw [changed, List.append_assoc, List.cons_append]
      show Steps may _ ⟨s.tracers.set i scene.tracer,
        s.tracees.modify j ({ · with tracee := scene.tracee }) ++ s.abandoned, _⟩
      rw [before, after]
      exact steps

/-- A tracee is born to be driven at once. -/
theorem runTraced_goes {i : Nat} {t : Tracer} (found : s.tracers[i]? = some t) (c : Command)
    (layout : Layout) : Goes may past s
      (s.recruit k t (Tracer.runTraced c layout) (·.setTracer i) (keepRun i)) := by
  rcases t.runTraced_cases c layout (s.host k) with ⟨e, g, run, idle⟩ | ⟨exit, g, run, idle⟩ |
    ⟨pid, g, es, birth, written, run⟩
  · rw [recruit_error run]
    exact failed_goes found idle _
  · rw [recruit_child run]
    exact goes_idle idle rfl rfl rfl
  · rw [recruit_parent run]
    have start : g.journal = es := by rw [written, host, List.append_nil]
    have course := Drive.follow_follows layout past ⟨t.adopt pid, .born pid .exec, g⟩
    have grown := Drive.follow_follows layout [] ⟨t.adopt pid, .born pid .exec, g⟩
    generalize (Drive.follow layout).runOn ⟨t.adopt pid, .born pid .exec, g⟩ = out at course grown ⊢
    obtain ⟨result, scene⟩ := out
    obtain ⟨later, grown⟩ := grown.entries
    have grown : scene.host.journal = later ++ es := by
      simpa [Scene.course, start] using grown
    intro bears
    have new : pid ∈ scene.host.journal.newPids := grown ▸ birth.mem_newPids later
    have bears : may ⟨s.tracers, (s.tracees ++ s.abandoned) ++ [], past⟩ pid := by
      rw [List.append_nil]
      exact bears pid new
    have birth := Step.born i t found pid .exec es birth bears
    have now : (s.tracers.set i (t.adopt pid))[i]? = some (t.adopt pid) :=
      List.getElem?_set_self (List.getElem?_eq_some_iff.mp found).1
    have run : Steps may ⟨_, (s.tracees ++ s.abandoned) ++ ⟨i, .exec, .born pid .exec⟩ :: [], _⟩ _ :=
      .driven now course
    rw [← start] at birth
    rw [List.set_set] at run
    have steps := (Relation.ReflTransGen.single birth).trans run
    rw [List.append_nil] at steps
    show Steps may _ ⟨_, s.tracees ++ (s.abandoned ++ _), _⟩
    rw [← List.append_assoc]
    exact steps

/-- The child makes no tracee in this session. -/
theorem spawnChild_goes (c : Command) : Goes may past s (s.step k (.spawnChild c)) := by
  obtain ⟨exit, g, run, idle⟩ := Tracer.new.spawn_child c (h := s.host { k with forks := [.ok 0] }) rfl
  rw [step, recruit_child run]
  exact goes_idle idle rfl rfl rfl

theorem look_goes {h : Held} (mem : h ∈ s.tracees) (look : Look) :
    Goes may past s (s.inspect k h.tracee look) := by
  intro _
  obtain ⟨es, written, looks⟩ := Look.run_looks h.tracee look (s.host k)
  have steps : Steps may (s.ledger past) _ := .looked (List.mem_append_left _ mem) looks
  rw [inspect]
  generalize (look.run h.tracee).runOn (s.host k) = out at written ⊢
  obtain ⟨result, g⟩ := out
  have looked : g.journal = es := by rw [written, host, List.append_nil]
  rw [← looked] at steps
  exact steps

/-! ## every operation -/

theorem step_goes (s : Session) (k : Kernel) (op : Op) : Goes may past s (s.step k op) := by
  cases op with
  | spawn i c => exact withTracer_goes fun t found => spawn_goes found c
  | spawnChild c => exact spawnChild_goes c
  | attach i pid => exact withTracer_goes fun t found => attach_goes found pid
  | wait i j => exact drive_goes Drive.wait_follows i j _
  | waitForExec i j => exact drive_goes Drive.waitForExec_follows i j _
  | resume i j => exact drive_goes Drive.resume_follows i j _
  | kill i j => exact drive_goes Drive.kill_follows i j _
  | runTraced i c layout => exact withTracer_goes fun t found => runTraced_goes found c layout
  | setOptions i options =>
    exact withTracer_goes fun t found _ => .single (.options i t found options)
  | isTracing i pid => exact withTracer_goes fun t _ => goes_nowhere _
  | sameTracer i j =>
    exact withTracer_goes fun t _ => withTracer_goes fun u _ => goes_nowhere _
  | sameTracee i j =>
    rw [step]
    cases s.tracees[i]? with
    | none => exact goes_nowhere _
    | some t => cases s.tracees[j]? <;> exact goes_nowhere _
  | look j look =>
    rw [step]
    cases at_ : s.tracees[j]? with
    | none => exact goes_nowhere _
    | some h => exact look_goes (List.mem_of_getElem? at_) look

theorem run_goes {ops : List (Kernel × Op)} {s : Session} (fresh : Fresh ops s) (past : Journal) :
    Steps Ledger.Fresh (s.ledger past)
      ((run ops s).2.ledger (chronicle (run ops s).1 ++ past)) := by
  induction ops generalizing s past with
  | nil => exact .refl
  | cons first rest ih =>
    obtain ⟨k, op⟩ := first
    obtain ⟨now, later⟩ := fresh
    have first : Steps Ledger.Fresh (s.ledger past) _ := step_goes s k op now
    have rest := ih later ((s.step k op).1.journal ++ past)
    rw [← List.append_assoc] at rest
    exact first.trans rest

/-! ## a command to run -/

theorem zero_free_ls : (0 : UInt8) ∉ [0x6c, 0x73] := by decide

def ls : Command :=
  let path : CString := ⟨[0x6c, 0x73], zero_free_ls⟩
  ⟨path, path, [], none⟩

end Session

end ProcTrace
