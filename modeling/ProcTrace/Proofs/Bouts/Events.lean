import ProcTrace.Proofs.Bouts
import ProcTrace.Proofs.Doings

/-!
# The bouts of a session

What is done in a session is told bout by bout, each with the place of the tracee that it is a bout
of.  The calls of all bouts are the calls of the session.

* `Event`, `Event.life`    a bout and its place; the bouts of one place;
* `Session.entry`          the scene on which an operation begins to drive a tracee;
* `Session.Eventful`       the events of one operation;
* `Session.Recounts`       what they say of every tracee, and of the calls;
* `Session.Tells`          the events of a run, operation after operation;
* `Session.exists_tells`   every run has events;
* `Session.Tells.happens`  each of them happens in an operation;
* `Session.Tells.passes`   each tracee goes through the bouts of its place, from its birth on.
-/

namespace ProcTrace

/-! ## events -/

/-- A bout with the place of its tracee.  Calls that are made for no tracee that was there have no
place. -/
structure Event where
  place : Option Place
  bout : Bout

namespace Event

/-- what the tracee at a place goes through -/
def life (p : Place) (evs : List Event) : List Bout :=
  (evs.filter (·.place = some p)).map (·.bout)

theorem life_append (p : Place) (evs more : List Event) :
    life p (evs ++ more) = life p evs ++ life p more := by
  rw [life, List.filter_append, List.map_append]
  rfl

theorem life_cons_none (p : Place) (b : Bout) (evs : List Event) :
    life p (⟨none, b⟩ :: evs) = life p evs := rfl

theorem life_split (p : Place) (b : Bout) (earlier later : List Event) :
    life p (earlier ++ ⟨some p, b⟩ :: later) = life p earlier ++ b :: life p later := by
  rw [life_append]
  simp [life]

theorem mem_life {p : Place} {evs : List Event} {b : Bout} :
    b ∈ life p evs ↔ ⟨some p, b⟩ ∈ evs := by
  rw [life, List.mem_map]
  constructor
  · rintro ⟨⟨place, bout⟩, mem, rfl⟩
    obtain ⟨mem, here⟩ := List.mem_filter.mp mem
    cases of_decide_eq_true here
    exact mem
  · exact fun mem => ⟨_, List.mem_filter.mpr ⟨mem, decide_eq_true rfl⟩, rfl⟩

/-- The bouts of one tracee are its life, and no part of the life of another. -/
theorem life_of_one (p q : Place) (bs : List Bout) :
    life p (bs.map (⟨some q, ·⟩)) = if q = p then bs else [] := by
  by_cases here : q = p
  · subst here
    rw [life, List.filter_eq_self.mpr (by simp), List.map_map, if_pos rfl]
    exact List.map_id bs
  · rw [life, List.filter_eq_nil_iff.mpr (by simp [here]), if_neg here]
    rfl

end Event

/-! ## the events of an operation -/

/-- what an operation that drives a tracee does on its scene -/
def Op.drive : Op → Scene → Scene
  | wait _ _, e => (Drive.wait.runOn e).2
  | waitForExec _ _, e => (Drive.waitForExec.runOn e).2
  | resume _ _, e => (Drive.resume.runOn e).2
  | kill _ _, e => (Drive.kill.runOn e).2
  | runTraced _ _ layout, e => ((Drive.follow layout).runOn e).2
  | _, e => e

/-- the position of the tracer that does an operation -/
def Op.tracer? : Op → Option Nat
  | spawn i _ | attach i _ | wait i _ | waitForExec i _ | resume i _ | kill i _ | runTraced i _ _
  | setOptions i _ | isTracing i _ | sameTracer i _ => some i
  | spawnChild _ | sameTracee _ _ | look _ _ => none

namespace Session

open Event

/-- a tracee that is there on a scene with a tracer that is there -/
def scene? (s : Session) (k : Kernel) (tracer tracee : Nat) : Option (Place × Scene) :=
  match s.tracees[tracee]?, s.tracers[tracer]? with
  | some h, some t => some (.held tracee, ⟨t, h.tracee, s.host k⟩)
  | _, _ => none

/-- The scene on which an operation begins to drive a tracee, and the place of the tracee.  A
program that is traced is driven from its birth on. -/
def entry (s : Session) (k : Kernel) : Op → Option (Place × Scene)
  | .wait i j | .waitForExec i j | .resume i j | .kill i j => s.scene? k i j
  | .runTraced i command _ =>
    match s.tracers[i]? with
    | none => none
    | some t => match (Tracer.spawn command).runOn ⟨t, s.host k⟩ with
      | (.ok (.parent x), u) => some (.abandoned s.abandoned.length, ⟨u.tracer, x, u.host⟩)
      | _ => none
  | _ => none

theorem entry_runTraced {s : Session} {k : Kernel} {i : Nat} {t : Tracer}
    (found : s.tracers[i]? = some t) (command : Command) (layout : Layout) :
    s.entry k (.runTraced i command layout) = match (Tracer.spawn command).runOn ⟨t, s.host k⟩ with
      | (.ok (.parent x), u) => some (.abandoned s.abandoned.length, ⟨u.tracer, x, u.host⟩)
      | _ => none := by
  rw [entry, found]

/-- The events of an operation.  Where it drives a tracee, they are the bouts of that, after the
calls that were made before; where it drives none, its calls belong to no tracee. -/
def Eventful (s : Session) (k : Kernel) (op : Op) (evs : List Event) : Prop :=
  match s.entry k op with
  | none => evs = [⟨none, .between (s.step k op).1.journal.calls⟩]
  | some (p, e) => ∃ bs, Drive.Bouts e bs (op.drive e) ∧
      evs = ⟨none, .between e.host.journal.calls⟩ :: bs.map (⟨some p, ·⟩)

theorem eventful_of_none {s : Session} {k : Kernel} {op : Op} {evs : List Event}
    (idle : s.entry k op = none) :
    s.Eventful k op evs ↔ evs = [⟨none, .between (s.step k op).1.journal.calls⟩] := by
  rw [Eventful, idle]

theorem eventful_of_some {s : Session} {k : Kernel} {op : Op} {evs : List Event} {p : Place}
    {e : Scene} (begins : s.entry k op = some (p, e)) :
    s.Eventful k op evs ↔ ∃ bs, Drive.Bouts e bs (op.drive e) ∧
      evs = ⟨none, .between e.host.journal.calls⟩ :: bs.map (⟨some p, ·⟩) := by
  rw [Eventful, begins]

/-- Whoever begins to drive a tracee has the options of the tracer that does the operation. -/
theorem exists_tracer_of_entry {s : Session} {k : Kernel} {op : Op} {p : Place} {e : Scene}
    (begins : s.entry k op = some (p, e)) :
    ∃ i t, op.tracer? = some i ∧ s.tracers[i]? = some t ∧ e.tracer.options = t.options := by
  have of_scene {i j : Nat} (begins : s.scene? k i j = some (p, e)) :
      ∃ t, s.tracers[i]? = some t ∧ e.tracer.options = t.options := by
    rw [scene?] at begins
    split at begins
    · rename_i t _ found
      cases begins
      exact ⟨t, found, rfl⟩
    · cases begins
  cases op with
  | wait i j | waitForExec i j | resume i j | kill i j =>
    obtain ⟨t, found, same⟩ := of_scene begins
    exact ⟨i, t, rfl, found, same⟩
  | runTraced i command layout =>
    cases found : s.tracers[i]? with
    | none =>
      rw [entry, found] at begins
      cases begins
    | some t =>
      rw [entry_runTraced found] at begins
      rcases t.spawn_cases command (s.host k) with ⟨_, g, spawn, _⟩ | ⟨_, g, spawn, _⟩ |
        ⟨pid, g, _, spawn, _⟩
      · rw [spawn] at begins
        cases begins
      · rw [spawn] at begins
        cases begins
      · rw [spawn] at begins
        cases begins
        exact ⟨i, t, rfl, found, rfl⟩
  | spawn _ _ | spawnChild _ | attach _ _ | setOptions _ _ | isTracing _ _ | sameTracer _ _
  | sameTracee _ _ | look _ _ => cases begins

/-- Whoever waits in an operation has the options of the tracer that does it. -/
theorem Eventful.options {s : Session} {k : Kernel} {op : Op} {evs : List Event}
    (eventful : s.Eventful k op evs) {p : Option Place} {o : Options} {calls : List Syscall}
    {gave : Except Error Stop} (mem : ⟨p, .wait o calls gave⟩ ∈ evs) :
    ∃ i t, op.tracer? = some i ∧ s.tracers[i]? = some t ∧ o = t.options := by
  cases begins : s.entry k op with
  | none =>
    rw [(eventful_of_none begins).mp eventful] at mem
    cases List.mem_singleton.mp mem
  | some entry =>
    obtain ⟨q, e⟩ := entry
    obtain ⟨bs, bouts, rfl⟩ := (eventful_of_some begins).mp eventful
    obtain ⟨i, t, does, found, same⟩ := exists_tracer_of_entry begins
    rcases List.mem_cons.mp mem with here | later
    · cases here
    · obtain ⟨b, inside, here⟩ := List.mem_map.mp later
      cases here
      exact ⟨i, t, does, found, (bouts.options inside).trans same⟩

/-- what the events between two sessions say of every tracee, and of the calls that were made -/
structure Recounts (s u : Session) (journal : Journal) (evs : List Event) : Prop where
  calls : journal.calls = evs.flatMap (·.bout.calls)
  absent {p : Place} (gone : u.at? p = none) : s.at? p = none ∧ life p evs = []
  passes {p : Place} {h : Held} (at_ : u.at? p = some h) :
    (∃ g, s.at? p = some g ∧ h.origin = g.origin ∧ Passes g.tracee (life p evs) h.tracee) ∨
      s.at? p = none ∧ Passes (.born h.tracee.pid h.origin) (life p evs) h.tracee
  /-- No call without a place is a wait or sets options. -/
  aside : ∀ ev ∈ evs, ev.place = none → ∀ c ∈ ev.bout.calls, c.isAside = true

/-! ## operations that drive no tracee -/

variable {s u : Session} {k : Kernel} {op : Op} {journal : Journal}

theorem isAside_of_idle (idle : ∀ e ∈ journal, e.about = none) :
    ∀ c ∈ journal.calls, c.isAside = true := by
  intro c mem
  have about : c.about = none := idle _ (Journal.mem_calls.mp mem)
  cases c with
  | waitpid _ _ | setOptions _ _ _ => cases about
  | fork _ | kill _ _ _ | attach _ _ | cont _ _ _ | traceMe _ | peekUser _ _ _ | peekData _ _ _
  | getRegisterSet _ _ | exec _ _ _ _ | exit _ => rfl

theorem isAside_of_birth {pid : Pid} {first : FirstStop} (birth : Birth pid first journal) :
    ∀ c ∈ journal.calls, c.isAside = true := by
  intro c mem
  have mem := Journal.mem_calls.mp mem
  cases birth with
  | spawned _ _ | attached =>
    simp only [List.mem_cons, List.not_mem_nil, or_false, reduceCtorEq, false_or] at mem
    cases mem
    rfl

/-- Nothing was driven: no tracee goes through anything, and a new one was just born. -/
theorem recounts_of_still (aside : ∀ c ∈ journal.calls, c.isAside = true)
    (at_ : ∀ {p h}, u.at? p = some h → s.at? p = some h ∨
      s.at? p = none ∧ h.tracee = .born h.tracee.pid h.origin)
    (absent : ∀ {p}, u.at? p = none → s.at? p = none) :
    Recounts s u journal [⟨none, .between journal.calls⟩] where
  calls := (List.append_nil _).symm
  absent none := ⟨absent none, rfl⟩
  passes {p h} now := by
    rcases at_ now with before | ⟨none, born⟩
    · exact .inl ⟨h, before, rfl, .refl _⟩
    · rw [← born]
      exact .inr ⟨none, .refl _⟩
  aside ev mem _ := by
    cases List.mem_singleton.mp mem
    exact aside

theorem recounts_of_same (aside : ∀ c ∈ journal.calls, c.isAside = true)
    (tracees : u.tracees = s.tracees) (abandoned : u.abandoned = s.abandoned) :
    Recounts s u journal [⟨none, .between journal.calls⟩] :=
  recounts_of_still aside (fun at_ => .inl ((at?_congr tracees abandoned _).symm.trans at_))
    fun gone => (at?_congr tracees abandoned _).symm.trans gone

/-- An operation that drives none may make one. -/
theorem Moved.recounts {answer : Answer} (moved : Moved s op (answer, u))
    (idle : op.drives = false) :
    Recounts s u answer.journal [⟨none, .between answer.journal.calls⟩] := by
  cases moved with
  | aside off tracees abandoned idle =>
    exact recounts_of_same (isAside_of_idle idle) tracees abandoned
  | missing outcome on none => exact recounts_of_same (by simp [Journal.calls]) rfl rfl
  | looked on at_ looks tracees abandoned =>
    exact recounts_of_same (Drive.isAside_of_looks looks) tracees abandoned
  | traced _ drives => cases idle.symm.trans drives
  | driven _ drives => cases idle.symm.trans drives
  | born off i pid first birth tracees abandoned =>
    refine recounts_of_still (isAside_of_birth birth) (fun {p h} now => ?_) fun {p} gone => ?_
    · cases p with
      | held j =>
        rw [at?, tracees] at now
        rcases getElem?_concat_some now with before | ⟨absent, rfl⟩
        · exact .inl before
        · exact .inr ⟨absent, rfl⟩
      | abandoned m =>
        rw [at?, abandoned] at now
        exact .inl now
    · exact (Moved.born off i pid first birth tracees abandoned).absent gone

/-! ## operations that drive a tracee -/

/-- Bouts of driving, after calls that were made before. -/
theorem recounts_of_bouts {e v : Scene} {bs : List Bout} (bouts : Drive.Bouts e bs v)
    (before : ∀ c ∈ e.host.journal.calls, c.isAside = true)
    (written : v.host.journal = journal) {q : Place} {h : Held} (at_ : u.at? q = some h)
    (tracee : h.tracee = v.tracee)
    (begun : (∃ g, s.at? q = some g ∧ h.origin = g.origin ∧ g.tracee = e.tracee) ∨
      s.at? q = none ∧ e.tracee = .born h.tracee.pid h.origin)
    (others : ∀ p, p ≠ q → u.at? p = s.at? p) :
    Recounts s u journal (⟨none, .between e.host.journal.calls⟩ :: bs.map (⟨some q, ·⟩)) := by
  refine ⟨?_, fun {p} gone => ?_, fun {p g} now => ?_, ?_⟩
  · rw [← written, bouts.calls_eq, List.flatMap_cons, List.flatMap_map]
    rfl
  · rw [life_cons_none, life_of_one]
    by_cases here : q = p
    · subst here
      cases at_.symm.trans gone
    · exact ⟨(others p (Ne.symm here)).symm.trans gone, if_neg here⟩
  · rw [life_cons_none, life_of_one]
    by_cases here : q = p
    · subst here
      cases at_.symm.trans now
      rw [if_pos rfl, tracee]
      rcases begun with ⟨g, before, origin, same⟩ | ⟨none, born⟩
      · exact .inl ⟨g, before, origin, same ▸ bouts.passes⟩
      · refine .inr ⟨none, ?_⟩
        rw [← tracee, ← born, tracee]
        exact bouts.passes
    · rw [if_neg here]
      exact .inl ⟨g, (others p (Ne.symm here)).symm.trans now, rfl, .refl _⟩
  · rintro ev mem' none
    rcases List.mem_cons.mp mem' with rfl | later
    · exact before
    · obtain ⟨b, _, rfl⟩ := List.mem_map.mp later
      cases none

/-- Of four operations on a tracee that is handed out, each drives it in its own way. -/
theorem drive_recounts {i j : Nat} {act : Drive α} {value : α → Value} {evs : List Event}
    (begins : s.entry k op = s.scene? k i j) (does : ∀ e, op.drive e = (act.runOn e).2)
    (step : s.step k op = s.drive k i j act value) (eventful : s.Eventful k op evs) :
    Recounts s (s.step k op).2 (s.step k op).1.journal evs := by
  rw [scene?] at begins
  cases at_ : s.tracees[j]? with
  | none =>
    rw [at_] at begins
    rw [(eventful_of_none begins).mp eventful, step, drive, at_]
    exact recounts_of_same (by simp [Journal.calls]) rfl rfl
  | some g =>
    cases found : s.tracers[i]? with
    | none =>
      rw [at_, found] at begins
      rw [(eventful_of_none begins).mp eventful, step, drive, at_, found]
      exact recounts_of_same (by simp [Journal.calls]) rfl rfl
    | some t =>
      rw [at_, found] at begins
      obtain ⟨bs, bouts, rfl⟩ := (eventful_of_some begins).mp eventful
      rw [does] at bouts
      rw [step, drive_eq found at_]
      generalize act.runOn ⟨t, g.tracee, s.host k⟩ = out at bouts ⊢
      have now : (s.tracees.modify j ({ · with tracee := out.2.tracee }))[j]? =
          some { g with tracee := out.2.tracee } := by
        rw [List.getElem?_modify_eq, at_]
        rfl
      refine recounts_of_bouts bouts (by simp [host, Journal.calls]) rfl (q := .held j) now rfl
        (.inl ⟨g, at_, rfl, rfl⟩) ?_
      intro p other
      cases p with
      | held l =>
        have apart : j ≠ l := fun same => other (congrArg Place.held same.symm)
        exact List.getElem?_modify_ne _ _ apart
      | abandoned m => rfl

/-- A program that is traced has a place behind all that were abandoned before. -/
theorem traced_recounts {i : Nat} {t : Tracer} {pid : Pid} {es : Journal}
    (birth : Birth pid .exec es) {g : Host} (written : g.journal = es) {v : Scene}
    {bs : List Bout} (bouts : Drive.Bouts ⟨t.adopt pid, .born pid .exec, g⟩ bs v)
    (tracees : u.tracees = s.tracees)
    (abandoned : u.abandoned = s.abandoned ++ [⟨i, .exec, v.tracee⟩]) :
    Recounts s u v.host.journal (⟨none, .between g.journal.calls⟩ ::
      bs.map (⟨some (.abandoned s.abandoned.length), ·⟩)) := by
  have now : u.at? (.abandoned s.abandoned.length) = some ⟨i, .exec, v.tracee⟩ := by
    rw [at?, abandoned, List.getElem?_concat_length]
  have pid : v.tracee.pid = pid := bouts.passes.pid
  refine recounts_of_bouts bouts ?_ rfl now rfl (.inr ⟨?_, ?_⟩) fun p other => ?_
  · rw [written]
    exact isAside_of_birth birth
  · exact List.getElem?_eq_none (Nat.le_refl _)
  · rw [pid]
  · cases p with
    | held j => rw [at?, at?, tracees]
    | abandoned m =>
      have apart : m ≠ s.abandoned.length := fun same => other (congrArg Place.abandoned same)
      rcases Nat.lt_or_gt_of_ne apart with before | behind
      · rw [at?, at?, abandoned, List.getElem?_append_left before]
      · have none : u.abandoned[m]? = none := by
          rw [abandoned, List.getElem?_eq_none_iff, List.length_append]
          exact behind
        rw [at?, at?, none, List.getElem?_eq_none (Nat.le_of_lt behind)]

theorem runTraced_recounts {i : Nat} {command : Command} {layout : Layout} {evs : List Event}
    (eventful : s.Eventful k (.runTraced i command layout) evs) :
    Recounts s (s.step k (.runTraced i command layout)).2
      (s.step k (.runTraced i command layout)).1.journal evs := by
  -- nobody was traced
  have nowhere {u : Session} {answer : Answer}
      (step : s.step k (.runTraced i command layout) = (answer, u))
      (idle : s.entry k (.runTraced i command layout) = none)
      (aside : ∀ c ∈ answer.journal.calls, c.isAside = true) (tracees : u.tracees = s.tracees)
      (abandoned : u.abandoned = s.abandoned) :
      Recounts s (s.step k (.runTraced i command layout)).2
        (s.step k (.runTraced i command layout)).1.journal evs := by
    rw [(eventful_of_none idle).mp eventful, step]
    exact recounts_of_same aside tracees abandoned
  cases found : s.tracers[i]? with
  | none =>
    exact nowhere (by rw [step, withTracer, found]) (by rw [entry, found])
      (by simp [Journal.calls]) rfl rfl
  | some t =>
    have there : s.step k (.runTraced i command layout) =
        s.recruit k t (Tracer.runTraced command layout) (·.setTracer i) (keepRun i) := by
      rw [step, withTracer, found]
    have run := Tracer.runOn_runTraced command layout ⟨t, s.host k⟩
    rcases t.spawn_cases command (s.host k) with ⟨e, g, spawn, idled⟩ | ⟨exit, g, spawn, idled⟩ |
      ⟨pid, g, es, spawn, birth, written⟩
    · rw [spawn] at run
      obtain ⟨es, written, idle⟩ := idled
      exact nowhere (there.trans (recruit_error run)) (by rw [entry_runTraced found, spawn])
        (isAside_of_idle (journal_of_host written ▸ idle)) rfl rfl
    · rw [spawn] at run
      obtain ⟨es, written, idle⟩ := idled
      exact nowhere (there.trans (recruit_child run)) (by rw [entry_runTraced found, spawn])
        (isAside_of_idle (journal_of_host written ▸ idle)) rfl rfl
    · rw [spawn] at run
      have begins : s.entry k (.runTraced i command layout) =
          some (.abandoned s.abandoned.length, ⟨t.adopt pid, .born pid .exec, g⟩) := by
        rw [entry_runTraced found, spawn]
      obtain ⟨bs, bouts, rfl⟩ := (eventful_of_some begins).mp eventful
      rw [there, recruit_parent run]
      exact traced_recounts birth (journal_of_host written) bouts rfl rfl

theorem step_recounts {evs : List Event} (eventful : s.Eventful k op evs) :
    Recounts s (s.step k op).2 (s.step k op).1.journal evs := by
  have still (idle : s.entry k op = none) (drives : op.drives = false) :
      Recounts s (s.step k op).2 (s.step k op).1.journal evs := by
    rw [(eventful_of_none idle).mp eventful]
    exact (step_moved s k op).recounts drives
  cases op with
  | wait i j => exact drive_recounts rfl (fun _ => rfl) rfl eventful
  | waitForExec i j => exact drive_recounts rfl (fun _ => rfl) rfl eventful
  | resume i j => exact drive_recounts rfl (fun _ => rfl) rfl eventful
  | kill i j => exact drive_recounts rfl (fun _ => rfl) rfl eventful
  | runTraced i command layout => exact runTraced_recounts eventful
  | spawn _ _ | spawnChild _ | attach _ _ | setOptions _ _ | isTracing _ _ | sameTracer _ _
  | sameTracee _ _ | look _ _ => exact still rfl rfl

/-- The actions that operations do on their scenes go by bouts. -/
theorem exists_eventful (s : Session) (k : Kernel) (op : Op) : ∃ evs, s.Eventful k op evs := by
  cases begins : s.entry k op with
  | none => exact ⟨_, (eventful_of_none begins).mpr rfl⟩
  | some entry =>
    obtain ⟨p, e⟩ := entry
    have linked : Drive.Linked e (op.drive e) := by
      cases op with
      | wait _ _ => exact Drive.wait_byBouts e
      | waitForExec _ _ => exact Drive.waitForExec_byBouts e
      | resume _ _ => exact Drive.resume_byBouts e
      | kill _ _ => exact Drive.kill_byBouts e
      | runTraced _ _ layout => exact Drive.follow_byBouts layout e
      | spawn _ _ | spawnChild _ | attach _ _ | setOptions _ _ | isTracing _ _ | sameTracer _ _
      | sameTracee _ _ | look _ _ => exact .refl e
    obtain ⟨bs, bouts⟩ := linked
    exact ⟨_, (eventful_of_some begins).mpr ⟨bs, bouts, rfl⟩⟩

/-! ## the events of a run -/

/-- The events of a run, operation after operation. -/
def Tells : List (Kernel × Op) → Session → List Event → Prop
  | [], _, evs => evs = []
  | (k, op) :: rest, s, evs => ∃ now later, evs = now ++ later ∧ s.Eventful k op now ∧
      Tells rest (s.step k op).2 later

/-- Every run has events. -/
theorem exists_tells (ops : List (Kernel × Op)) (s : Session) : ∃ evs, Tells ops s evs := by
  induction ops generalizing s with
  | nil => exact ⟨[], rfl⟩
  | cons first rest ih =>
    obtain ⟨k, op⟩ := first
    obtain ⟨now, eventful⟩ := exists_eventful s k op
    obtain ⟨later, tells⟩ := ih (s.step k op).2
    exact ⟨_, now, later, rfl, eventful, tells⟩

/-- The calls of the events are all that were made. -/
theorem Tells.calls {ops : List (Kernel × Op)} {evs : List Event} (tells : Tells ops s evs) :
    callTrace (run ops s).1 = evs.flatMap (·.bout.calls) := by
  induction ops generalizing s evs with
  | nil =>
    cases tells
    rfl
  | cons first rest ih =>
    obtain ⟨k, op⟩ := first
    obtain ⟨now, later, rfl, eventful, tells⟩ := tells
    rw [List.flatMap_append, ← ih tells, ← (step_recounts eventful).calls]
    rfl

theorem tells_concat {ops : List (Kernel × Op)} {evs : List Event} :
    Tells (ops ++ [(k, op)]) s evs ↔ ∃ before now, evs = before ++ now ∧ Tells ops s before ∧
      (run ops s).2.Eventful k op now := by
  induction ops generalizing s evs with
  | nil =>
    constructor
    · rintro ⟨now, later, rfl, eventful, rfl⟩
      exact ⟨[], now, List.append_nil now, rfl, eventful⟩
    · rintro ⟨_, now, rfl, rfl, eventful⟩
      exact ⟨now, [], (List.append_nil now).symm, eventful, rfl⟩
  | cons first rest ih =>
    obtain ⟨l, op'⟩ := first
    constructor
    · rintro ⟨now, later, rfl, eventful, tells⟩
      obtain ⟨before, last, rfl, tells, ends⟩ := ih.mp tells
      exact ⟨now ++ before, last, (List.append_assoc ..).symm, ⟨now, before, rfl, eventful, tells⟩,
        ends⟩
    · rintro ⟨_, last, rfl, ⟨now, before, rfl, eventful, tells⟩, ends⟩
      exact ⟨now, before ++ last, List.append_assoc .., eventful,
        ih.mpr ⟨before, last, rfl, tells, ends⟩⟩

/-- The event that follows these in a run happens in this operation, which is done after those. -/
structure Happens (ops : List (Kernel × Op)) (s : Session) (earlier : List Event) (ev : Event)
    (before : List (Kernel × Op)) (k : Kernel) (op : Op) : Prop where
  split : ∃ after, ops = before ++ (k, op) :: after
  events : ∃ told now rest, earlier = told ++ now ∧ Tells before s told ∧
    (run before s).2.Eventful k op (now ++ ev :: rest)

/-- Every event of a run happens in an operation. -/
theorem Tells.happens {ops : List (Kernel × Op)} {earlier later : List Event} {ev : Event}
    (tells : Tells ops s (earlier ++ ev :: later)) :
    ∃ before k op, Happens ops s earlier ev before k op := by
  induction ops generalizing s earlier with
  | nil => cases (List.append_eq_nil_iff.mp tells).2
  | cons first others ih =>
    obtain ⟨k, op⟩ := first
    obtain ⟨now, more, split, eventful, tells⟩ := tells
    rcases append_cons_cases split with ⟨rest, rfl, _⟩ | ⟨between, rfl, rfl⟩
    · exact ⟨[], k, op, ⟨others, rfl⟩, [], earlier, rest, rfl, rfl, eventful⟩
    · obtain ⟨before, l, next, ⟨after, rfl⟩, told, now', rest, rfl, tells, eventful'⟩ := ih tells
      exact ⟨(k, op) :: before, l, next, ⟨after, rfl⟩, now ++ told, now', rest,
        (List.append_assoc ..).symm, ⟨now, told, rfl, eventful, tells⟩, eventful'⟩

variable {ops : List (Kernel × Op)} {evs : List Event} {n : Nat} {p : Place}

/-- From its birth on a tracee goes through the bouts of its place, and no others. -/
theorem Tells.lives (tells : Tells ops (new n) evs) :
    ((run ops (new n)).2.at? p = none → life p evs = []) ∧
      ∀ {h}, (run ops (new n)).2.at? p = some h →
        Passes (.born h.tracee.pid h.origin) (life p evs) h.tracee := by
  induction ops using List.reverseRecOn generalizing evs with
  | nil =>
    cases tells
    refine ⟨fun _ => rfl, fun at_ => ?_⟩
    cases p <;> cases at_
  | append_singleton ops last ih =>
    obtain ⟨k, op⟩ := last
    obtain ⟨before, now, rfl, tells, eventful⟩ := tells_concat.mp tells
    obtain ⟨unmade, lived⟩ := ih tells
    have recounts := step_recounts eventful
    rw [run_concat, life_append]
    refine ⟨fun gone => ?_, fun {h} at_ => ?_⟩
    · obtain ⟨absent, none⟩ := recounts.absent gone
      rw [unmade absent, none]
      rfl
    · rcases recounts.passes at_ with ⟨g, old, origin, passes⟩ | ⟨absent, passes⟩
      · refine Passes.append.mpr ⟨g.tracee, ?_, passes⟩
        rw [passes.pid, origin]
        exact lived old
      · rw [unmade absent]
        exact passes

theorem Tells.passes {h : Held} (tells : Tells ops (new n) evs)
    (at_ : (run ops (new n)).2.at? p = some h) :
    Passes (.born h.tracee.pid h.origin) (life p evs) h.tracee := tells.lives.2 at_

/-- There is a tracee wherever there are bouts. -/
theorem Tells.exists_at {b : Bout} (tells : Tells ops (new n) evs) (mem : ⟨some p, b⟩ ∈ evs) :
    ∃ h, (run ops (new n)).2.at? p = some h := by
  cases at_ : (run ops (new n)).2.at? p with
  | some h => exact ⟨h, rfl⟩
  | none =>
    have none := mem_life.mpr mem
    rw [tells.lives.1 at_] at none
    cases none

theorem Tells.aside (tells : Tells ops s evs) :
    ∀ ev ∈ evs, ev.place = none → ∀ c ∈ ev.bout.calls, c.isAside = true := by
  induction ops generalizing s evs with
  | nil =>
    cases tells
    simp
  | cons first rest ih =>
    obtain ⟨k, op⟩ := first
    obtain ⟨now, later, rfl, eventful, tells⟩ := tells
    exact List.forall_mem_append.mpr ⟨(step_recounts eventful).aside, ih tells⟩

end Session

end ProcTrace
