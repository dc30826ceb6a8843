import ProcTrace.Proofs.Dialogue.Drive

/-!
# Bouts of driving

Driving a tracee comes in bouts: each is one wait, or what is done between two waits.

* `Bout`                   a wait with its calls and what it gave, or the calls between two waits;
* `Drive.Bouts`            the bouts by which driving goes from one scene to another;
* `Drive.ByBouts`          an action that goes by bouts, wherever it is begun: every action does,
                           the loops turn by turn;
* `Bout.Moves`             what a bout may do with tracer and tracee;
* `Passes`, `Passes.append`   what a tracee goes through, bout after bout, by whatever tracer.
-/

namespace ProcTrace

open Course

/-! ## lists of lists -/

/-- An element of a list that is put together of two is in the first or in the second. -/
theorem append_cons_cases {front back first second : List α} {a : α}
    (same : front ++ a :: back = first ++ second) :
    (∃ rest, first = front ++ a :: rest ∧ back = rest ++ second) ∨
      ∃ rest, front = first ++ rest ∧ second = rest ++ a :: back := by
  rcases List.append_eq_append_iff.mp same with ⟨_ | ⟨b, rest⟩, rfl, split⟩ | ⟨rest, rfl, split⟩
  · exact .inr ⟨[], by simp, split.symm⟩
  · cases split
    exact .inl ⟨rest, rfl, rfl⟩
  · exact .inr ⟨rest, rfl, split⟩

/-- A list that is put together of many, at an element of one of these. -/
theorem exists_of_flatMap_eq {f : α → List β} {as : List α} {before after : List β} {b : β}
    (split : as.flatMap f = before ++ b :: after) : ∃ earlier a later front back,
      as = earlier ++ a :: later ∧ f a = front ++ b :: back ∧
      before = earlier.flatMap f ++ front ∧ after = back ++ later.flatMap f := by
  induction as generalizing before with
  | nil => cases (List.append_eq_nil_iff.mp split.symm).2
  | cons a as ih =>
    rw [List.flatMap_cons] at split
    rcases append_cons_cases split.symm with ⟨back, here, rfl⟩ | ⟨before, rfl, others⟩
    · exact ⟨[], a, as, before, back, rfl, here, rfl, rfl⟩
    · obtain ⟨earlier, c, later, front, back, rfl, here, rfl, rfl⟩ := ih others
      exact ⟨a :: earlier, c, later, front, back, rfl, here, by simp, rfl⟩

/-! ## bouts -/

inductive Bout where
  /-- a wait by a tracer with these options: the calls that it makes, and what it gives -/
  | wait (options : Options) (calls : List Syscall) (gave : Except Error Stop)
  | between (calls : List Syscall)

namespace Bout

def calls : Bout → List Syscall
  | wait _ calls _ => calls
  | between calls => calls

/-- the stop that a wait gave -/
def stop? : Bout → Option Stop
  | wait _ _ (.ok stop) => some stop
  | _ => none

/-- the stops that were given, earliest first -/
def stops (bs : List Bout) : List Stop := bs.filterMap stop?

theorem stops_append (bs cs : List Bout) : stops (bs ++ cs) = stops bs ++ stops cs :=
  List.filterMap_append

theorem stops_concat (bs : List Bout) (b : Bout) :
    stops (bs ++ [b]) = stops bs ++ b.stop?.toList := by
  rw [stops_append]
  cases gave : b.stop? <;> simp [stops, gave]

theorem mem_stops {bs : List Bout} {stop : Stop} :
    stop ∈ stops bs ↔ ∃ options calls, .wait options calls (.ok stop) ∈ bs := by
  rw [stops, List.mem_filterMap]
  constructor
  · rintro ⟨b, mem, gave⟩
    match b, gave with
    | .wait options calls (.ok _), rfl => exact ⟨options, calls, mem⟩
  · rintro ⟨options, calls, mem⟩
    exact ⟨_, mem, rfl⟩

theorem mem_stops_cons {b : Bout} {bs : List Bout} {stop : Stop} :
    stop ∈ stops (b :: bs) ↔ b.stop? = some stop ∨ stop ∈ stops bs := by
  simp [stops]

theorem mem_stops_middle {b : Bout} {bs cs : List Bout} {stop : Stop} :
    stop ∈ stops (bs ++ b :: cs) ↔ stop ∈ stops bs ∨ b.stop? = some stop ∨ stop ∈ stops cs := by
  rw [stops_append, List.mem_append, mem_stops_cons]

end Bout

/-- The call tells no status of a process and sets no options. -/
def Syscall.isAside : Syscall → Bool
  | waitpid _ _ | setOptions _ _ _ => false
  | _ => true

/-- What is done between two waits: the calls are of other kinds, and nothing is changed but that a
tracee that stood still runs on. -/
structure Scene.Between (s : Scene) (calls : List Syscall) (u : Scene) : Prop where
  written : u.host.journal.calls = s.host.journal.calls ++ calls
  aside : ∀ c ∈ calls, c.isAside = true
  tracer : u.tracer = s.tracer
  tracee : u.tracee = s.tracee ∨
    s.tracee.state = .stopped ∧ u.tracee = { s.tracee with state := .running }

namespace Drive

/-- The bouts by which driving goes from the first scene to the second. -/
inductive Bouts : Scene → List Bout → Scene → Prop where
  | done (s : Scene) : Bouts s [] s
  | wait {s u : Scene} {calls : List Syscall} {bs : List Bout}
      (wrote : (wait.runOn s).2.host.journal.calls = s.host.journal.calls ++ calls)
      (rest : Bouts (wait.runOn s).2 bs u) :
    Bouts s (.wait s.tracer.options calls (wait.runOn s).1 :: bs) u
  | between {s v u : Scene} {calls : List Syscall} {bs : List Bout} (between : s.Between calls v)
      (rest : Bouts v bs u) : Bouts s (.between calls :: bs) u

namespace Bouts

variable {s u v : Scene} {bs cs : List Bout}

theorem trans (first : Bouts s bs v) (second : Bouts v cs u) : Bouts s (bs ++ cs) u := by
  induction first with
  | done _ => exact second
  | wait wrote _ ih => exact .wait wrote (ih second)
  | between between _ ih => exact .between between (ih second)

/-- The calls of the bouts are all that were made. -/
theorem calls_eq (bouts : Bouts s bs u) :
    u.host.journal.calls = s.host.journal.calls ++ bs.flatMap Bout.calls := by
  induction bouts with
  | done _ => exact (List.append_nil _).symm
  | wait wrote _ ih => rw [ih, wrote, List.append_assoc, List.flatMap_cons, Bout.calls]
  | between between _ ih =>
    rw [ih, between.written, List.append_assoc, List.flatMap_cons, Bout.calls]

end Bouts

/-- There are bouts from the first scene to the second. -/
def Linked (s u : Scene) : Prop := ∃ bs, Bouts s bs u

namespace Linked

variable {s u v : Scene}

theorem refl (s : Scene) : Linked s s := ⟨[], .done s⟩

theorem trans (first : Linked s v) (second : Linked v u) : Linked s u := by
  obtain ⟨bs, first⟩ := first
  obtain ⟨cs, second⟩ := second
  exact ⟨bs ++ cs, first.trans second⟩

theorem between {calls : List Syscall} (between : s.Between calls u) : Linked s u :=
  ⟨_, .between between (.done u)⟩

theorem noted (s : Scene) (n : Note) : Linked s { s with host := s.host.noted n } :=
  between ⟨(Journal.calls_note n _).trans (List.append_nil _).symm, by simp, rfl, .inl rfl⟩

/-- A tracee that stands still runs on. -/
theorem runsOn (stands : s.tracee.state = .stopped) :
    Linked s ((setState .running).runOn s).2 :=
  between ⟨(Journal.calls_note _ _).trans (List.append_nil _).symm, by simp, rfl,
    .inr ⟨stands, rfl⟩⟩

end Linked

/-! ## every action goes by bouts -/

/-- the action goes by bouts, wherever it is begun -/
def ByBouts (act : Drive α) : Prop := ∀ s, Linked s (act.runOn s).2

theorem wait_cases (s : Scene) :
    (∃ e, wait.runOn s = (.error e, s)) ∨ s.tracer.May s.tracee moving ∧
      ∃ calls r d g, Waits s.tracer s.tracee calls r d ∧ wait.runOn s = (r, Cast.on d g) ∧
        s.host.Came calls g :=
  refused_or_held (fun no => by rw [runOn_wait, no]) wait_holds ⟨s.tracer, s.tracee⟩ s.host

theorem wait_byBouts : ByBouts wait := by
  intro s
  obtain ⟨calls, wrote⟩ : ∃ calls,
      (wait.runOn s).2.host.journal.calls = s.host.journal.calls ++ calls := by
    obtain ⟨e, run⟩ | ⟨_, calls, _, _, g, _, run, came⟩ := wait_cases s
    · exact ⟨[], by rw [run, List.append_nil]⟩
    · exact ⟨calls, by rw [run]; exact came.written⟩
  exact ⟨_, .wait wrote (.done _)⟩

theorem resume_byBouts : ByBouts resume := by
  intro s
  rw [runOn_resume]
  cases permitted : s.tracer.permit s.tracee "resume" [.stopped] with
  | error e => exact .refl s
  | ok _ =>
    have stands : s.tracee.state = .stopped :=
      List.mem_singleton.mp (Tracer.May.of_permit permitted).state
    have asked : Linked s { s with host := (Host.cont s.tracee.pid none s.host).2 } :=
      .between ⟨Journal.calls_call (.cont s.tracee.pid none (Host.cont s.tracee.pid none s.host).1) _,
        by simp [Syscall.isAside], rfl, .inl rfl⟩
    simp only
    cases (Host.cont s.tracee.pid none s.host).1 with
    | error e => exact asked
    | ok _ => exact asked.trans (.runsOn stands)

namespace ByBouts

theorem pure (a : α) : ByBouts (pure a) := .refl

theorem bind {x : Drive α} {f : α → Drive β} (first : ByBouts x) (rest : ∀ a, ByBouts (f a)) :
    ByBouts (x >>= f) := by
  intro s
  have linked := first s
  rw [runOn_bind]
  rcases run : x.runOn s with ⟨r, u⟩
  rw [run] at linked
  cases r with
  | ok a => exact linked.trans (rest a u)
  | error e => exact linked

theorem after_note {act : Drive α} (rest : ByBouts act) (n : Note) :
    ByBouts (do Host.note n; act) := fun s => (Linked.noted s n).trans (rest _)

end ByBouts

theorem skip_byBouts (stop : Stop) : ByBouts (skip stop) := fun s =>
  resume_byBouts.after_note (.skipping s.tracee.pid stop) s

theorem passOn_byBouts (stop : Stop) : ByBouts (passOn stop) := fun s =>
  resume_byBouts.after_note (.passing s.tracee.pid stop) s

/-- What is passed over need go by bouts only where the tracee stands still. -/
theorem waitUntil_byBouts {final : Stop → Bool} {pass : Stop → Drive Unit}
    (still : ∀ stop, final stop = false → stop.isTerminal = false)
    (passes : ∀ stop s, s.tracee.state = .stopped → Linked s ((pass stop).runOn s).2) :
    ByBouts (waitUntil final pass) := by
  have within (n : Nat) : ByBouts (waitUntilWithin final pass n) := by
    induction n with
    | zero => exact wait_byBouts
    | succ n ih =>
      intro s
      have turn := wait_byBouts s
      rw [waitUntilWithin_succ]
      cases run : wait.runOn s with
      | mk r u =>
        rw [run] at turn
        cases r with
        | error e => exact turn
        | ok stop =>
          cases ends : final stop with
          | true => simpa [ends] using turn
          | false =>
            have stands := List.mem_singleton.mp (wait_stopped run (still stop ends)).state
            have passed := passes stop u stands
            simp only [ends]
            cases run' : (pass stop).runOn u with
            | mk r v =>
              rw [run'] at passed
              cases r with
              | error e => exact turn.trans passed
              | ok _ => exact (turn.trans passed).trans (ih v)
  exact fun s => within s.host.waitsLeft s

theorem letGo_linked (stop : Stop) (s : Scene) (stands : s.tracee.state = .stopped) :
    Linked s ((letGo stop).runOn s).2 :=
  (Linked.noted s (.letGo s.tracee.pid stop)).trans (.runsOn stands)

theorem waitForExec_byBouts : ByBouts waitForExec := by
  intro s
  have loop : ByBouts (waitUntil execOver skip) :=
    waitUntil_byBouts (fun stop onward => by simp [execOver] at onward; exact onward.2)
      fun stop s _ => skip_byBouts stop s
  have turns := loop s
  rw [runOn_waitForExec]
  split
  · rcases run : (waitUntil execOver skip).runOn s with ⟨r, u⟩
    rw [run] at turns
    cases r with
    | error e => exact turns
    | ok stop => cases stop <;> exact turns
  · exact .refl s

theorem waitForEnd_byBouts : ByBouts waitForEnd :=
  waitUntil_byBouts (fun _ onward => onward) fun stop s _ => passOn_byBouts stop s

theorem reap_byBouts (pid : Pid) : ByBouts (reap pid) :=
  .bind (waitUntil_byBouts (fun _ onward => onward) letGo_linked) fun stop =>
    (ByBouts.pure stop).after_note (.killed pid stop)

theorem kill_byBouts : ByBouts kill := by
  intro s
  rw [runOn_kill]
  cases s.tracer.permit s.tracee "kill" [.attached, .stopped, .running] with
  | error e => exact .refl s
  | ok _ =>
    have asked : Linked s { s with host := (Host.kill s.tracee.pid .kill s.host).2 } :=
      .between ⟨Journal.calls_call (.kill s.tracee.pid .kill
        (Host.kill s.tracee.pid .kill s.host).1) _, by simp [Syscall.isAside], rfl, .inl rfl⟩
    simp only
    generalize (Host.kill s.tracee.pid .kill s.host).2 = sent at asked ⊢
    cases (Host.kill s.tracee.pid .kill s.host).1 with
    | error e => exact asked
    | ok _ =>
      refine asked.trans ?_
      cases still : s.tracee.isStopped with
      | true =>
        have stands : s.tracee.state = .stopped := by simpa [Tracee.isStopped] using still
        have runs : Linked { s with host := sent } _ := .runsOn stands
        exact runs.trans (reap_byBouts s.tracee.pid _)
      | false => exact reap_byBouts s.tracee.pid _

/-! ## a traced program -/

/-- What a look calls, it calls to look. -/
theorem isAside_of_looks {x : Tracee} {es : Journal} (looks : ∀ e ∈ es, e.Looks x) :
    ∀ c ∈ es.calls, c.isAside = true := by
  intro c mem
  rw [Journal.mem_calls] at mem
  cases looks _ mem with
  | peekData _ _ _ | peekUser _ _ _ => rfl

theorem inspect_byBouts {look : Tracee → Attempt α} (looks : ∀ x, Inspect.Looks x (look x)) :
    ByBouts (inspect look) := by
  intro s
  obtain ⟨es, written, peeks⟩ := looks s.tracee s.host
  have between : s.Between es.calls ((inspect look).runOn s).2 :=
    ⟨(congrArg Journal.calls written).trans (Journal.calls_append es _), isAside_of_looks peeks,
      rfl, .inl rfl⟩
  exact .between between

theorem orKill_byBouts {act : Drive α} (byBouts : ByBouts act) : ByBouts (orKill act) := by
  intro s
  have first := byBouts s
  rw [runOn_orKill]
  rcases run : act.runOn s with ⟨r, u⟩
  rw [run] at first
  cases r with
  | ok a => exact first
  | error e =>
    have killing := kill_byBouts u
    simp only
    rcases run : kill.runOn u with ⟨r, v⟩
    rw [run] at killing
    cases r with
    | ok _ => exact first.trans killing
    | error failure =>
      exact (first.trans killing).trans (.noted v (.killFailed v.tracee.pid failure))

theorem follow_byBouts (layout : Layout) : ByBouts (follow layout) :=
  .bind waitForExec_byBouts fun _ => .bind (fun s => .refl s) fun _ =>
    .bind (orKill_byBouts (inspect_byBouts fun _ => .register _)) fun _ =>
      .after_note (.bind resume_byBouts fun _ => .bind waitForEnd_byBouts fun _ => .pure _) _

end Drive

/-! ## what a tracee goes through -/

/-- what a bout does with tracer and tracee -/
inductive Bout.Moves : Cast → Bout → Cast → Prop where
  | refused {c : Cast} (e : Error) : Moves c (.wait c.tracer.options [] (.error e)) c
  | waited {c d : Cast} {calls : List Syscall} {r : Except Error Stop} (may : c.May moving)
      (waits : Waits c.tracer c.tracee calls r d) : Moves c (.wait c.tracer.options calls r) d
  | stayed {c : Cast} {calls : List Syscall} (aside : ∀ c ∈ calls, c.isAside = true) :
    Moves c (.between calls) c
  | ranOn {c : Cast} {calls : List Syscall} (stood : c.tracee.state = .stopped)
      (aside : ∀ c ∈ calls, c.isAside = true) :
    Moves c (.between calls) { c with tracee.state := .running }

/-- From the first to the second the tracee goes through these bouts, by whatever tracer each. -/
inductive Passes : Tracee → List Bout → Tracee → Prop where
  | refl (x : Tracee) : Passes x [] x
  | cons {x y z : Tracee} {t u : Tracer} {b : Bout} {bs : List Bout} (moves : b.Moves ⟨t, x⟩ ⟨u, y⟩)
      (rest : Passes y bs z) : Passes x (b :: bs) z

/-- Whatever a tracer does to a tracee, its options stay. -/
theorem Bout.Moves.options {b : Bout} {c d : Cast} (moves : b.Moves c d) :
    d.tracer.options = c.tracer.options := by
  cases moves with
  | waited may waits => cases waits <;> rfl
  | refused _ | stayed _ | ranOn _ _ => rfl

namespace Passes

variable {x y z : Tracee} {bs cs : List Bout}

theorem append : Passes x (bs ++ cs) z ↔ ∃ y, Passes x bs y ∧ Passes y cs z := by
  constructor
  · intro passes
    induction bs generalizing x with
    | nil => exact ⟨x, .refl x, passes⟩
    | cons b bs ih =>
      cases passes with
      | cons moves rest =>
        obtain ⟨y, first, second⟩ := ih rest
        exact ⟨y, .cons moves first, second⟩
  · rintro ⟨y, first, second⟩
    induction first with
    | refl _ => exact second
    | cons moves _ ih => exact .cons moves (ih second)

theorem concat {b : Bout} : Passes x (bs ++ [b]) z ↔
    ∃ y t u, Passes x bs y ∧ b.Moves ⟨t, y⟩ ⟨u, z⟩ := by
  rw [append]
  constructor
  · rintro ⟨y, before, last⟩
    cases last with
    | cons moves rest =>
      cases rest
      exact ⟨y, _, _, before, moves⟩
  · rintro ⟨y, t, u, before, moves⟩
    exact ⟨y, before, .cons moves (.refl z)⟩

/-- A bout among others: what the tracee was before it and after it. -/
theorem split {b : Bout} (passes : Passes x (bs ++ b :: cs) z) :
    ∃ v y t u, Passes x bs v ∧ b.Moves ⟨t, v⟩ ⟨u, y⟩ ∧ Passes y cs z := by
  obtain ⟨v, before, passes⟩ := append.mp passes
  cases passes with
  | cons moves after => exact ⟨v, _, _, _, before, moves, after⟩

end Passes

namespace Drive

variable {s u : Scene} {calls : List Syscall} {bs : List Bout}

theorem wait_moves
    (wrote : (wait.runOn s).2.host.journal.calls = s.host.journal.calls ++ calls) :
    (Bout.wait s.tracer.options calls (wait.runOn s).1).Moves ⟨s.tracer, s.tracee⟩
      ⟨(wait.runOn s).2.tracer, (wait.runOn s).2.tracee⟩ := by
  obtain ⟨e, run⟩ | ⟨may, calls', r, d, g, waits, run, came⟩ := wait_cases s
  · rw [run] at wrote ⊢
    cases List.self_eq_append_right.mp wrote
    exact .refused e
  · rw [run] at wrote ⊢
    cases List.append_cancel_left (came.written.symm.trans wrote)
    exact .waited may waits

theorem between_moves (between : s.Between calls u) :
    (Bout.between calls).Moves ⟨s.tracer, s.tracee⟩ ⟨u.tracer, u.tracee⟩ := by
  rw [between.tracer]
  rcases between.tracee with same | ⟨stood, ran⟩
  · rw [same]
    exact .stayed between.aside
  · rw [ran]
    exact .ranOn stood between.aside

theorem Bouts.passes (bouts : Bouts s bs u) : Passes s.tracee bs u.tracee := by
  induction bouts with
  | done s => exact .refl s.tracee
  | wait wrote _ ih => exact .cons (wait_moves wrote) ih
  | between between _ ih => exact .cons (between_moves between) ih

theorem Bouts.options (bouts : Bouts s bs u) {o : Options} {r : Except Error Stop}
    (mem : .wait o calls r ∈ bs) : o = s.tracer.options := by
  induction bouts with
  | done _ => cases mem
  | wait wrote _ ih =>
    rcases List.mem_cons.mp mem with here | later
    · exact (Bout.wait.inj here).1
    · exact (ih later).trans (wait_moves wrote).options
  | between between _ ih =>
    rcases List.mem_cons.mp mem with here | later
    · cases here
    · exact (ih later).trans (between_moves between).options

end Drive

/-! ## the first stop -/

namespace Bout.Moves

variable {b : Bout} {c d : Cast}

theorem pid (moves : b.Moves c d) : d.tracee.pid = c.tracee.pid := by
  cases moves with
  | waited may waits => cases waits <;> rfl
  | refused _ | stayed _ | ranOn _ _ => rfl

/-- The first stop is owed until it is given, and nothing else is given as a first stop. -/
theorem awaiting_cases (moves : b.Moves c d) :
    (d.tracee.awaiting = c.tracee.awaiting ∧ ∀ first : FirstStop, b.stop? ≠ some first.stop) ∨
      ∃ first, c.tracee.awaiting = some first ∧ b.stop? = some first.stop ∧
        d.tracee.awaiting = none := by
  cases moves with
  | waited may waits =>
    cases waits with
    | opened n w first owed told => exact .inr ⟨first, owed, rfl, rfl⟩
    | ended n w stop told _ | stopped n w stop told _ _ =>
      refine .inl ⟨rfl, fun first same => w.status.stop?_ne_first first ?_⟩
      rw [told]
      exact same
    | failed _ _ _ _ | vanished _ | odd _ _ _ | missed _ _ _ _ _ _ _ => exact .inl ⟨rfl, nofun⟩
  | refused _ | stayed _ | ranOn _ _ => exact .inl ⟨rfl, nofun⟩

end Bout.Moves

namespace Passes

open Bout

variable {x y : Tracee} {bs : List Bout}

theorem pid (passes : Passes x bs y) : y.pid = x.pid := by
  induction passes with
  | refl _ => rfl
  | cons moves _ ih => exact ih.trans moves.pid

theorem awaiting_of_none (passes : Passes x bs y) (none : x.awaiting = none) :
    y.awaiting = .none ∧ ∀ first : FirstStop, first.stop ∉ stops bs := by
  induction passes with
  | refl _ => exact ⟨none, fun _ => List.not_mem_nil⟩
  | cons moves _ ih =>
    obtain ⟨same, other⟩ | ⟨first, owed, _⟩ := moves.awaiting_cases
    · obtain ⟨later, others⟩ := ih (same.trans none)
      exact ⟨later, fun first mem => (mem_stops_cons.mp mem).elim (other first) (others first)⟩
    · cases owed.symm.trans none

/-- A first stop is owed as long as it was not given. -/
theorem awaiting_of_some {origin : FirstStop} (passes : Passes x bs y)
    (owed : x.awaiting = some origin) :
    y.awaiting = (if origin.stop ∈ stops bs then none else some origin) ∧
      ∀ first : FirstStop, first.stop ∈ stops bs → first = origin := by
  induction passes with
  | refl _ => exact ⟨owed, fun _ mem => absurd mem List.not_mem_nil⟩
  | @cons _ _ _ _ _ b bs moves rest ih =>
    obtain ⟨same, other⟩ | ⟨first, promised, gave, paid⟩ := moves.awaiting_cases
    · have later (first : FirstStop) : first.stop ∈ stops (b :: bs) ↔ first.stop ∈ stops bs :=
        mem_stops_cons.trans (or_iff_right (other first))
      simp only [later]
      exact ih (same.trans owed)
    · cases promised.symm.trans owed
      obtain ⟨awaiting, others⟩ := rest.awaiting_of_none paid
      have given : origin.stop ∈ stops (b :: bs) := mem_stops_cons.mpr (.inl gave)
      refine ⟨by rw [awaiting, if_pos given], fun first mem => ?_⟩
      rcases mem_stops_cons.mp mem with here | later
      · exact FirstStop.stop_injective (Option.some.inj (here.symm.trans gave))
      · exact absurd later (others first)

end Passes

end ProcTrace
