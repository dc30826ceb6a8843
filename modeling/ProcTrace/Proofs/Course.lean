import ProcTrace.Drive
import Mathlib.Logic.Relation

/-!
# Courses of driving

A `Course` is what driving changes: the tracer, the tracee and the journal.  `Course.Step` lists
the steps that driving is made of, each with all that it writes into the journal; the kernel may
answer as it likes, so the answer is part of the step.

* `Entry.about`          the process whose standing an entry may change;
* `WaitStatus.stop?`     the stop that a status tells of, `Stop.status` the other way round;
* `Course.Step.tracer`   a step changes the tracer only by giving up a tracee that has ended;
* `Course.Step.entries`  a step adds to the journal, and only about its own tracee.
-/

namespace ProcTrace

/-! ## whom an entry is about -/

/-- the process whose standing a call may change; a refused attach leaves everyone alone -/
def Syscall.about : Syscall → Option Pid
  | .fork (.ok pid) => if pid = 0 then none else some pid
  | .attach pid (.ok _) => some pid
  | .waitpid pid _ | .kill pid _ _ | .cont pid _ _ | .setOptions pid _ _ => some pid
  | .peekUser pid _ _ | .peekData pid _ _ | .getRegisterSet pid _ => some pid
  | .fork (.error _) | .attach _ (.error _) | .traceMe _ | .exec _ _ _ _ | .exit _ => none

/-- the process whose standing a note tells of; the other notes are remarks -/
def Note.about : Note → Option Pid
  | .spawned pid _ | .attached pid | .stateSet pid _ _ | .vanished pid | .statusSeen pid _ => some pid
  | .released pid _ | .settingOptions pid _ | .letGo pid _ => some pid
  | .skipping _ _ | .killed _ _ | .passing _ _ | .memoryRead _ _ _ | .registerRead _ _ _ => none
  | .syscallNumberRead _ _ | .killFailed _ _ => none

def Entry.about : Entry → Option Pid
  | .call c => c.about
  | .note n => n.about

/-- the entries that a look at a tracee makes: peeks if it stands still, and remarks -/
inductive Entry.Looks (x : Tracee) : Entry → Prop where
  | remark (n : Note) (aside : n.about = none) : Looks x (.note n)
  | peekData (still : x.state = .stopped) (a : Address) (reply : Reply Word) :
    Looks x (.call (.peekData x.pid a reply))
  | peekUser (still : x.state = .stopped) (offset : UInt64) (reply : Reply Word) :
    Looks x (.call (.peekUser x.pid offset reply))

theorem Entry.Looks.about {x : Tracee} {e : Entry} (looks : e.Looks x) :
    e.about = none ∨ e.about = some x.pid ∧ x.state.isTerminal = false := by
  cases looks with
  | remark _ aside => exact .inl aside
  | peekData still _ _ | peekUser still _ _ => exact .inr ⟨rfl, by rw [still]; rfl⟩

/-! ## statuses and stops -/

/-- the stop that a status tells of, unless it is the first -/
def WaitStatus.stop? : WaitStatus → Option Stop
  | exited code => some (.exited code)
  | signaled s coreDumped => some (.signaled s coreDumped)
  | stopped s => some (.signal s)
  | event s e => some (.event s e)
  | syscall | continued | stillAlive => none

/-- the status by which a stop is told -/
def Stop.status : Stop → WaitStatus
  | exec => .stopped FirstStop.exec.signal
  | attach => .stopped FirstStop.attach.signal
  | signal s => .stopped s
  | event s e => .event s e
  | exited code => .exited code
  | signaled s coreDumped => .signaled s coreDumped

theorem FirstStop.status_stop (f : FirstStop) : f.stop.status = .stopped f.signal := by
  cases f <;> rfl

theorem WaitStatus.status_stop? {s : WaitStatus} {stop : Stop} (h : s.stop? = some stop) :
    stop.status = s := by
  cases s <;> cases h <;> rfl

theorem Stop.isStop_status (s : Stop) : s.status.isStop = !s.isTerminal := by cases s <;> rfl

theorem WaitStatus.isStop_of_stop? {s : WaitStatus} {stop : Stop} (h : s.stop? = some stop) :
    s.isStop = !stop.isTerminal := by
  rw [← status_stop? h, Stop.isStop_status]

theorem WaitStatus.isStop_of_odd {s : WaitStatus} (h : s.stop? = none) : s.isStop = false := by
  cases s <;> simp_all [stop?, isStop]

/-- The first stop is told by no status of its own. -/
theorem WaitStatus.stop?_ne_first (s : WaitStatus) (first : FirstStop) :
    s.stop? ≠ some first.stop := by
  intro same
  cases first <;> cases s <;> cases same

/-! ## steps -/

/-- a tracer, a tracee and the journal, latest first -/
structure Course where
  tracer : Tracer
  tracee : Tracee
  journal : Journal

/-- the course that a scene is at, after what is already past -/
def Scene.course (past : Journal) (s : Scene) : Course :=
  ⟨s.tracer, s.tracee, s.host.journal ++ past⟩

/-- the tracer has the right to a tracee in one of these states -/
structure Tracer.May (t : Tracer) (x : Tracee) (states : List State) : Prop where
  owned : t.isTracing x.pid = true
  state : x.state ∈ states

theorem Tracer.May.mono {t : Tracer} {x : Tracee} {states more : List State}
    (may : t.May x states) (h : ∀ s ∈ states, s ∈ more) : t.May x more :=
  ⟨may.owned, h _ may.state⟩

theorem Tracer.May.of_permit {t : Tracer} {x : Tracee} {action : String} {states : List State}
    (h : t.permit x action states = .ok ()) : t.May x states := by
  obtain ⟨_, owned, state⟩ := permit_ok.mp h
  exact ⟨owned, state⟩

/-- what setting the options writes, when it goes well: nothing where there are none to set -/
def Tracer.optionsSet (t : Tracer) (pid : Pid) : Journal :=
  if t.options.isEmpty then []
  else [.call (.setOptions pid t.options (.ok ())), .note (.settingOptions pid t.options)]

namespace Course

/-- states in which a process can be waited for -/
abbrev moving : List State := [.attached, .running]

inductive Step : Course → Course → Prop where
  | look {t x j} (e : Entry) (looks : e.Looks x) : Step ⟨t, x, j⟩ ⟨t, x, e :: j⟩
  /-- a wait that told nothing -/
  | waitFailed {t x j} (may : t.May x moving) (e : Errno) (other : e ≠ .echild) :
    Step ⟨t, x, j⟩ ⟨t, x, .call (.waitpid x.pid (.error e)) :: j⟩
  | vanished {t x j} (may : t.May x moving) :
    Step ⟨t, x, j⟩ ⟨t.release x.pid, { x with state := .exited },
      .note (.stateSet x.pid x.state .exited) :: .note (.released x.pid .exited) ::
      .note (.vanished x.pid) :: .call (.waitpid x.pid (.error .echild)) :: j⟩
  /-- a status that nobody asked for -/
  | odd {t x j} (may : t.May x moving) (w : Waited) (none : w.status.stop? = none) :
    Step ⟨t, x, j⟩ ⟨t, x, .note (.statusSeen x.pid w) :: .call (.waitpid x.pid (.ok w)) :: j⟩
  | ended {t x j} (may : t.May x moving) (w : Waited) (stop : Stop)
      (told : w.status.stop? = some stop) (final : stop.isTerminal = true) :
    Step ⟨t, x, j⟩ ⟨t.release x.pid, { x with state := x.endState, lastStop := some stop },
      .note (.stateSet x.pid x.state x.endState) :: .note (.released x.pid x.endState) ::
      .note (.statusSeen x.pid w) :: .call (.waitpid x.pid (.ok w)) :: j⟩
  /-- the first stop, with the options set -/
  | opened {t x j} (may : t.May x moving) (w : Waited) (first : FirstStop)
      (owed : x.awaiting = some first) (told : w.status = .stopped first.signal) :
    Step ⟨t, x, j⟩ ⟨t, { x with state := .stopped, awaiting := none, lastStop := some first.stop },
      .note (.stateSet x.pid x.state .stopped) :: (t.optionsSet x.pid ++
      .note (.statusSeen x.pid w) :: .call (.waitpid x.pid (.ok w)) :: j)⟩
  /-- the first stop, at which the options could not be set -/
  | missed {t x j} (may : t.May x moving) (w : Waited) (first : FirstStop)
      (owed : x.awaiting = some first) (told : w.status = .stopped first.signal)
      (some : t.options.isEmpty = false) (e : Errno) :
    Step ⟨t, x, j⟩ ⟨t, x, .call (.setOptions x.pid t.options (.error e)) ::
      .note (.settingOptions x.pid t.options) :: .note (.statusSeen x.pid w) ::
      .call (.waitpid x.pid (.ok w)) :: j⟩
  | stopped {t x j} (may : t.May x moving) (w : Waited) (stop : Stop)
      (told : w.status.stop? = some stop) (still : stop.isTerminal = false)
      (later : ∀ first, x.awaiting = some first → w.status ≠ .stopped first.signal) :
    Step ⟨t, x, j⟩ ⟨t, { x with state := .stopped, lastStop := some stop },
      .note (.stateSet x.pid x.state .stopped) :: .note (.statusSeen x.pid w) ::
      .call (.waitpid x.pid (.ok w)) :: j⟩
  | resumed {t x j} (may : t.May x [.stopped]) :
    Step ⟨t, x, j⟩ ⟨t, { x with state := .running },
      .note (.stateSet x.pid x.state .running) :: .call (.cont x.pid none (.ok ())) :: j⟩
  | resumeFailed {t x j} (may : t.May x [.stopped]) (e : Errno) :
    Step ⟨t, x, j⟩ ⟨t, x, .call (.cont x.pid none (.error e)) :: j⟩
  | killed {t x j} (may : t.May x moving) :
    Step ⟨t, x, j⟩ ⟨t, x, .call (.kill x.pid .kill (.ok ())) :: j⟩
  | killedStill {t x j} (may : t.May x [.stopped]) :
    Step ⟨t, x, j⟩ ⟨t, { x with state := .running },
      .note (.stateSet x.pid x.state .running) :: .call (.kill x.pid .kill (.ok ())) :: j⟩
  | killFailed {t x j} (may : t.May x (.stopped :: moving)) (e : Errno) :
    Step ⟨t, x, j⟩ ⟨t, x, .call (.kill x.pid .kill (.error e)) :: j⟩
  /-- a stop of a killed tracee, which is let go without a call -/
  | letGo {t x j} (may : t.May x [.stopped]) (stop : Stop) :
    Step ⟨t, x, j⟩ ⟨t, { x with state := .running },
      .note (.stateSet x.pid x.state .running) :: .note (.letGo x.pid stop) :: j⟩

abbrev Steps : Course → Course → Prop := Relation.ReflTransGen Step

/-! ## what a step keeps -/

theorem live_of_moving {s : State} (h : s ∈ moving) : s.isTerminal = false := by
  rcases List.mem_cons.mp h with rfl | h
  · rfl
  · rw [List.mem_singleton.mp h]
    rfl

theorem live_of_stopped {s : State} (h : s ∈ [State.stopped]) : s.isTerminal = false := by
  rw [List.mem_singleton.mp h]
  rfl

theorem ne_stopped_of_moving {s : State} (h : s ∈ moving) : s ≠ .stopped := by
  rintro rfl
  simp at h

variable {c d : Course}

theorem Step.pid (step : Step c d) : d.tracee.pid = c.tracee.pid := by cases step <;> rfl

/-- A tracer gives up a tracee of its own as the tracee ends, and changes in no other way. -/
theorem Step.tracer (step : Step c d) :
    d.tracer = c.tracer ∧ d.tracee.state.isTerminal = c.tracee.state.isTerminal ∨
      d.tracer = c.tracer.release c.tracee.pid ∧ d.tracee.state.isTerminal = true ∧
        c.tracer.isTracing c.tracee.pid = true ∧ c.tracee.state.isTerminal = false := by
  cases step with
  | look _ _ | waitFailed _ _ _ | odd _ _ _ | missed _ _ _ _ _ _ _
  | resumeFailed _ _ | killed _ | killFailed _ _ => exact .inl ⟨rfl, rfl⟩
  | vanished may => exact .inr ⟨rfl, rfl, may.owned, live_of_moving may.state⟩
  | ended may _ _ _ _ =>
    exact .inr ⟨rfl, Tracee.isTerminal_endState _, may.owned, live_of_moving may.state⟩
  | opened may _ _ _ _ | stopped may _ _ _ _ _ =>
    exact .inl ⟨rfl, (live_of_moving may.state).symm⟩
  | resumed may | killedStill may | letGo may _ =>
    have state := List.mem_singleton.mp may.state
    exact .inl ⟨rfl, by simp only [state]; rfl⟩

/-- What a step adds to the journal is about its own tracee, while that lives, or about no one. -/
theorem Step.entries (step : Step c d) : ∃ es, d.journal = es ++ c.journal ∧ ∀ e ∈ es,
    e.about = none ∨ e.about = some c.tracee.pid ∧ c.tracee.state.isTerminal = false := by
  have own {x : Tracee} (live : x.state.isTerminal = false) {es : Journal}
      (about : ∀ e ∈ es, e.about = some x.pid) :
      ∀ e ∈ es, e.about = none ∨ e.about = some x.pid ∧ x.state.isTerminal = false :=
    fun e mem => .inr ⟨about e mem, live⟩
  cases step with
  | look e looks => exact ⟨[e], rfl, by simpa using looks.about⟩
  | waitFailed may _ _ | killed may =>
    exact ⟨[_], rfl, own (live_of_moving may.state) (by simp [Entry.about, Syscall.about])⟩
  | resumeFailed may _ =>
    exact ⟨[_], rfl, own (live_of_stopped may.state) (by simp [Entry.about, Syscall.about])⟩
  | killFailed may _ =>
    refine ⟨[_], rfl, own ?_ (by simp [Entry.about, Syscall.about])⟩
    rcases List.mem_cons.mp may.state with stopped | moves
    · rw [stopped]
      rfl
    · exact live_of_moving moves
  | odd may _ _ =>
    exact ⟨[_, _], rfl, own (live_of_moving may.state)
      (by simp [Entry.about, Syscall.about, Note.about])⟩
  | resumed may | killedStill may | letGo may _ =>
    exact ⟨[_, _], rfl, own (live_of_stopped may.state)
      (by simp [Entry.about, Syscall.about, Note.about])⟩
  | stopped may _ _ _ _ _ =>
    exact ⟨[_, _, _], rfl, own (live_of_moving may.state)
      (by simp [Entry.about, Syscall.about, Note.about])⟩
  | vanished may | ended may _ _ _ _ | missed may _ _ _ _ _ _ =>
    exact ⟨[_, _, _, _], rfl, own (live_of_moving may.state)
      (by simp [Entry.about, Syscall.about, Note.about])⟩
  | opened may w _ _ _ =>
    rename_i t x j first owed told
    refine ⟨.note (.stateSet x.pid x.state .stopped) :: t.optionsSet x.pid ++
      [.note (.statusSeen x.pid w), .call (.waitpid x.pid (.ok w))], by simp,
      own (live_of_moving may.state) ?_⟩
    unfold Tracer.optionsSet
    split <;> simp [Entry.about, Syscall.about, Note.about]

/-! ## what a course keeps -/

theorem Steps.looks {t : Tracer} {x : Tracee} {es : Journal} (looks : ∀ e ∈ es, e.Looks x)
    (j : Journal) : Steps ⟨t, x, j⟩ ⟨t, x, es ++ j⟩ := by
  induction es with
  | nil => exact .refl
  | cons e es ih =>
    obtain ⟨first, rest⟩ := List.forall_mem_cons.mp looks
    exact (ih rest).tail (.look e first)

/-- The journal only grows. -/
theorem Steps.entries (steps : Steps c d) : ∃ es, d.journal = es ++ c.journal := by
  induction steps with
  | refl => exact ⟨[], rfl⟩
  | tail _ step ih =>
    obtain ⟨es, before⟩ := ih
    obtain ⟨fs, after, _⟩ := step.entries
    exact ⟨fs ++ es, by rw [after, before, List.append_assoc]⟩

theorem Steps.pid (steps : Steps c d) : d.tracee.pid = c.tracee.pid := by
  induction steps with
  | refl => rfl
  | tail _ step ih => exact step.pid.trans ih

/-- A tracee stays with its tracer as long as it lives. -/
theorem Steps.owned (steps : Steps c d) (owned : c.tracer.isTracing c.tracee.pid = true)
    (live : d.tracee.state.isTerminal = false) : d.tracer.isTracing d.tracee.pid = true := by
  induction steps with
  | refl => exact owned
  | tail _ step ih =>
    rcases step.tracer with ⟨tracer, state⟩ | ⟨_, gone, _⟩
    · rw [tracer, step.pid]
      exact ih (state ▸ live)
    · rw [gone] at live
      cases live

end Course

end ProcTrace
