import ProcTrace.Proofs.Ledger.Session

/-!
# Nothing is read or resumed unless it was seen to stop

* `Syscall.isEvent`       the calls that tell how a process moves: a wait that was told something,
                          and a resumption or a `SIGKILL` that went well;
* `Syscall.needsRest?`    the process that has to stand still for a call;
* `SeenStill`             the latest event of a process among some calls was its stop;
* `Guarded`               calls each of which was made on a process that was seen still;
* `Course.Step.guarded`, `Ledger.Step.guarded`, `Ledger.Steps.guarded`   a step adds only such
                          calls, and so does a run.
-/

namespace ProcTrace

/-! ## events -/

/-- the call tells something new of how this process moves -/
def Syscall.isEvent (pid : Pid) : Syscall → Bool
  | waitpid p (.ok _) | cont p _ (.ok _) | kill p .kill (.ok _) => p = pid
  | _ => false

/-- the process that has to stand still for the call -/
def Syscall.needsRest? : Syscall → Option Pid
  | peekData pid _ _ | peekUser pid _ _ | cont pid _ _ | setOptions pid _ _ => some pid
  | _ => none

theorem Syscall.about_of_isEvent {pid : Pid} {c : Syscall} (event : c.isEvent pid = true) :
    c.about = some pid := by
  cases c with
  | waitpid p r | cont p _ r => cases r <;> simp_all [isEvent, about]
  | kill p s r => cases r <;> cases s <;> simp_all [isEvent, about]
  | fork _ | attach _ _ | setOptions _ _ _ | traceMe _ | peekUser _ _ _ | peekData _ _ _
  | getRegisterSet _ _ | exec _ _ _ _ | exit _ => cases event

/-- the latest event of a process among these calls, earliest first -/
def latestEvent (pid : Pid) (calls : List Syscall) : Option Syscall :=
  (calls.filter (·.isEvent pid)).getLast?

theorem latestEvent_concat (pid : Pid) (calls : List Syscall) (c : Syscall) :
    latestEvent pid (calls ++ [c]) = if c.isEvent pid then some c else latestEvent pid calls := by
  rw [latestEvent, List.filter_append, List.getLast?_append, List.filter_cons]
  split <;> rfl

/-- the latest event of the process was that it was seen to stop -/
def SeenStill (pid : Pid) (calls : List Syscall) : Prop :=
  ∃ w, latestEvent pid calls = some (.waitpid pid (.ok w)) ∧ w.status.isStop = true

/-- every call that needs a process to stand still comes after that one was seen still -/
def Guarded (calls : List Syscall) : Prop :=
  ∀ before c after, calls = before ++ c :: after → ∀ pid, c.needsRest? = some pid →
    SeenStill pid before

theorem guarded_nil : Guarded [] := by
  intro before c after split
  simp at split

theorem Guarded.concat {calls : List Syscall} {c : Syscall} (guarded : Guarded calls)
    (still : ∀ pid, c.needsRest? = some pid → SeenStill pid calls) : Guarded (calls ++ [c]) := by
  intro before d after split
  rcases List.eq_nil_or_concat after with rfl | ⟨rest, last, rfl⟩
  · obtain ⟨rfl, same⟩ := List.append_inj' split rfl
    cases same
    exact still
  · rw [List.concat_eq_append, ← List.cons_append, ← List.append_assoc] at split
    obtain ⟨earlier, _⟩ := List.append_inj' split rfl
    exact guarded before d rest earlier

/-! ## entries -/

open Journal

/-- the entry is no event of the process -/
def Entry.Quiet (pid : Pid) : Entry → Prop
  | .call c => c.isEvent pid = false
  | .note _ => True

/-- the entry needs nobody to stand still -/
def Entry.Free : Entry → Prop
  | .call c => c.needsRest? = none
  | .note _ => True

theorem Entry.quiet_of_foreign {pid : Pid} {e : Entry} (foreign : e.about ≠ some pid) :
    e.Quiet pid := by
  cases e with
  | note _ => trivial
  | call c =>
    show c.isEvent pid = false
    cases event : c.isEvent pid with
    | false => rfl
    | true => exact absurd (Syscall.about_of_isEvent event) foreign

theorem SeenStill.quiet {pid : Pid} {e : Entry} {j : Journal} (quiet : e.Quiet pid)
    (still : SeenStill pid j.calls) : SeenStill pid (calls (e :: j)) := by
  cases e with
  | note n =>
    rw [calls_note]
    exact still
  | call c =>
    have none : c.isEvent pid = false := quiet
    obtain ⟨w, latest, stop⟩ := still
    refine ⟨w, ?_, stop⟩
    rw [calls_call, latestEvent_concat, none]
    exact latest

theorem seenStill_told {pid : Pid} {w : Waited} (stop : w.status.isStop = true) (j : Journal) :
    SeenStill pid (calls (.call (.waitpid pid (.ok w)) :: j)) := by
  refine ⟨w, ?_, stop⟩
  rw [calls_call, latestEvent_concat]
  simp [Syscall.isEvent]

theorem Guarded.free {e : Entry} {j : Journal} (free : e.Free) (guarded : Guarded j.calls) :
    Guarded (calls (e :: j)) := by
  cases e with
  | note n =>
    rw [calls_note]
    exact guarded
  | call c =>
    have none : c.needsRest? = none := free
    rw [calls_call]
    exact guarded.concat fun pid needs => by simp [none] at needs

theorem Guarded.rests {c : Syscall} {pid : Pid} {j : Journal} (guarded : Guarded j.calls)
    (needs : c.needsRest? = some pid) (still : SeenStill pid j.calls) :
    Guarded (calls (.call c :: j)) := by
  rw [calls_call]
  refine guarded.concat fun p same => ?_
  rw [needs] at same
  cases same
  exact still

theorem Guarded.note {n : Note} {j : Journal} (guarded : Guarded j.calls) :
    Guarded (calls (.note n :: j)) := guarded.free trivial

theorem SeenStill.note {pid : Pid} {n : Note} {j : Journal} (still : SeenStill pid j.calls) :
    SeenStill pid (calls (.note n :: j)) := still.quiet trivial

theorem SeenStill.optionsSet {t : Tracer} {pid : Pid} {j : Journal}
    (still : SeenStill pid j.calls) : SeenStill pid (calls (t.optionsSet pid ++ j)) := by
  unfold Tracer.optionsSet
  split
  · exact still
  · exact still.note.quiet rfl

theorem Guarded.optionsSet {t : Tracer} {pid : Pid} {j : Journal} (guarded : Guarded j.calls)
    (still : SeenStill pid j.calls) : Guarded (calls (t.optionsSet pid ++ j)) := by
  unfold Tracer.optionsSet
  split
  · exact guarded
  · exact guarded.note.rests rfl still.note

/-! ## steps -/

/-- What is known to stand still was seen to stop, and nothing has moved it since. -/
def KnownStill (x : Tracee) (j : Journal) : Prop := x.state = .stopped → SeenStill x.pid j.calls

theorem Entry.Looks.quiet {x : Tracee} {e : Entry} (looks : e.Looks x) (pid : Pid) :
    e.Quiet pid := by
  cases looks with
  | remark _ _ => trivial
  | peekData _ _ _ | peekUser _ _ _ => exact rfl

theorem Entry.Looks.guarded {x : Tracee} {e : Entry} {j : Journal} (looks : e.Looks x)
    (known : KnownStill x j) (guarded : Guarded j.calls) : Guarded (calls (e :: j)) := by
  cases looks with
  | remark _ _ => exact guarded.free trivial
  | peekData still _ _ | peekUser still _ _ => exact guarded.rests rfl (known still)

namespace Course

theorem endState_ne_stopped (x : Tracee) : x.endState ≠ .stopped := by
  unfold Tracee.endState
  split <;> decide

variable {c d : Course}

theorem Step.guarded (step : Step c d) (known : KnownStill c.tracee c.journal)
    (guarded : Guarded c.journal.calls) : Guarded d.journal.calls := by
  cases step with
  | look e looks => exact looks.guarded known guarded
  | waitFailed _ _ _ | killed _ | killFailed _ _ => exact guarded.free rfl
  | odd _ _ _ | killedStill _ => exact .note (.free rfl guarded)
  | letGo _ _ => exact guarded.note.note
  | stopped _ _ _ _ _ => exact .note (.note (.free rfl guarded))
  | vanished _ | ended _ _ _ _ _ => exact .note (.note (.note (.free rfl guarded)))
  | resumed may => exact (guarded.rests rfl (known (List.mem_singleton.mp may.state))).note
  | resumeFailed may e => exact guarded.rests rfl (known (List.mem_singleton.mp may.state))
  | opened may w first owed told =>
    have stop : w.status.isStop = true := by rw [told]; rfl
    exact .note (.optionsSet (.note (.free rfl guarded)) (seenStill_told stop _).note)
  | missed may w first owed told some e =>
    have stop : w.status.isStop = true := by rw [told]; rfl
    exact .rests (.note (.note (.free rfl guarded))) rfl (seenStill_told stop _).note.note

/-- A tracee comes to stand still only by a stop that a wait was told of. -/
theorem Step.knownStill (step : Step c d) (known : KnownStill c.tracee c.journal) :
    KnownStill d.tracee d.journal := by
  intro stopped
  cases step with
  | look e looks => exact (known stopped).quiet (looks.quiet _)
  | waitFailed may _ _ | odd may _ _ | missed may _ _ _ _ _ _ | killed may =>
    exact absurd stopped (ne_stopped_of_moving may.state)
  | vanished _ | resumed _ | killedStill _ | letGo _ _ => cases stopped
  | ended _ _ _ _ _ => exact absurd stopped (endState_ne_stopped _)
  | opened may w first owed told =>
    have stop : w.status.isStop = true := by rw [told]; rfl
    exact (seenStill_told stop _).note.optionsSet.note
  | stopped may w stop told still later =>
    have stop : w.status.isStop = true := by rw [WaitStatus.isStop_of_stop? told, still]; rfl
    exact (seenStill_told stop _).note.note
  | resumeFailed _ _ | killFailed _ _ => exact (known stopped).quiet rfl

end Course

/-! ## whole runs -/

theorem Entry.free_of_none {e : Entry} (none : e.about = none) : e.Free := by
  cases e with
  | note _ => trivial
  | call c =>
    have none : c.about = Option.none := none
    show c.needsRest? = Option.none
    cases c <;> first | rfl | cases none

namespace Ledger

theorem liveInvariant_knownStill : LiveInvariant KnownStill where
  born _ _ stopped := by cases stopped
  step := Course.Step.knownStill
  other foreign _ before stopped := (before stopped).quiet (Entry.quiet_of_foreign foreign)

/-- only live tracees stand still -/
theorem Throughout.known {l : Ledger} (all : Throughout KnownStill l) {h : Held} (mem : h ∈ l.held) :
    KnownStill h.tracee l.journal := by
  intro stopped
  have live : h.isLive = true := by
    rw [Held.isLive_iff, stopped]
    rfl
  exact all h mem live stopped

variable {may : Ledger → Pid → Prop} {l m : Ledger}

theorem Step.guarded (step : Step may l m) (all : Throughout KnownStill l)
    (guarded : Guarded l.journal.calls) : Guarded m.journal.calls := by
  cases step with
  | options _ _ _ _ => exact guarded
  | idle e none => exact .free (Entry.free_of_none none) guarded
  | looked h mem e looks => exact looks.guarded (all.known mem) guarded
  | born i t found pid first es birth allowed =>
    cases birth with
    | spawned _ _ | attached => exact .note (.note (.free rfl guarded))
  | driven i t found h c step =>
    exact step.guarded (all.known (List.mem_append_right _ List.mem_cons_self)) guarded

theorem Steps.guarded (steps : Steps Fresh l m) (distinct : l.livePids.Nodup)
    (all : Throughout KnownStill l) (guarded : Guarded l.journal.calls) :
    Guarded m.journal.calls := by
  induction steps with
  | refl => exact guarded
  | tail steps step ih =>
    exact step.guarded (liveInvariant_knownStill.keeps_steps steps distinct all) ih

end Ledger

namespace Session

/-- A process is peeked at, resumed or given options only if the latest that was seen or done to it
is that it stopped. -/
theorem seenStill_of_needsRest {n : Nat} {ops : List (Kernel × Op)} (fresh : Fresh ops (new n))
    {before after : List Syscall} {c : Syscall}
    (trace : callTrace (run ops (new n)).1 = before ++ c :: after) {pid : Pid}
    (needs : c.needsRest? = some pid) : SeenStill pid before := by
  have steps := run_goes fresh []
  have nobody : Ledger.Throughout KnownStill ((new n).ledger []) := fun h mem => by cases mem
  have guarded := Ledger.Steps.guarded steps List.nodup_nil nobody guarded_nil
  have calls : (chronicle (run ops (new n)).1 ++ []).calls = before ++ c :: after := by
    rw [List.append_nil, calls_chronicle, trace]
  exact guarded before c after calls pid needs

/-- A program is started, stops at its exec, and has a word of its memory read. -/
def lookedAt : List (Kernel × Op) :=
  [({}, .spawn 0 ls),
    ({ waits := [.ok ⟨none, 0x57f⟩] }, .wait 0 0),
    ({ memory := fun _ _ => .ok 7 }, .look 0 (.memoryWord 4096))]

theorem seenStill_of_lookedAt :
    let before : List Syscall := [.fork (.ok 1000), .waitpid 1000 (.ok ⟨1000, .stopped .trap⟩),
      .setOptions 1000 .standard (.ok ())]
    Fresh lookedAt (new 1) ∧
      callTrace (run lookedAt (new 1)).1 = before ++ [.peekData 1000 4096 (.ok 7)] ∧
      SeenStill 1000 before := by
  have fresh : Fresh lookedAt (new 1) := by decide +kernel
  have trace : callTrace (run lookedAt (new 1)).1 = [.fork (.ok 1000),
      .waitpid 1000 (.ok ⟨1000, .stopped .trap⟩), .setOptions 1000 .standard (.ok ())] ++
        [.peekData 1000 4096 (.ok 7)] := by decide +kernel
  exact ⟨fresh, trace, seenStill_of_needsRest fresh trace rfl⟩

end Session

end ProcTrace
