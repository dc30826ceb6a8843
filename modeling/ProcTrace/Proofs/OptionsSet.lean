import ProcTrace.Proofs.Bouts.Events
import ProcTrace.Proofs.Sightings

/-!
# Options, set once

The options of a tracer are set on a tracee at its first stop, and that is tried until it succeeds.

* `Bout.Hears`                a wait that is told the first stop of a tracee;
* `Bout.Sets`                 such a wait, that sets options then;
* `Bout.Moves.of_setOptions`  nothing else sets options;
* `Passes.awaiting_iff`       the first stop of a tracee is awaited until it was given;
* `SetsOnce`, `OpensInTime`   options are set once, and then or where there are none the first stop
                              is given: so it goes with every tracee;
* `Session.tracesOne_of_run`  no tracer has options by which descendants would be traced;
* `Session.OptionsSet`        the calls that set options, and the first stops that were given;
* `Session.optionsSet_of_run`   whole runs.
-/

namespace ProcTrace

open Bout Course

/-! ## calls that set options -/

def Syscall.isSetOptions : Syscall → Bool
  | setOptions _ _ _ => true
  | _ => false

theorem isSetOptions_of_isAside {c : Syscall} (aside : c.isAside = true) :
    c.isSetOptions = false := by
  cases c <;> first | rfl | cases aside

theorem isSetOptions_of_mem_heard {pid : Pid} {n : Nat} {reply : Reply Waited} {c : Syscall}
    (mem : c ∈ heard pid n reply) : c.isSetOptions = false := by
  rcases List.mem_append.mp mem with mem | mem
  · rw [List.eq_of_mem_replicate mem]
    rfl
  · rw [List.mem_singleton.mp mem]
    rfl

/-- Where a wait makes one more call, that is the only one which may set options. -/
theorem eq_of_heard_concat {pid q : Pid} {n : Nat} {reply : Reply Waited} {c : Syscall}
    {o : Options} {r : Reply Unit} {front back : List Syscall}
    (set : heard pid n reply ++ [c] = front ++ .setOptions q o r :: back) :
    front = heard pid n reply ∧ c = .setOptions q o r ∧ back = [] := by
  rcases append_cons_cases set.symm with ⟨rest, inside, _⟩ | ⟨rest, rfl, last⟩
  · have mem : .setOptions q o r ∈ heard pid n reply := by simp [inside]
    cases isSetOptions_of_mem_heard mem
  · obtain ⟨rfl, only⟩ := List.append_eq_singleton_iff.mp last.symm |>.resolve_right (by simp)
    cases only
    exact ⟨List.append_nil _, rfl, rfl⟩

/-- The bout is a wait by a tracer with these options that is told the plain stop by which a first
stop arrives, and makes the other calls then. -/
def Bout.Hears (b : Bout) (pid : Pid) (first : FirstStop) (o : Options) (rest : List Syscall) :
    Prop :=
  ∃ (told : Told) (gave : Except Error Stop), b = .wait o (told.calls pid ++ rest) gave ∧
    told.status = .stopped first.signal

/-- Options are set by the last call of the bout, a wait for a tracee that was told the first stop
which this awaited. -/
structure Bout.Sets (b : Bout) (x : Tracee) (first : FirstStop) (told : Told)
    (gave : Except Error Stop) (o : Options) (r : Reply Unit) : Prop where
  owed : x.awaiting = some first
  some : o.isEmpty = false
  opens : told.status = .stopped first.signal
  bout : b = .wait o (told.calls x.pid ++ [.setOptions x.pid o r]) gave
  /-- If they were set, the first stop is given. -/
  given (accepted : r = .ok ()) : gave = .ok first.stop

theorem Bout.Sets.stop?_of_accepted {b : Bout} {x : Tracee} {first : FirstStop} {told : Told}
    {gave : Except Error Stop} {o : Options} (sets : b.Sets x first told gave o (.ok ())) :
    b.stop? = .some first.stop := by
  rw [sets.bout, sets.given rfl]
  rfl

namespace Bout.Moves

variable {b : Bout} {c d : Cast} {first : FirstStop} {o : Options}

/-- Only waits set options, and they call nothing after that. -/
theorem of_setOptions (moves : b.Moves c d) {front back : List Syscall} {q : Pid} {r : Reply Unit}
    (set : b.calls = front ++ .setOptions q o r :: back) : q = c.tracee.pid ∧ ∃ first told gave,
      b.Sets c.tracee first told gave o r ∧ front = told.calls q ∧ back = [] := by
  have mem : .setOptions q o r ∈ b.calls := by simp [set]
  cases moves with
  | refused e => cases mem
  | stayed aside | ranOn _ aside => cases isSetOptions_of_isAside (aside _ mem)
  | waited may waits =>
    cases waits with
    | failed _ _ _ _ | vanished _ | odd _ _ _ | ended _ _ _ _ _ | stopped _ _ _ _ _ _ =>
      cases isSetOptions_of_mem_heard mem
    | opened n w first owed told =>
      cases free : c.tracer.options.isEmpty with
      | true =>
        rw [Bout.calls, Tracer.optionsCalls, if_pos free, List.append_nil] at mem
        cases isSetOptions_of_mem_heard mem
      | false =>
        have calls : c.tracer.optionsCalls c.tracee.pid =
            [.setOptions c.tracee.pid c.tracer.options (.ok ())] := by
          rw [Tracer.optionsCalls, if_neg (by simp [free])]
        rw [Bout.calls, calls] at set
        obtain ⟨rfl, same, rfl⟩ := eq_of_heard_concat set
        cases same
        rw [calls]
        exact ⟨rfl, first, ⟨n, w⟩, _, ⟨owed, free, told, rfl, fun _ => rfl⟩, rfl, rfl⟩
    | missed n w first owed told free e =>
      obtain ⟨rfl, same, rfl⟩ := eq_of_heard_concat set
      cases same
      refine ⟨rfl, first, ⟨n, w⟩, _, ⟨owed, free, told, rfl, fun accepted => ?_⟩, rfl, rfl⟩
      cases accepted

/-- A first stop is given where it is awaited and told, once the options were set or if there are
none. -/
theorem of_first (moves : b.Moves c d) (gave : b.stop? = some first.stop) :
    c.tracee.awaiting = some first ∧
      ((∃ o, .setOptions c.tracee.pid o (.ok ()) ∈ b.calls) ∨
        ∃ o, o.isEmpty = true ∧ b.Hears c.tracee.pid first o []) := by
  cases moves with
  | refused _ | stayed _ | ranOn _ _ => cases gave
  | waited may waits =>
    cases waits with
    | failed _ _ _ _ | vanished _ | odd _ _ _ | missed _ _ _ _ _ _ _ => cases gave
    | ended n w stop told _ | stopped n w stop told _ _ =>
      exact absurd (told.trans gave) (w.status.stop?_ne_first first)
    | opened n w origin owed told =>
      cases FirstStop.stop_injective (Option.some.inj gave)
      refine ⟨owed, ?_⟩
      cases free : c.tracer.options.isEmpty with
      | true =>
        refine .inr ⟨_, free, ⟨n, w⟩, .ok first.stop, ?_, told⟩
        rw [Tracer.optionsCalls, if_pos free]
        rfl
      | false =>
        refine .inl ⟨c.tracer.options, List.mem_append_right _ ?_⟩
        rw [Tracer.optionsCalls, if_neg (by simp [free])]
        exact List.mem_singleton_self _

/-- Where there are no options to set, the first stop is given as soon as it is told. -/
theorem gives_of_hears (moves : b.Moves c d) (owed : c.tracee.awaiting = some first)
    {rest : List Syscall} (hears : b.Hears c.tracee.pid first o rest) (none : o.isEmpty = true) :
    b.stop? = some first.stop := by
  obtain ⟨told, gave, rfl, opens⟩ := hears
  have mem : .waitpid c.tracee.pid (.ok told.waited) ∈ told.calls c.tracee.pid ++ rest := by
    simp [Told.calls, heard]
  generalize told.calls c.tracee.pid ++ rest = calls at moves mem
  have stop : told.waited.status.stop? = some (.signal first.signal) := congrArg _ opens
  cases moves with
  | refused _ => cases mem
  | waited may waits =>
    cases waits with
    | failed _ _ _ _ | vanished _ => cases Session.reply_of_mem_heard mem
    | odd n w odd =>
      cases Session.reply_of_mem_heard mem
      cases odd.symm.trans stop
    | ended n w stop' told' final =>
      cases Session.reply_of_mem_heard mem
      cases told'.symm.trans stop
      cases final
    | stopped n w stop' told' still later =>
      cases Session.reply_of_mem_heard mem
      exact absurd opens (later first owed)
    | opened n w origin promised _ =>
      cases promised.symm.trans owed
      rfl
    | missed n w origin _ _ free _ => cases none.symm.trans free

end Bout.Moves

/-! ## one tracee -/

/-- No first stop was given. -/
def Unopened (bs : List Bout) : Prop := ∀ first : FirstStop, first.stop ∉ stops bs

namespace Passes

variable {x y z : Tracee} {bs : List Bout} {pid : Pid} {origin first : FirstStop}

theorem awaiting_iff (passes : Passes (.born pid origin) bs x) :
    x.awaiting = some first ↔ first = origin ∧ Unopened bs := by
  obtain ⟨awaiting, own⟩ := passes.awaiting_of_some rfl
  rw [awaiting]
  by_cases given : origin.stop ∈ stops bs
  · rw [if_pos given]
    exact ⟨nofun, fun both => absurd given (both.2 origin)⟩
  · rw [if_neg given]
    refine ⟨fun same => ⟨(Option.some.inj same).symm, fun other mem => ?_⟩, ?_⟩
    · exact given (own other mem ▸ mem)
    · exact fun both => both.1 ▸ rfl

/-- Once the first stop was given, no options are set. -/
theorem isSetOptions_of_none (passes : Passes x bs y) (none : x.awaiting = none) :
    ∀ c ∈ bs.flatMap Bout.calls, c.isSetOptions = false := by
  intro c mem
  obtain ⟨b, inside, call⟩ := List.mem_flatMap.mp mem
  cases c with
  | setOptions q o r =>
    obtain ⟨front, back, calls⟩ := List.append_of_mem call
    obtain ⟨earlier, later, rfl⟩ := List.append_of_mem inside
    obtain ⟨v, _, _, _, before, moves, _⟩ := passes.split
    obtain ⟨_, first, _, _, sets, _⟩ := moves.of_setOptions calls
    cases sets.owed.symm.trans (before.awaiting_of_none none).1
  | _ => rfl

end Passes

/-- When options were set, none are set again. -/
def SetsOnce (bs : List Bout) : Prop :=
  ∀ {before after : List Syscall} {q : Pid} {o : Options},
    bs.flatMap Bout.calls = before ++ .setOptions q o (.ok ()) :: after →
    ∀ c ∈ after, c.isSetOptions = false

/-- A first stop was given if options were set, or if there were none to set when it was told; and
only then. -/
def OpensInTime (pid : Pid) (origin : FirstStop) (bs : List Bout) : Prop :=
  (∃ first : FirstStop, first.stop ∈ stops bs) ↔
    (∃ o, .setOptions pid o (.ok ()) ∈ bs.flatMap Bout.calls) ∨
    ∃ earlier b later o rest, bs = earlier ++ b :: later ∧ Unopened earlier ∧
      b.Hears pid origin o rest ∧ o.isEmpty = true

namespace Passes

variable {x y : Tracee} {bs : List Bout} {pid : Pid} {origin : FirstStop}

theorem setsOnce (passes : Passes x bs y) : SetsOnce bs := by
  intro before after q o set
  obtain ⟨earlier, b, later, front, back, rfl, calls, _, rfl⟩ := exists_of_flatMap_eq set
  obtain ⟨_, _, _, _, _, moves, rest⟩ := passes.split
  obtain ⟨_, first, _, _, sets, _, rfl⟩ := moves.of_setOptions calls
  -- the first stop is given now, and no other will be
  obtain ⟨_, other⟩ | ⟨_, _, _, paid⟩ := moves.awaiting_cases
  · exact absurd sets.stop?_of_accepted (other first)
  · exact rest.isSetOptions_of_none paid

theorem opensInTime (passes : Passes (.born pid origin) bs x) : OpensInTime pid origin bs := by
  constructor
  · rintro ⟨first, given⟩
    obtain ⟨o, calls, mem⟩ := mem_stops.mp given
    obtain ⟨earlier, later, rfl⟩ := List.append_of_mem mem
    obtain ⟨v, _, _, _, lived, moves, _⟩ := passes.split
    have pid : v.pid = pid := lived.pid
    obtain ⟨owed, ⟨o', set⟩ | ⟨o', none, hears⟩⟩ := moves.of_first rfl
    · exact .inl ⟨o', List.mem_flatMap.mpr ⟨_, mem, pid ▸ set⟩⟩
    · obtain ⟨rfl, unopened⟩ := lived.awaiting_iff.mp owed
      exact .inr ⟨earlier, _, later, o', [], rfl, unopened, pid ▸ hears, none⟩
  · rintro (⟨o, mem⟩ | ⟨earlier, b, later, o, rest, rfl, unopened, hears, none⟩)
    · obtain ⟨b, inside, call⟩ := List.mem_flatMap.mp mem
      obtain ⟨front, back, calls⟩ := List.append_of_mem call
      obtain ⟨earlier, later, rfl⟩ := List.append_of_mem inside
      obtain ⟨_, _, _, _, _, moves, _⟩ := passes.split
      obtain ⟨_, first, _, _, sets, _⟩ := moves.of_setOptions calls
      exact ⟨first, mem_stops_middle.mpr (.inr (.inl sets.stop?_of_accepted))⟩
    · obtain ⟨v, _, _, _, lived, moves, _⟩ := passes.split
      have owed : v.awaiting = some origin := lived.awaiting_iff.mpr ⟨rfl, unopened⟩
      have pid : v.pid = pid := lived.pid
      have given := moves.gives_of_hears owed (pid ▸ hears) none
      exact ⟨origin, mem_stops_middle.mpr (.inr (.inl given))⟩

end Passes

/-! ## tracers -/

/-- Whatever is done, no tracer comes to have options by which descendants would be traced. -/
theorem Ledger.Step.tracesOne {may : Ledger → Pid → Prop} {l m : Ledger} (step : Step may l m)
    (all : ∀ t ∈ l.tracers, t.options.TracesOne) : ∀ t ∈ m.tracers, t.options.TracesOne := by
  have set {i : Nat} {u : Tracer} (one : u.options.TracesOne) :
      ∀ t ∈ l.tracers.set i u, t.options.TracesOne := by
    intro t mem
    rcases List.mem_or_eq_of_mem_set mem with old | rfl
    · exact all t old
    · exact one
  cases step with
  | idle _ _ | looked _ _ _ _ => exact all
  | options i t found options => exact set (options.tracesOne_difference)
  | born i t found pid first es birth allowed =>
    exact set (u := t.adopt pid) (all t (List.mem_of_getElem? found))
  | driven i t found h c step =>
    refine set ?_
    rcases step.tracer with ⟨same, _⟩ | ⟨same, _⟩
    · rw [same]
      exact all t (List.mem_of_getElem? found)
    · rw [same]
      exact all t (List.mem_of_getElem? found)

namespace Session

theorem step_tracesOne {s : Session} (k : Kernel) (op : Op)
    (all : ∀ t ∈ s.tracers, t.options.TracesOne) :
    ∀ t ∈ (s.step k op).2.tracers, t.options.TracesOne := by
  have goes : Ledger.Steps (fun _ _ => True) (s.ledger []) _ :=
    step_goes s k op fun _ _ => trivial
  have keeps {l m : Ledger} (steps : Ledger.Steps (fun _ _ => True) l m)
      (all : ∀ t ∈ l.tracers, t.options.TracesOne) : ∀ t ∈ m.tracers, t.options.TracesOne := by
    induction steps with
    | refl => exact all
    | tail _ step ih => exact step.tracesOne ih
  exact keeps goes all

theorem tracesOne_of_run (ops : List (Kernel × Op)) (n : Nat) :
    ∀ t ∈ (run ops (new n)).2.tracers, t.options.TracesOne := by
  induction ops using List.reverseRecOn with
  | nil =>
    intro t mem
    rw [List.eq_of_mem_replicate mem]
    exact Options.tracesOne_standard
  | append_singleton ops last ih =>
    obtain ⟨k, op⟩ := last
    rw [run_concat]
    exact step_tracesOne k op ih

/-! ## whole runs -/

open Event

/-- The options are set after these calls, right after the call that tells the first stop of a
tracee that has given none yet, in the wait for that tracee. -/
inductive AtFirstStop (s : Session) (evs : List Event) (before : List Syscall) (q : Pid)
    (o : Options) (r : Reply Unit) : Prop where
  | told {earlier later : List Event} {p : Place} {h : Held} (told : Told)
      (gave : Except Error Stop) (event : evs =
        earlier ++ ⟨some p, .wait o (told.calls q ++ [.setOptions q o r]) gave⟩ :: later)
      (calls : before = earlier.flatMap (·.bout.calls) ++ told.calls q)
      (at_ : s.at? p = some h) (pid : h.tracee.pid = q)
      (first : told.status = .stopped h.origin.signal) (unopened : Unopened (life p earlier)) :
    AtFirstStop s evs before q o r

/-- The event, which follows these in a run, happens in an operation of a tracer that has these
options just then. -/
def HappensWith (ops : List (Kernel × Op)) (n : Nat) (earlier : List Event) (ev : Event)
    (o : Options) : Prop :=
  ∃ before k op i t, Happens ops (new n) earlier ev before k op ∧ op.tracer? = some i ∧
    (run before (new n)).2.tracers[i]? = some t ∧ o = t.options

/-- what the calls tell by which options are set in a run with these events -/
structure OptionsSet (ops : List (Kernel × Op)) (n : Nat) (evs : List Event) : Prop where
  /-- Options are set at first stops.  There are some to set, but none that trace descendants. -/
  asked {before after : List Syscall} {q : Pid} {o : Options} {r : Reply Unit}
    (made : callTrace (run ops (new n)).1 = before ++ .setOptions q o r :: after) :
    AtFirstStop (run ops (new n)).2 evs before q o r ∧ o.isEmpty = false ∧ o.TracesOne
  /-- The options of a wait are those that its tracer has just then. -/
  carried {earlier later : List Event} {p : Option Place} {o : Options} {calls : List Syscall}
    {gave : Except Error Stop} (event : evs = earlier ++ ⟨p, .wait o calls gave⟩ :: later) :
    HappensWith ops n earlier ⟨p, .wait o calls gave⟩ o
  once {p : Place} {h : Held} (at_ : (run ops (new n)).2.at? p = some h) : SetsOnce (life p evs)
  opened {p : Place} {h : Held} (at_ : (run ops (new n)).2.at? p = some h) :
    OpensInTime h.tracee.pid h.origin (life p evs)

variable {ops : List (Kernel × Op)} {n : Nat} {evs : List Event} {p : Place}

/-- The tracee of an event, and what it was before. -/
theorem Tells.moves {earlier later : List Event} {b : Bout}
    (tells : Tells ops (new n) (earlier ++ ⟨some p, b⟩ :: later)) :
    ∃ h v y t u, (run ops (new n)).2.at? p = some h ∧ h.tracee.pid = v.pid ∧
      Passes (.born h.tracee.pid h.origin) (life p earlier) v ∧ b.Moves ⟨t, v⟩ ⟨u, y⟩ := by
  obtain ⟨h, at_⟩ := tells.exists_at (List.mem_append_right _ List.mem_cons_self)
  have passes := tells.passes at_
  rw [life_split] at passes
  obtain ⟨v, y, t, u, before, moves, _⟩ := passes.split
  exact ⟨h, v, y, t, u, at_, before.pid.symm, before, moves⟩

theorem Tells.happensWith {earlier later : List Event} {q : Option Place} {o : Options}
    {calls : List Syscall} {gave : Except Error Stop}
    (tells : Tells ops (new n) (earlier ++ ⟨q, .wait o calls gave⟩ :: later)) :
    HappensWith ops n earlier ⟨q, .wait o calls gave⟩ o := by
  obtain ⟨before, k, op, happens⟩ := tells.happens
  obtain ⟨_, _, _, _, _, eventful⟩ := happens.events
  obtain ⟨i, t, does, found, same⟩ :=
    eventful.options (List.mem_append_right _ List.mem_cons_self)
  exact ⟨before, k, op, i, t, happens, does, found, same⟩

theorem HappensWith.tracesOne {earlier : List Event} {ev : Event} {o : Options}
    (happens : HappensWith ops n earlier ev o) : o.TracesOne := by
  obtain ⟨before, _, _, i, t, _, _, found, rfl⟩ := happens
  exact tracesOne_of_run before n t (List.mem_of_getElem? found)

theorem Tells.asked (tells : Tells ops (new n) evs) {before after : List Syscall} {q : Pid}
    {o : Options} {r : Reply Unit}
    (made : callTrace (run ops (new n)).1 = before ++ .setOptions q o r :: after) :
    AtFirstStop (run ops (new n)).2 evs before q o r ∧ o.isEmpty = false ∧ o.TracesOne := by
  rw [tells.calls] at made
  obtain ⟨earlier, ⟨place, b⟩, later, front, back, rfl, calls, rfl, _⟩ := exists_of_flatMap_eq made
  cases place with
  | none =>
    have call : .setOptions q o r ∈ b.calls := by simp [show b.calls = _ from calls]
    have aside := tells.aside _ (List.mem_append_right _ List.mem_cons_self) rfl _ call
    cases aside
  | some p =>
    obtain ⟨h, v, y, t, u, at_, pid, lived, moves⟩ := tells.moves
    obtain ⟨rfl, first, told, gave, sets, rfl, rfl⟩ := moves.of_setOptions calls
    obtain ⟨rfl, unopened⟩ := lived.awaiting_iff.mp sets.owed
    cases sets.bout
    exact ⟨.told told gave rfl rfl at_ pid sets.opens unopened, sets.some,
      tells.happensWith.tracesOne⟩

/-- Whatever is done in a run, and whatever the kernel answers, the run has events, and these tell
of the options that were set. -/
theorem optionsSet_of_run (ops : List (Kernel × Op)) (n : Nat) :
    (∃ evs, Tells ops (new n) evs) ∧ ∀ evs, Tells ops (new n) evs → OptionsSet ops n evs := by
  refine ⟨exists_tells ops (new n), fun evs tells => ⟨tells.asked, ?_, ?_, ?_⟩⟩
  · rintro earlier later p o calls gave rfl
    exact tells.happensWith
  · exact fun at_ => (tells.passes at_).setsOnce
  · exact fun at_ => (tells.passes at_).opensInTime

/-- A tracer is given options, one of which would trace descendants.  At the exec they are refused,
so that they are set when the trap is told once more. -/
def refusedAtFirst : List (Kernel × Op) :=
  [({}, .setOptions 0 { sysGood := true, fork := true }), ({}, .spawn 0 ls),
    ({ waits := [.ok ⟨none, 0x57f⟩], setOptions := [.error .eperm] }, .wait 0 0),
    ({ waits := [.error .eintr, .ok ⟨none, 0x57f⟩] }, .wait 0 0)]

theorem optionsSet_of_refusedAtFirst :
    ∃ evs, Tells refusedAtFirst (new 1) evs ∧ OptionsSet refusedAtFirst 1 evs ∧
      callTrace (run refusedAtFirst (new 1)).1 = [.fork (.ok 1000),
        .waitpid 1000 (.ok ⟨1000, .stopped .trap⟩),
        .setOptions 1000 { sysGood := true } (.error .eperm),
        .waitpid 1000 (.error .eintr), .waitpid 1000 (.ok ⟨1000, .stopped .trap⟩),
        .setOptions 1000 { sysGood := true } (.ok ())] := by
  obtain ⟨⟨evs, tells⟩, told⟩ := optionsSet_of_run refusedAtFirst 1
  exact ⟨evs, tells, told evs tells, by decide +kernel⟩

end Session

end ProcTrace
