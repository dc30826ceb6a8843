import ProcTrace.Proofs.Course.Drive
import ProcTrace.Proofs.Dialogue

/-!
# The dialogues of a wait

A wait holds one of seven kinds of dialogue with the kernel.  What is said decides what the wait
comes to, and what becomes of the tracer and the tracee.

* `Drive.Does`          an action that holds a dialogue with every host that gives these replies;
* `Drive.Does.bind`     dialogues one after the other;
* `heard`               the calls of a wait that was interrupted some times before it was answered;
* `Waits`               the seven kinds;
* `Waits.does`          a wait comes to what its dialogue says;
* `Waits.total`         every host gives the replies of one of them.
-/

namespace ProcTrace

open Course

/-- a tracer, and the tracee that it drives -/
structure Cast where
  tracer : Tracer
  tracee : Tracee

namespace Cast

def on (c : Cast) (h : Host) : Scene := ⟨c.tracer, c.tracee, h⟩

abbrev May (c : Cast) (states : List State) : Prop := c.tracer.May c.tracee states

end Cast

namespace Drive

/-- On every host that gives these replies, the action makes these calls and no others, and comes
to this result with tracer and tracee as the second cast has them. -/
def Does (act : Drive α) (c : Cast) (calls : List Syscall) (r : Except Error α) (d : Cast) : Prop :=
  ∀ h : Host, h.Answers calls → ∃ g, act.runOn (c.on h) = (r, d.on g) ∧ h.Came calls g

namespace Does

variable {c d b : Cast} {calls more : List Syscall}

theorem pure (a : α) (c : Cast) : Does (pure a) c [] (.ok a) c := fun h _ => ⟨h, rfl, .refl h⟩

theorem throw (e : Error) (c : Cast) : Does (throw e : Drive α) c [] (.error e) c :=
  fun h _ => ⟨h, rfl, .refl h⟩

theorem tracee (c : Cast) : Does tracee c [] (.ok c.tracee) c := fun h _ => ⟨h, rfl, .refl h⟩

theorem pid (c : Cast) : Does pid c [] (.ok c.tracee.pid) c := fun h _ => ⟨h, rfl, .refl h⟩

theorem note (n : Note) (c : Cast) : Does (liftM (Host.note n)) c [] (.ok ()) c :=
  fun h _ => ⟨h.noted n, rfl, .noted (.refl h) n⟩

theorem setState (state : State) (c : Cast) :
    Does (setState state) c [] (.ok ()) { c with tracee.state := state } :=
  fun h _ => ⟨h.noted _, rfl, .noted (.refl h) _⟩

theorem permit (action : String) {allowed : List State} (may : c.May allowed)
    (live : c.tracee.state.isTerminal = false) : Does (permit action allowed) c [] (.ok ()) c := by
  have permitted : c.tracer.permit c.tracee action allowed = .ok () :=
    Tracer.permit_ok.mpr ⟨live, may.owned, may.state⟩
  exact fun h _ => ⟨h, congrArg (·, c.on h) permitted, .refl h⟩

theorem tracer (c : Cast) : Does tracer c [] (.ok c.tracer) c := fun h _ => ⟨h, rfl, .refl h⟩

/-- One call, if asking for it comes to making it. -/
theorem call {act : HostM (Reply α)} {entry : Reply α → Syscall}
    (asks : ∀ r h, Host.ask (entry r) h = (entry (act h).1, (act h).2))
    (tells : ∀ r s, entry r = entry s → r = s) (reply : Reply α) (c : Cast) :
    Does (liftM act) c [entry reply] (.ok reply) c := by
  intro h answered
  have told : (act h).1 = reply := by
    have same := answered.1
    rw [asks] at same
    exact tells _ _ same
  refine ⟨(act h).2, ?_, ?_⟩
  · rw [runOn_lift]
    show (Except.ok (act h).1, c.on (act h).2) = _
    rw [told]
  · have came := Host.Came.asked answered.1
    rwa [asks] at came

theorem cont (pid : Pid) (signal : Option Signal) (reply : Reply Unit) (c : Cast) :
    Does (liftM (Host.cont pid signal)) c [.cont pid signal reply] (.ok reply) c :=
  call (fun _ _ => rfl) (fun _ _ same => (Syscall.cont.inj same).2.2) reply c

theorem kill (pid : Pid) (signal : Signal) (reply : Reply Unit) (c : Cast) :
    Does (liftM (Host.kill pid signal)) c [.kill pid signal reply] (.ok reply) c :=
  call (fun _ _ => rfl) (fun _ _ same => (Syscall.kill.inj same).2.2) reply c

theorem setOptions (pid : Pid) (options : Options) (reply : Reply Unit) (c : Cast) :
    Does (liftM (Host.setOptions pid options)) c [.setOptions pid options reply] (.ok reply) c :=
  call (fun _ _ => rfl) (fun _ _ same => (Syscall.setOptions.inj same).2.2) reply c

theorem bind {x : Drive α} {f : α → Drive β} {a : α} {r : Except Error β}
    (first : Does x c calls (.ok a) d) (rest : Does (f a) d more r b) :
    Does (x >>= f) c (calls ++ more) r b := by
  intro h answered
  obtain ⟨g, run, came⟩ := first h (Host.answers_append.mp answered).1
  obtain ⟨k, run', came'⟩ := rest g (came.answers answered)
  refine ⟨k, ?_, came.trans came'⟩
  rw [runOn_bind, run]
  exact run'

theorem bind_error {x : Drive α} {f : α → Drive β} {e : Error}
    (first : Does x c calls (.error e) d) : Does (x >>= f) c calls (.error e) d := by
  intro h answered
  obtain ⟨g, run, came⟩ := first h answered
  refine ⟨g, ?_, came⟩
  rw [runOn_bind, run]

theorem silent {act : Drive α} {r : Except Error α} (does : Does act c (calls ++ []) r d) :
    Does act c calls r d := by rwa [List.append_nil] at does

/-- What is done before anything is said adds nothing to the dialogue. -/
theorem after_silence {x : Drive α} {f : α → Drive β} {a : α} {r : Except Error β}
    (first : Does x c [] (.ok a) d) (rest : Does (f a) d more r b) : Does (x >>= f) c more r b :=
  first.bind rest

/-- What is done when all is said adds nothing to the dialogue. -/
theorem then_silence {x : Drive α} {f : α → Drive β} {a : α} {r : Except Error β}
    (first : Does x c calls (.ok a) d) (rest : Does (f a) d [] r b) : Does (x >>= f) c calls r b :=
  .silent (first.bind rest)

end Does

end Drive

/-! ## interrupted waits -/

def Syscall.isWait : Syscall → Bool
  | waitpid _ _ => true
  | _ => false

/-- the calls of a wait for a process that is interrupted `n` times before it is answered -/
def heard (pid : Pid) (n : Nat) (reply : Reply Waited) : List Syscall :=
  List.replicate n (.waitpid pid (.error .eintr)) ++ [.waitpid pid reply]

theorem heard_succ (pid : Pid) (n : Nat) (reply : Reply Waited) :
    heard pid (n + 1) reply = .waitpid pid (.error .eintr) :: heard pid n reply := rfl

namespace Host

theorem ask_waitpid {pid : Pid} {reply : Reply Waited} {h : Host}
    (answered : (ask (.waitpid pid reply) h).1 = .waitpid pid reply) :
    (waitpid pid h).1 = reply := by
  have same : Syscall.waitpid pid (waitpid pid h).1 = .waitpid pid reply := answered
  cases same
  rfl

/-- Every host answers a wait in the end. -/
theorem exists_heard (pid : Pid) (h : Host) :
    ∃ n reply, reply ≠ .error .eintr ∧ h.Answers (heard pid n reply) := by
  -- an interruption takes a reply of waiting, of which there are so many left
  induction left : h.waitsLeft using Nat.strongRecOn generalizing h with
  | _ m ih =>
    by_cases interrupted : (waitpid pid h).1 = .error .eintr
    · have some : h.waitsLeft ≠ 0 := by
        intro none
        rw [waitpid_of_none_left none] at interrupted
        cases interrupted
      have spent := waitsLeft_waitpid pid h
      obtain ⟨n, reply, news, answered⟩ := ih _ (by omega) (waitpid pid h).2 rfl
      refine ⟨n + 1, reply, news, ?_⟩
      rw [heard_succ]
      exact ⟨congrArg _ interrupted, answered⟩
    · exact ⟨0, _, interrupted, rfl, trivial⟩

/-- A wait that was told something has taken a reply. -/
theorem waitsLeft_heard {pid : Pid} {n : Nat} {w : Waited} {h : Host}
    (answered : h.Answers (heard pid n (.ok w))) :
    (after (heard pid n (.ok w)) h).waitsLeft < h.waitsLeft := by
  induction n generalizing h with
  | zero =>
    have told := ask_waitpid answered.1
    have some : h.waitsLeft ≠ 0 := by
      intro none
      rw [waitpid_of_none_left none] at told
      cases told
    have spent := waitsLeft_waitpid pid h
    show (waitpid pid h).2.waitsLeft < h.waitsLeft
    omega
  | succ n ih =>
    rw [heard_succ] at answered ⊢
    have spent := waitsLeft_ask (.waitpid pid (.error .eintr)) h
    exact Nat.lt_of_lt_of_le (ih answered.2) spent

end Host

namespace Drive

theorem waitpid_does (pid : Pid) (n : Nat) {reply : Reply Waited} (news : reply ≠ .error .eintr)
    (c : Cast) : Does (waitpid pid) c (heard pid n reply) (.ok reply) c := by
  induction n with
  | zero =>
    intro h answered
    have told := Host.ask_waitpid answered.1
    refine ⟨(Host.waitpid pid h).2, ?_, .asked answered.1⟩
    rw [waitpid_eq]
    show (if (Host.waitpid pid h).1 = .error .eintr then _ else (Except.ok (Host.waitpid pid h).1, _)) = _
    rw [told, if_neg news]
    rfl
  | succ n ih =>
    intro h answered
    rw [heard_succ] at answered ⊢
    have interrupted := Host.ask_waitpid answered.1
    obtain ⟨g, run, came⟩ := ih (Host.waitpid pid h).2 answered.2
    refine ⟨g, ?_, (Host.Came.asked answered.1).trans came⟩
    rw [waitpid_eq]
    show (if (Host.waitpid pid h).1 = .error .eintr then _ else _) = _
    rw [if_pos interrupted]
    exact run

end Drive

/-! ## the kinds of dialogue -/

/-- what is said of a status that nobody asked for -/
def WaitStatus.complaint : WaitStatus → String
  | syscall => "unexpected syscall-stop"
  | _ => "unreachable \x60wait()\x60 status"

/-- the calls by which the options are set, where there are any to set -/
def Tracer.optionsCalls (t : Tracer) (pid : Pid) : List Syscall :=
  if t.options.isEmpty then [] else [.setOptions pid t.options (.ok ())]

/-- The calls by which options are set are no waits. -/
theorem Tracer.isWait_of_mem_optionsCalls {t : Tracer} {pid : Pid} :
    ∀ c ∈ t.optionsCalls pid, c.isWait = false := by
  unfold Tracer.optionsCalls
  split <;> simp [Syscall.isWait]

/-- The dialogue of a wait of this tracer for this tracee, what the wait comes to, and what becomes
of the two. -/
inductive Waits (t : Tracer) (x : Tracee) :
    List Syscall → Except Error Stop → Cast → Prop where
  /-- the wait told nothing -/
  | failed (n : Nat) (e : Errno) (news : e ≠ .eintr) (other : e ≠ .echild) :
    Waits t x (heard x.pid n (.error e)) (.error (.os e)) ⟨t, x⟩
  /-- someone else has reaped the tracee -/
  | vanished (n : Nat) : Waits t x (heard x.pid n (.error .echild)) (.error (.noSuchProcess x.pid))
      ⟨t.release x.pid, { x with state := .exited }⟩
  /-- a status that nobody asked for -/
  | odd (n : Nat) (w : Waited) (none : w.status.stop? = none) :
    Waits t x (heard x.pid n (.ok w)) (.error (.internal w.status.complaint)) ⟨t, x⟩
  | ended (n : Nat) (w : Waited) (stop : Stop) (told : w.status.stop? = some stop)
      (final : stop.isTerminal = true) :
    Waits t x (heard x.pid n (.ok w)) (.ok stop)
      ⟨t.release x.pid, { x with state := x.endState, lastStop := some stop }⟩
  /-- the first stop, with the options set -/
  | opened (n : Nat) (w : Waited) (first : FirstStop) (owed : x.awaiting = some first)
      (told : w.status = .stopped first.signal) :
    Waits t x (heard x.pid n (.ok w) ++ t.optionsCalls x.pid) (.ok first.stop)
      ⟨t, { x with state := .stopped, awaiting := none, lastStop := some first.stop }⟩
  /-- the first stop, at which the options could not be set -/
  | missed (n : Nat) (w : Waited) (first : FirstStop) (owed : x.awaiting = some first)
      (told : w.status = .stopped first.signal) (some : t.options.isEmpty = false) (e : Errno) :
    Waits t x (heard x.pid n (.ok w) ++ [.setOptions x.pid t.options (.error e)])
      (.error (.ofRequest x.pid e)) ⟨t, x⟩
  | stopped (n : Nat) (w : Waited) (stop : Stop) (told : w.status.stop? = some stop)
      (still : stop.isTerminal = false)
      (later : ∀ first, x.awaiting = some first → w.status ≠ .stopped first.signal) :
    Waits t x (heard x.pid n (.ok w)) (.ok stop)
      ⟨t, { x with state := .stopped, lastStop := some stop }⟩

namespace Drive

/-! ## what is done between the calls -/

theorem settle_ended {stop : Stop} (final : stop.isTerminal = true) (t : Tracer) (x : Tracee) :
    Does (settle stop) ⟨t, x⟩ [] (.ok ())
      ⟨t.release x.pid, { x with state := x.endState, lastStop := some stop }⟩ := by
  intro h _
  refine ⟨_, ?_, .noted (.noted (.refl h) (.released x.pid x.endState))
    (.stateSet x.pid x.state x.endState)⟩
  rw [runOn_settle, if_pos final]
  rfl

theorem settle_stopped {stop : Stop} (still : stop.isTerminal = false) (t : Tracer) (x : Tracee) :
    Does (settle stop) ⟨t, x⟩ [] (.ok ())
      ⟨t, { x with state := .stopped, lastStop := some stop }⟩ := by
  intro h _
  refine ⟨_, ?_, .noted (.refl h) (.stateSet x.pid x.state .stopped)⟩
  rw [runOn_settle, if_neg (by simp [still])]
  rfl

theorem setOptions_does (t : Tracer) (x : Tracee) :
    Does setOptions ⟨t, x⟩ (t.optionsCalls x.pid) (.ok ()) ⟨t, x⟩ := by
  refine .after_silence (.pid _) (.after_silence (.tracer _) ?_)
  unfold Tracer.optionsCalls
  by_cases none : t.options.isEmpty = true
  · simp only [if_pos none]
    exact .pure () _
  · simp only [if_neg none]
    exact .after_silence (.note _ _) (.then_silence (.setOptions _ _ _ _) (.pure () _))

theorem setOptions_refused {t : Tracer} (some : t.options.isEmpty = false) (x : Tracee) (e : Errno) :
    Does setOptions ⟨t, x⟩ [.setOptions x.pid t.options (.error e)] (.error (.ofRequest x.pid e))
      ⟨t, x⟩ := by
  refine .after_silence (.pid _) (.after_silence (.tracer _) ?_)
  simp only [some, Bool.false_eq_true, if_false]
  exact .after_silence (.note _ _) (.then_silence (.setOptions _ _ _ _) (.throw _ _))

/-! ## the ends of a wait -/

theorem stopOf_odd {status : WaitStatus} (none : status.stop? = none) (c : Cast) :
    Does (stopOf status) c [] (.error (.internal status.complaint)) c := by
  cases status with
  | syscall | continued | stillAlive => exact .throw _ c
  | exited _ | signaled _ _ | stopped _ | event _ _ => cases none

theorem stopOf_told {status : WaitStatus} {stop : Stop} (told : status.stop? = some stop) {c : Cast}
    (later : ∀ first, c.tracee.awaiting = some first → status ≠ .stopped first.signal) :
    Does (stopOf status) c [] (.ok stop) c :=
  fun h _ => ⟨h, runOn_stopOf_told told later, .refl h⟩

theorem stopOf_first {first : FirstStop} {t : Tracer} {x : Tracee} (owed : x.awaiting = some first) :
    Does (stopOf (.stopped first.signal)) ⟨t, x⟩ (t.optionsCalls x.pid) (.ok first.stop)
      ⟨t, { x with awaiting := none }⟩ := by
  intro h answered
  obtain ⟨g, run, came⟩ := setOptions_does t x h answered
  refine ⟨g, ?_, came⟩
  rw [Cast.on] at run
  rw [Cast.on, runOn_stopOf_first owed, run]
  rfl

theorem stopOf_missed {first : FirstStop} {t : Tracer} {x : Tracee} (owed : x.awaiting = some first)
    (some : t.options.isEmpty = false) (e : Errno) :
    Does (stopOf (.stopped first.signal)) ⟨t, x⟩ [.setOptions x.pid t.options (.error e)]
      (.error (.ofRequest x.pid e)) ⟨t, x⟩ := by
  intro h answered
  obtain ⟨g, run, came⟩ := setOptions_refused some x e h answered
  refine ⟨g, ?_, came⟩
  rw [Cast.on] at run
  rw [Cast.on, runOn_stopOf_first owed, run]

theorem see_does {w : Waited} {stop : Stop} {calls : List Syscall} {c d b : Cast}
    (told : Does (stopOf w.status) c calls (.ok stop) d) (settled : Does (settle stop) d [] (.ok ()) b) :
    Does (see w) c calls (.ok stop) b :=
  .after_silence (.pid c) (.after_silence (.note _ c)
    (.then_silence told (.after_silence settled (.pure stop b))))

theorem see_fails {w : Waited} {e : Error} {calls : List Syscall} {c d : Cast}
    (failed : Does (stopOf w.status) c calls (.error e) d) : Does (see w) c calls (.error e) d :=
  .after_silence (.pid c) (.after_silence (.note _ c) failed.bind_error)

theorem release_does (state : State) (t : Tracer) (x : Tracee) :
    Does (release state) ⟨t, x⟩ [] (.ok ()) ⟨t.release x.pid, { x with state }⟩ := fun h _ =>
  ⟨_, rfl, .noted (.noted (.refl h) (.released x.pid state)) (.stateSet x.pid x.state state)⟩

theorem lose_vanished (t : Tracer) (x : Tracee) :
    Does (lose .echild) ⟨t, x⟩ [] (.error (.noSuchProcess x.pid))
      ⟨t.release x.pid, { x with state := .exited }⟩ :=
  .after_silence (.pid _) (.after_silence (.note _ _)
    (.after_silence (release_does .exited t x) (.throw _ _)))

theorem lose_failed {e : Errno} (other : e ≠ .echild) (c : Cast) :
    Does (lose e) c [] (.error (.os e)) c := by
  refine .after_silence (.pid c) ?_
  simp only [if_neg other]
  exact .throw _ c

end Drive

/-! ## every wait -/

namespace Waits

variable {t : Tracer} {x : Tracee}

/-- A wait that is allowed is a call that is answered in the end, and what follows. -/
theorem of_told (may : t.May x moving) (n : Nat) {w : Waited} {calls : List Syscall}
    {r : Except Error Stop} {d : Cast} (rest : (Drive.see w).Does ⟨t, x⟩ calls r d) :
    Drive.wait.Does ⟨t, x⟩ (heard x.pid n (.ok w) ++ calls) r d := by
  exact .after_silence (.permit _ may (live_of_moving may.state)) (.after_silence (.pid _)
    (.bind (Drive.waitpid_does x.pid n (by simp) _) rest))

theorem of_failed (may : t.May x moving) (n : Nat) {e : Errno} (news : e ≠ .eintr)
    {r : Except Error Stop} {d : Cast} (rest : (Drive.lose e).Does ⟨t, x⟩ [] r d) :
    Drive.wait.Does ⟨t, x⟩ (heard x.pid n (.error e)) r d := by
  exact .after_silence (.permit _ may (live_of_moving may.state)) (.after_silence (.pid _)
    (.then_silence (Drive.waitpid_does x.pid n (by simpa using news) _) rest))

theorem does (may : t.May x moving) {calls : List Syscall} {r : Except Error Stop} {d : Cast}
    (waits : Waits t x calls r d) : Drive.wait.Does ⟨t, x⟩ calls r d := by
  cases waits with
  | failed n e news other => exact of_failed may n news (Drive.lose_failed other _)
  | vanished n => exact of_failed may n (by decide) (Drive.lose_vanished t x)
  | odd n w none => exact .silent (of_told may n (Drive.see_fails (Drive.stopOf_odd none _)))
  | ended n w stop told final =>
    refine .silent (of_told may n (Drive.see_does (Drive.stopOf_told told ?_)
      (Drive.settle_ended final t x)))
    -- an end is no first stop
    intro first _ same
    rw [same] at told
    cases told
    cases final
  | opened n w first owed told =>
    refine of_told may n (Drive.see_does ?_ (Drive.settle_stopped first.isTerminal_stop t
      { x with awaiting := none }))
    rw [told]
    exact Drive.stopOf_first owed
  | missed n w first owed told some e =>
    refine of_told may n (Drive.see_fails ?_)
    rw [told]
    exact Drive.stopOf_missed owed some e
  | stopped n w stop told still later =>
    exact .silent (of_told may n (Drive.see_does (Drive.stopOf_told told later)
      (Drive.settle_stopped still t x)))

/-- Every host gives the replies of one of the dialogues. -/
theorem total (t : Tracer) (x : Tracee) (h : Host) :
    ∃ calls r d, Waits t x calls r d ∧ h.Answers calls := by
  obtain ⟨n, reply, news, answered⟩ := Host.exists_heard x.pid h
  cases reply with
  | error e =>
    by_cases gone : e = .echild
    · subst gone
      exact ⟨_, _, _, .vanished n, answered⟩
    · exact ⟨_, _, _, .failed n e (fun same => news (by rw [same])) gone, answered⟩
  | ok w =>
    cases told : w.status.stop? with
    | none => exact ⟨_, _, _, .odd n w told, answered⟩
    | some stop =>
      by_cases opens : ∃ first, x.awaiting = some first ∧ w.status = .stopped first.signal
      · obtain ⟨first, owed, seen⟩ := opens
        cases free : t.options.isEmpty with
        | true =>
          refine ⟨_, _, _, .opened n w first owed seen, ?_⟩
          rw [Tracer.optionsCalls, if_pos free, List.append_nil]
          exact answered
        | false =>
          cases set : (Host.setOptions x.pid t.options (Host.after (heard x.pid n (.ok w)) h)).1 with
          | ok _ =>
            refine ⟨_, _, _, .opened n w first owed seen, ?_⟩
            rw [Tracer.optionsCalls, if_neg (by simp [free])]
            exact Host.answers_append.mpr ⟨answered, congrArg _ set, trivial⟩
          | error e =>
            refine ⟨_, _, _, .missed n w first owed seen free e, ?_⟩
            exact Host.answers_append.mpr ⟨answered, congrArg _ set, trivial⟩
      · rw [not_exists] at opens
        have later (first : FirstStop) (owed : x.awaiting = some first) :
            w.status ≠ .stopped first.signal := fun seen => opens first ⟨owed, seen⟩
        cases final : stop.isTerminal with
        | true => exact ⟨_, _, _, .ended n w stop told final, answered⟩
        | false => exact ⟨_, _, _, .stopped n w stop told final later, answered⟩

end Waits

end ProcTrace
