import ProcTrace.Proofs.Ownership

/-!
# Stops that were told are kept

The other way round from what `ProcTrace.Proofs.Stillness` says: what was told to stand still is
known to stand still, and can be looked at and resumed.

* `Syscall.Unsettles`     the calls that put an end to a stop;
* `Entry.Unsettles`       these, and the two ways to be done with a stop and not keep it: a kill
                          lets it go, or the options could not be set at it;
* `Journal.StandsAt`      the latest stop that was told of a process, if nothing has unsettled it;
* `Course.Step.keeps`     a step of driving keeps it, or ends it in one of these ways;
* `Session.EveryStopKept`   what would be, if only calls could end it; it is not.
-/

namespace ProcTrace

/-! ## what unsettles a stop -/

/-- the call puts an end to an earlier stop of this process -/
inductive Syscall.Unsettles (pid : Pid) : Syscall → Prop where
  /-- a new process with the id of an old one -/
  | forked : Unsettles pid (.fork (.ok pid))
  | attached : Unsettles pid (.attach pid (.ok ()))
  /-- another status; that nothing has changed is none -/
  | told (w : Waited) (news : w.status ≠ .stillAlive) : Unsettles pid (.waitpid pid (.ok w))
  | continued (signal : Option Signal) : Unsettles pid (.cont pid signal (.ok ()))
  | killed : Unsettles pid (.kill pid .kill (.ok ()))

inductive Entry.Unsettles (pid : Pid) : Entry → Prop where
  | call {c : Syscall} (ends : c.Unsettles pid) : Unsettles pid (.call c)
  /-- a kill has let the stop go -/
  | letGo (stop : Stop) : Unsettles pid (.note (.letGo pid stop))
  /-- the options could not be set -/
  | missed (options : Options) (e : Errno) :
    Unsettles pid (.call (.setOptions pid options (.error e)))

/-- The latest that was told of the process is this stop, and nothing has unsettled it since. -/
def Journal.StandsAt (pid : Pid) (w : Waited) (j : Journal) : Prop :=
  ∃ later earlier, j = later ++ .call (.waitpid pid (.ok w)) :: earlier ∧
    w.status.isStop = true ∧ ∀ e ∈ later, ¬ e.Unsettles pid

namespace Journal.StandsAt

variable {pid : Pid} {w : Waited} {e : Entry} {j : Journal}

theorem cons (stands : StandsAt pid w (e :: j)) :
    e = .call (.waitpid pid (.ok w)) ∧ w.status.isStop = true ∨
      ¬ e.Unsettles pid ∧ StandsAt pid w j := by
  obtain ⟨later, earlier, split, stop, settled⟩ := stands
  cases later with
  | nil =>
    cases split
    exact .inl ⟨rfl, stop⟩
  | cons d later =>
    cases split
    obtain ⟨first, rest⟩ := List.forall_mem_cons.mp settled
    exact .inr ⟨first, later, earlier, rfl, stop, rest⟩

/-- What is no answer to a wait for the process tells no stop of it. -/
theorem tail (stands : StandsAt pid w (e :: j)) (silent : e ≠ .call (.waitpid pid (.ok w))) :
    ¬ e.Unsettles pid ∧ StandsAt pid w j :=
  stands.cons.resolve_left fun told => silent told.1

theorem note {n : Note} (stands : StandsAt pid w (.note n :: j)) : StandsAt pid w j :=
  (stands.tail nofun).2

theorem foreign (stands : StandsAt pid w (e :: j)) (other : e.about ≠ some pid) :
    StandsAt pid w j := by
  refine (stands.tail ?_).2
  rintro rfl
  exact other rfl

/-- A wait that was answered tells this stop, or that nothing has changed. -/
theorem answered {v : Waited} (stands : StandsAt pid w (.call (.waitpid pid (.ok v)) :: j)) :
    v = w ∧ w.status.isStop = true ∨ v.status = .stillAlive ∧ StandsAt pid w j := by
  rcases stands.cons with ⟨told, stop⟩ | ⟨settled, before⟩
  · cases told
    exact .inl ⟨rfl, stop⟩
  · by_cases nothing : v.status = .stillAlive
    · exact .inr ⟨nothing, before⟩
    · exact absurd (.call (.told v nothing)) settled

theorem optionsSet {t : Tracer} (stands : StandsAt pid w (t.optionsSet pid ++ j)) :
    StandsAt pid w j := by
  unfold Tracer.optionsSet at stands
  split at stands
  · exact stands
  · exact (stands.tail nofun).2.note

end Journal.StandsAt

open Journal

/-! ## steps -/

/-- The tracee is known to stand at the stop that was told last. -/
def Keeps (x : Tracee) (j : Journal) : Prop :=
  ∀ w, StandsAt x.pid w j → x.state = .stopped ∧ ∃ stop, x.lastStop = some stop ∧
    stop.status = w.status

namespace Course

variable {c d : Course}

theorem Step.keeps (step : Step c d) (before : Keeps c.tracee c.journal) :
    Keeps d.tracee d.journal := by
  intro w stands
  have unheard {x : Tracee} {j : Journal} (known : Keeps x j) (moves : x.state ∈ moving)
      (stands : StandsAt x.pid w j) : False :=
    ne_stopped_of_moving moves (known w stands).1
  cases step with
  | look e looks =>
    cases looks with
    | remark n aside => exact before w stands.note
    | peekData _ _ _ | peekUser _ _ _ => exact before w (stands.tail nofun).2
  | waitFailed may e other => exact (unheard before may.state (stands.tail nofun).2).elim
  | vanished may =>
    exact (unheard before may.state (stands.note.note.note.tail nofun).2).elim
  | odd may v none =>
    rcases stands.note.answered with ⟨rfl, stop⟩ | ⟨_, stands⟩
    · rw [WaitStatus.isStop_of_odd none] at stop
      cases stop
    · exact (unheard before may.state stands).elim
  | ended may v stop told final =>
    rcases stands.note.note.note.answered with ⟨rfl, still⟩ | ⟨nothing, _⟩
    · rw [WaitStatus.isStop_of_stop? told, final] at still
      cases still
    · rw [nothing] at told
      cases told
  | opened may v first owed told =>
    rcases stands.note.optionsSet.note.answered with ⟨rfl, _⟩ | ⟨nothing, _⟩
    · exact ⟨rfl, first.stop, rfl, first.status_stop.trans told.symm⟩
    · rw [nothing] at told
      cases told
  | missed may v first owed told some e =>
    exact absurd (.missed _ e) (stands.tail nofun).1
  | stopped may v stop told still later =>
    rcases stands.note.note.answered with ⟨rfl, _⟩ | ⟨nothing, _⟩
    · exact ⟨rfl, stop, rfl, WaitStatus.status_stop? told⟩
    · rw [nothing] at told
      cases told
  | resumed may => exact absurd (.call (.continued _)) (stands.note.tail nofun).1
  | killed may => exact absurd (.call .killed) (stands.tail nofun).1
  | killedStill may => exact absurd (.call .killed) (stands.note.tail nofun).1
  | letGo may stop => exact absurd (.letGo stop) (stands.note.tail nofun).1
  | resumeFailed _ _ | killFailed _ _ => exact before w (stands.tail nofun).2

end Course

theorem Ledger.liveInvariant_keeps : LiveInvariant Keeps where
  born := by
    intro pid first es birth j w stands
    cases birth with
    | spawned program parent => exact absurd (.call .forked) (stands.note.note.tail nofun).1
    | attached => exact absurd (.call .attached) (stands.note.note.tail nofun).1
  step := Course.Step.keeps
  other foreign _ before w stands := before w (stands.foreign foreign)

/-! ## whole runs -/

namespace Session

variable {n : Nat} {ops : List (Kernel × Op)}

/-- A live tracee that stands at a stop is known to, and its tracer may do with it whatever is done
with stopped tracees. -/
theorem stopped_of_standsAt (fresh : Fresh ops (new n)) {h : Held}
    (mem : h ∈ (run ops (new n)).2.tracees ++ (run ops (new n)).2.abandoned)
    (live : h.isLive = true) {w : Waited}
    (stands : StandsAt h.tracee.pid w (chronicle (run ops (new n)).1)) :
    h.tracee.state = .stopped ∧ (∃ stop, h.tracee.lastStop = some stop ∧ stop.status = w.status) ∧
      ∀ t, (run ops (new n)).2.tracers[h.owner]? = some t → ∀ action,
        t.permit h.tracee action [.stopped] = .ok () := by
  have nobody : Ledger.Throughout Keeps ((new n).ledger []) := fun h mem => by cases mem
  have kept := Ledger.liveInvariant_keeps.keeps_steps (run_goes fresh []) List.nodup_nil nobody
  rw [List.append_nil] at kept
  obtain ⟨stopped, last⟩ := kept h mem live w stands
  refine ⟨stopped, last, fun t found action => Tracer.permit_ok.mpr ⟨?_, ?_, ?_⟩⟩
  · exact Held.isLive_iff.mp live
  · exact ((run_ownership fresh).traced _ t found _).mpr ⟨h, mem, rfl, live, rfl⟩
  · rw [stopped]
    exact List.mem_singleton_self _

/-- A program is started and stops at its exec. -/
def startedAndStopped : List (Kernel × Op) :=
  [({}, .spawn 0 ls), ({ waits := [.ok ⟨none, 0x57f⟩] }, .wait 0 0)]

theorem stopped_of_startedAndStopped :
    let s := (run startedAndStopped (new 1)).2
    let h : Held := ⟨0, .exec, ⟨1000, .stopped, none, some .exec⟩⟩
    Fresh startedAndStopped (new 1) ∧ h ∈ s.tracees ++ s.abandoned ∧ h.isLive = true ∧
      StandsAt 1000 ⟨1000, .stopped .trap⟩ (chronicle (run startedAndStopped (new 1)).1) ∧
      ∃ t, s.tracers[0]? = some t ∧ t.permit h.tracee "resume" [.stopped] = .ok () := by
  intro s h
  have fresh : Fresh startedAndStopped (new 1) := by decide +kernel
  have mem : h ∈ s.tracees ++ s.abandoned := by decide +kernel
  have journal : chronicle (run startedAndStopped (new 1)).1 =
      [.note (.stateSet 1000 .attached .stopped), .call (.setOptions 1000 .standard (.ok ())),
        .note (.settingOptions 1000 .standard),
        .note (.statusSeen 1000 ⟨1000, .stopped .trap⟩)] ++
      .call (.waitpid 1000 (.ok ⟨1000, .stopped .trap⟩)) ::
        (chronicle (run startedAndStopped (new 1)).1).drop 5 := by decide +kernel
  have stands : StandsAt 1000 ⟨1000, .stopped .trap⟩
      (chronicle (run startedAndStopped (new 1)).1) := by
    refine ⟨_, _, journal, rfl, ?_⟩
    rintro e mem (⟨_ | _⟩ | _ | _)
    all_goals simp at mem
  obtain ⟨_, _, permitted⟩ := stopped_of_standsAt fresh mem rfl stands
  have tracer : s.tracers[0]? = some (Tracer.new.adopt 1000) := by decide +kernel
  exact ⟨fresh, mem, rfl, stands, _, tracer, permitted _ tracer "resume"⟩

/-! ## what calls alone do not tell -/

/-- the latest that was told of the process is this stop, and no call has unsettled it since -/
def ToldStill (pid : Pid) (w : Waited) (calls : List Syscall) : Prop :=
  ∃ earlier later, calls = earlier ++ .waitpid pid (.ok w) :: later ∧ w.status.isStop = true ∧
    ∀ c ∈ later, ¬ c.Unsettles pid

/-- every stop would be kept that no call has unsettled -/
def EveryStopKept (n : Nat) (ops : List (Kernel × Op)) : Prop :=
  ∀ h ∈ (run ops (new n)).2.tracees ++ (run ops (new n)).2.abandoned, h.isLive = true →
    ∀ w, ToldStill h.tracee.pid w (callTrace (run ops (new n)).1) →
      h.tracee.state = .stopped ∧ ∃ stop, h.tracee.lastStop = some stop ∧ stop.status = w.status

/-- A process is attached to and killed.  Its first stop is let go, and the next wait fails. -/
def killedAtStop : List (Kernel × Op) :=
  [({}, .attach 0 1000),
    ({ waits := [.ok ⟨none, 0x137f⟩, .error .eperm] }, .kill 0 0)]

/-- A program stops at its exec, where its options cannot be set. -/
def startedWithoutOptions : List (Kernel × Op) :=
  [({}, .spawn 0 ls),
    ({ waits := [.ok ⟨none, 0x57f⟩], setOptions := [.error .eperm] }, .wait 0 0)]

/-- Neither stop is kept, though no call has unsettled it and the error is not fatal. -/
theorem not_everyStopKept :
    (Fresh killedAtStop (new 1) ∧
      (run killedAtStop (new 1)).1.getLast?.map (·.outcome) = some (.error (.os .eperm)) ∧
      ¬ EveryStopKept 1 killedAtStop) ∧
    (Fresh startedWithoutOptions (new 1) ∧
      (run startedWithoutOptions (new 1)).1.getLast?.map (·.outcome) = some (.error (.os .eperm)) ∧
      ¬ EveryStopKept 1 startedWithoutOptions) ∧
    Error.isFatal (.os .eperm) = false := by
  refine ⟨⟨by decide +kernel, by decide +kernel, fun all => ?_⟩,
    ⟨by decide +kernel, by decide +kernel, fun all => ?_⟩, rfl⟩
  · have held : (⟨0, .attach, ⟨1000, .running, none, some .attach⟩⟩ : Held) ∈
        (run killedAtStop (new 1)).2.tracees ++ (run killedAtStop (new 1)).2.abandoned := by
      decide +kernel
    have calls : callTrace (run killedAtStop (new 1)).1 = [.attach 1000 (.ok ()),
        .kill 1000 .kill (.ok ()), .waitpid 1000 (.ok ⟨1000, .stopped .stop⟩),
        .setOptions 1000 .standard (.ok ()), .waitpid 1000 (.error .eperm)] := by decide +kernel
    have told : ToldStill 1000 ⟨1000, .stopped .stop⟩ (callTrace (run killedAtStop (new 1)).1) := by
      refine ⟨[_, _], [_, _], calls, rfl, ?_⟩
      rintro c mem (_ | _)
      all_goals simp at mem
    cases (all _ held rfl _ told).1
  · have held : (⟨0, .exec, ⟨1000, .attached, some .exec, none⟩⟩ : Held) ∈
        (run startedWithoutOptions (new 1)).2.tracees ++
          (run startedWithoutOptions (new 1)).2.abandoned := by decide +kernel
    have calls : callTrace (run startedWithoutOptions (new 1)).1 = [.fork (.ok 1000),
        .waitpid 1000 (.ok ⟨1000, .stopped .trap⟩),
        .setOptions 1000 .standard (.error .eperm)] := by decide +kernel
    have told : ToldStill 1000 ⟨1000, .stopped .trap⟩
        (callTrace (run startedWithoutOptions (new 1)).1) := by
      refine ⟨[_], [_], calls, rfl, ?_⟩
      rintro c mem (_ | _)
      all_goals simp at mem
    cases (all _ held rfl _ told).1

end Session

end ProcTrace
