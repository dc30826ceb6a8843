import ProcTrace.Proofs.Moves

/-!
# Who traces whom

A tracer's set of process ids and the tracees' own states are two records of one fact.

* `Made`                      a tracer has made a tracee of this id that lives;
* `Ledger.Ownership`          tracers trace just what they have made, while it lives, and no two
                              live tracees share an id;
* `Ledger.Step.ownership`     every step keeps it, whoever is handed whose tracee;
* `Session.Refusals`          who asks for a tracee of another, or for one of its own once more, is
                              refused and nothing happens;
* `Session.run_ownership`     whole runs keep it.
-/

namespace ProcTrace

/-! ## who has made whom -/

/-- the tracer at this position has made a tracee with this id that has not ended -/
def Made (hs : List Held) (i : Nat) (pid : Pid) : Prop :=
  ∃ h ∈ hs, h.owner = i ∧ h.isLive = true ∧ h.tracee.pid = pid

theorem made_middle {a b : List Held} {h : Held} {i : Nat} {pid : Pid} :
    Made (a ++ h :: b) i pid ↔
      Made (a ++ b) i pid ∨ h.owner = i ∧ h.isLive = true ∧ h.tracee.pid = pid := by
  constructor
  · rintro ⟨g, mem, made⟩
    rcases List.mem_append.mp mem with mem | mem
    · exact .inl ⟨g, List.mem_append_left _ mem, made⟩
    · rcases List.mem_cons.mp mem with rfl | mem
      · exact .inr made
      · exact .inl ⟨g, List.mem_append_right _ mem, made⟩
  · rintro (⟨g, mem, made⟩ | made)
    · refine ⟨g, ?_, made⟩
      rcases List.mem_append.mp mem with mem | mem
      · exact List.mem_append_left _ mem
      · exact List.mem_append_right _ (List.mem_cons_of_mem _ mem)
    · exact ⟨h, List.mem_append_right _ List.mem_cons_self, made⟩

theorem Made.mem_livePids {hs : List Held} {i : Nat} {pid : Pid} (made : Made hs i pid) :
    pid ∈ Held.livePids hs := by
  obtain ⟨h, mem, _, live, same⟩ := made
  exact Held.mem_livePids.mpr ⟨h, mem, live, same⟩

/-- The tracers after one of them was changed. -/
theorem getElem?_set_some {ts : List Tracer} {i k : Nat} {t u v : Tracer} (found : ts[i]? = some t)
    (now : (ts.set i u)[k]? = some v) : k = i ∧ v = u ∨ k ≠ i ∧ ts[k]? = some v := by
  by_cases same : i = k
  · subst same
    rw [List.getElem?_set_self (List.getElem?_eq_some_iff.mp found).1] at now
    exact .inl ⟨rfl, (Option.some.inj now).symm⟩
  · rw [List.getElem?_set_ne same] at now
    exact .inr ⟨Ne.symm same, now⟩

namespace Ledger

structure Ownership (l : Ledger) : Prop where
  /-- every tracee was made by a tracer that is there -/
  owner : ∀ h ∈ l.held, h.owner < l.tracers.length
  traced (i : Nat) (t : Tracer) (found : l.tracers[i]? = some t) (pid : Pid) :
    t.isTracing pid = true ↔ Made l.held i pid
  distinct : l.livePids.Nodup

variable {l m : Ledger}

/-- A live tracee is traced by none but the tracer that made it. -/
theorem Ownership.owner_of_isTracing (own : Ownership l) {i : Nat} {t : Tracer}
    (found : l.tracers[i]? = some t) {h : Held} (mem : h ∈ l.held) (live : h.isLive = true)
    (tracing : t.isTracing h.tracee.pid = true) : h.owner = i := by
  obtain ⟨g, gmem, owner, glive, same⟩ := (own.traced i t found _).mp tracing
  have one : g = h := Held.eq_of_pid own.distinct gmem mem glive live same
  rw [← one]
  exact owner

/-- As a tracee ends, its tracer still traces its others, and the other tracers theirs. -/
theorem Ownership.released {ts : List Tracer} {a b : List Held} {h : Held} {j : Journal}
    (own : Ownership ⟨ts, a ++ h :: b, j⟩) {i k : Nat} {t v : Tracer} (found : ts[i]? = some t)
    (live : h.isLive = true) (tracing : t.isTracing h.tracee.pid = true)
    (now : (ts.set i (t.release h.tracee.pid))[k]? = some v) (q : Pid) :
    v.isTracing q = true ↔ Made (a ++ b) k q := by
  have alone := Held.pid_alone own.distinct live
  have mine : h.owner = i :=
    own.owner_of_isTracing found (List.mem_append_right _ List.mem_cons_self) live tracing
  rcases getElem?_set_some found now with ⟨rfl, rfl⟩ | ⟨other, now⟩
  · rw [Tracer.isTracing_release, own.traced k t found q, made_middle]
    constructor
    · rintro ⟨ne, made | ⟨_, _, same⟩⟩
      · exact made
      · exact absurd same.symm ne
    · intro made
      refine ⟨?_, .inl made⟩
      rintro rfl
      exact alone made.mem_livePids
  · rw [own.traced k v now q, made_middle]
    exact or_iff_left fun old => other (old.1.symm.trans mine)

theorem Step.ownership (step : Step Fresh l m) (own : Ownership l) : Ownership m := by
  have distinct := step.distinct own.distinct
  cases step with
  | idle _ _ | looked _ _ _ _ => exact ⟨own.owner, own.traced, distinct⟩
  | options i t found options =>
    refine ⟨fun h mem => ?_, fun k v now pid => ?_, distinct⟩
    · rw [List.length_set]
      exact own.owner h mem
    · rcases getElem?_set_some found now with ⟨rfl, rfl⟩ | ⟨_, now⟩
      · exact own.traced k t found pid
      · exact own.traced k v now pid
  | born i t found pid first es birth fresh =>
    rename_i ts a b j
    obtain ⟨before, after⟩ := List.forall_mem_append.mp own.owner
    have mine : i < ts.length := (List.getElem?_eq_some_iff.mp found).1
    refine ⟨?_, fun k v now q => ?_, distinct⟩
    · rw [List.length_set]
      exact List.forall_mem_append.mpr ⟨before, List.forall_mem_cons.mpr ⟨mine, after⟩⟩
    · rw [made_middle]
      rcases getElem?_set_some found now with ⟨rfl, rfl⟩ | ⟨other, now⟩
      · rw [Tracer.isTracing_adopt, own.traced k t found q, or_comm]
        exact or_congr_right ⟨fun same => ⟨rfl, rfl, same.symm⟩, fun new => new.2.2.symm⟩
      · rw [own.traced k v now q]
        exact (or_iff_left fun new => other new.1.symm).symm
  | driven i t found h c step =>
    rename_i ts a b j
    obtain ⟨before, rest⟩ := List.forall_mem_append.mp own.owner
    obtain ⟨here, after⟩ := List.forall_mem_cons.mp rest
    refine ⟨?_, fun k v now q => ?_, distinct⟩
    · rw [List.length_set]
      exact List.forall_mem_append.mpr ⟨before, List.forall_mem_cons.mpr ⟨here, after⟩⟩
    rw [made_middle]
    rcases step.tracer with ⟨tracer, state⟩ | ⟨tracer, gone, tracing, stands⟩
    · have alive : Held.isLive { h with tracee := c.tracee } = h.isLive := congrArg (!·) state
      have before : ts[k]? = some v := by
        rcases getElem?_set_some found now with ⟨rfl, rfl⟩ | ⟨_, now⟩
        · rw [tracer]
          exact found
        · exact now
      rw [own.traced k v before q, made_middle, alive, step.pid]
    · have ended : ¬ Held.isLive { h with tracee := c.tracee } = true := by
        simp [Held.isLive, gone]
      rw [tracer] at now
      rw [or_iff_left fun new => ended new.2.1]
      exact own.released found (Held.isLive_iff.mpr stands) tracing now q

theorem Steps.ownership (steps : Steps Fresh l m) (own : Ownership l) : Ownership m := by
  induction steps with
  | refl => exact own
  | tail _ step ih => exact step.ownership ih

end Ledger

/-! ## refusals -/

namespace Session

/-- Nothing comes of an action that is refused before anything was done. -/
theorem drive_refused {s : Session} {k : Kernel} {i j : Nat} {t : Tracer} {h : Held} {e : Error}
    (found : s.tracers[i]? = some t) (at_ : s.tracees[j]? = some h) {act : Drive α}
    (refused : act.runOn ⟨t, h.tracee, s.host k⟩ = (.error e, ⟨t, h.tracee, s.host k⟩))
    (value : α → Value) : s.drive k i j act value = (⟨.error e, []⟩, s) := by
  rw [drive, at_, found]
  simp only
  rw [refused]
  show (_, ({ s with tracers := s.tracers.set i t, tracees := s.tracees.modify j _ } : Session)) = _
  rw [set_tracers_self found, modify_tracees_self at_]
  rfl

/-- what becomes of requests for tracees that are taken -/
structure Refusals (s : Session) : Prop where
  /-- a live tracee of another tracer -/
  foreign {i j : Nat} {t : Tracer} {h : Held} (found : s.tracers[i]? = some t)
    (at_ : s.tracees[j]? = some h) (live : h.isLive = true) (other : h.owner ≠ i) (k : Kernel) (op : Op)
    (drives : op ∈ [Op.wait i j, Op.resume i j, Op.kill i j]) :
    s.step k op = (⟨.error (.notOwned h.tracee.pid), []⟩, s)
  /-- a live tracee of one's own, attached to once more -/
  again {h : Held} (mem : h ∈ s.tracees ++ s.abandoned) (live : h.isLive = true) (k : Kernel) :
    s.step k (.attach h.owner h.tracee.pid) = (⟨.error (.alreadyTraced h.tracee.pid), []⟩, s)

theorem refusals_of_ownership {s : Session} {past : Journal} (own : (s.ledger past).Ownership) :
    s.Refusals where
  foreign := by
    intro i j t h found at_ live other k op drives
    have mem : h ∈ s.tracees ++ s.abandoned := List.mem_append_left _ (List.mem_of_getElem? at_)
    have untraced : t.isTracing h.tracee.pid = false := by
      cases tracing : t.isTracing h.tracee.pid with
      | false => rfl
      | true => exact absurd (own.owner_of_isTracing found mem live tracing) other
    have refused := Tracer.permit_of_foreign (Held.isLive_iff.mp live) untraced
    rcases List.mem_cons.mp drives with rfl | drives
    · show s.drive k i j Drive.wait .stop = _
      refine drive_refused found at_ ?_ _
      rw [Drive.runOn_wait, refused]
    rcases List.mem_cons.mp drives with rfl | drives
    · show s.drive k i j Drive.resume _ = _
      refine drive_refused found at_ ?_ _
      rw [Drive.runOn_resume, refused]
    · rw [List.mem_singleton.mp drives]
      show s.drive k i j Drive.kill .stop = _
      refine drive_refused found at_ ?_ _
      rw [Drive.runOn_kill, refused]
  again := by
    intro h mem live k
    obtain ⟨t, found⟩ : ∃ t, s.tracers[h.owner]? = some t :=
      ⟨_, List.getElem?_eq_getElem (own.owner h mem)⟩
    have tracing : t.isTracing h.tracee.pid = true :=
      (own.traced _ t found _).mpr ⟨h, mem, rfl, live, rfl⟩
    rw [step, withTracer, found]
    simp only
    rw [recruit, Recruit.runOn_map, Tracer.runOn_attach, if_pos tracing]
    show ((_, s.setTracer h.owner t) : Answer × Session) = _
    rw [setTracer, set_tracers_self found]
    rfl

/-! ## whole runs -/

theorem ownership_new (n : Nat) : ((new n).ledger []).Ownership where
  owner h mem := by cases mem
  traced := by
    intro i t found pid
    have same : t = .new := List.eq_of_mem_replicate (List.mem_of_getElem? found)
    subst same
    constructor
    · intro tracing
      cases tracing
    · rintro ⟨h, mem, _⟩
      cases mem
  distinct := List.nodup_nil

variable {n : Nat} {ops : List (Kernel × Op)}

theorem run_ownership (fresh : Fresh ops (new n)) :
    ((run ops (new n)).2.ledger (chronicle (run ops (new n)).1 ++ [])).Ownership :=
  Ledger.Steps.ownership (run_goes fresh []) (ownership_new n)

/-- After any run, each tracer traces just those of its tracees that live, whether somebody holds
them or not; all live tracees have ids of their own; and requests for those that are taken are
refused. -/
theorem ownership_of_run (fresh : Fresh ops (new n)) :
    let s := (run ops (new n)).2
    (∀ i t, s.tracers[i]? = some t → ∀ pid,
      t.isTracing pid = true ↔ Made (s.tracees ++ s.abandoned) i pid) ∧
    s.livePids.Nodup ∧ s.Refusals := by
  intro s
  have own := run_ownership fresh
  exact ⟨own.traced, own.distinct, refusals_of_ownership own⟩

/-- A program is started by the first of two tracers. -/
def startedByFirst : List (Kernel × Op) :=
  [({}, .spawn 0 ls)]

theorem refused_of_startedByFirst : Fresh startedByFirst (new 2) ∧
    ∀ k, (run startedByFirst (new 2)).2.step k (.wait 1 0) =
      (⟨.error (.notOwned 1000), []⟩, (run startedByFirst (new 2)).2) := by
  have fresh : Fresh startedByFirst (new 2) := by decide +kernel
  have second : (run startedByFirst (new 2)).2.tracers[1]? = some .new := by decide +kernel
  have first : (run startedByFirst (new 2)).2.tracees[0]? = some ⟨0, .exec, .born 1000 .exec⟩ := by
    decide +kernel
  obtain ⟨_, _, refusals⟩ := ownership_of_run fresh
  exact ⟨fresh, fun k => refusals.foreign second first rfl (by decide) k _ (by simp)⟩

end Session

end ProcTrace
