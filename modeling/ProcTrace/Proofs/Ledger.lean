import ProcTrace.Proofs.Course
import ProcTrace.Session
import Mathlib.Data.List.Nodup

/-!
# Ledgers of sessions

A `Ledger` is what a session changes: the tracers, all the tracees that they have made, handed out
or abandoned, and the journal.  `Ledger.Step` lists the steps that sessions are made of; it leaves
open which process ids a new tracee may have.

* `Ledger.Step`            the steps: births, steps of driving, looks, and what concerns no one;
* `Ledger.Steps.driven`    a course of driving inside a ledger;
* `Ledger.LiveInvariant`   a property of a tracee and the journal that every step of the tracee
                           keeps, and that nothing about other processes can break;
* `Ledger.LiveInvariant.keeps_steps`   it then holds of all live tracees, if these have distinct
                           ids.
-/

namespace ProcTrace

/-- a tracee that has not ended -/
def Held.isLive (h : Held) : Bool := !h.tracee.state.isTerminal

theorem Held.isLive_iff {h : Held} : h.isLive = true ↔ h.tracee.state.isTerminal = false := by
  simp [isLive]

/-- the process ids of those that have not ended -/
def Held.livePids (hs : List Held) : List Pid := (hs.filter isLive).map (·.tracee.pid)

theorem Held.livePids_append (hs gs : List Held) :
    livePids (hs ++ gs) = livePids hs ++ livePids gs := by
  rw [livePids, List.filter_append, List.map_append]
  rfl

theorem Held.livePids_cons (h : Held) (hs : List Held) :
    livePids (h :: hs) = if h.isLive then h.tracee.pid :: livePids hs else livePids hs := by
  rw [livePids, List.filter_cons]
  split <;> rfl

theorem Held.mem_livePids {hs : List Held} {pid : Pid} :
    pid ∈ livePids hs ↔ ∃ h ∈ hs, h.isLive = true ∧ h.tracee.pid = pid := by
  simp [livePids, and_assoc]

/-- No other live one has the id of a live one. -/
theorem Held.pid_alone {a b : List Held} {h : Held} (distinct : (livePids (a ++ h :: b)).Nodup)
    (live : h.isLive = true) : h.tracee.pid ∉ livePids (a ++ b) := by
  rw [livePids_append, livePids_cons, if_pos live] at distinct
  rw [livePids_append]
  exact (List.nodup_cons.mp (List.nodup_middle.mp distinct)).1

/-- Live ones with distinct ids that have one id are one. -/
theorem Held.eq_of_pid {hs : List Held} (distinct : (livePids hs).Nodup) {h g : Held}
    (hmem : h ∈ hs) (gmem : g ∈ hs) (hlive : h.isLive = true) (glive : g.isLive = true)
    (same : h.tracee.pid = g.tracee.pid) : h = g :=
  List.inj_on_of_nodup_map distinct (List.mem_filter.mpr ⟨hmem, hlive⟩)
    (List.mem_filter.mpr ⟨gmem, glive⟩) same

/-- One of them, between those before it and those behind it, which changing it leaves alone. -/
theorem Held.split {hs : List Held} {j : Nat} {h : Held} (at_ : hs[j]? = some h) :
    ∃ a b, hs = a ++ h :: b ∧ ∀ f : Held → Held, hs.modify j f = a ++ f h :: b := by
  obtain ⟨inside, same⟩ := List.getElem?_eq_some_iff.mp at_
  refine ⟨hs.take j, hs.drop (j + 1), ?_, fun f => ?_⟩
  · rw [← same, List.getElem_cons_drop, List.take_append_drop]
  · rw [List.modify_eq_take_cons_drop inside, same]

/-- a tracee as it is handed out -/
def Tracee.born (pid : Pid) (first : FirstStop) : Tracee :=
  { Tracee.new pid first with state := .attached }

/-- what making a tracee writes into the journal -/
inductive Birth (pid : Pid) : FirstStop → Journal → Prop where
  /-- zero is what a fork replies in the child -/
  | spawned (program : CString) (parent : pid ≠ 0) :
    Birth pid .exec [.note (.stateSet pid .created .attached), .note (.spawned pid program),
      .call (.fork (.ok pid))]
  | attached :
    Birth pid .attach [.note (.stateSet pid .created .attached), .note (.attached pid),
      .call (.attach pid (.ok ()))]

theorem Birth.about {pid : Pid} {first : FirstStop} {es : Journal} (birth : Birth pid first es) :
    ∀ e ∈ es, e.about = some pid := by
  cases birth with
  | spawned _ parent => simp [Entry.about, Note.about, Syscall.about, parent]
  | attached => simp [Entry.about, Note.about, Syscall.about]

structure Ledger where
  tracers : List Tracer
  held : List Held
  journal : Journal

namespace Ledger

def livePids (l : Ledger) : List Pid := Held.livePids l.held

/-- no live tracee has this process id -/
def Fresh (l : Ledger) (pid : Pid) : Prop := pid ∉ l.livePids

/-- the steps of a session in which a new tracee has a process id as `may` allows -/
inductive Step (may : Ledger → Pid → Prop) : Ledger → Ledger → Prop where
  | idle {l} (e : Entry) (none : e.about = none) : Step may l { l with journal := e :: l.journal }
  | options {l} (i : Nat) (t : Tracer) (found : l.tracers[i]? = some t) (options : Options) :
    Step may l { l with tracers := l.tracers.set i (t.setOptions options) }
  | looked {l} (h : Held) (mem : h ∈ l.held) (e : Entry) (looks : e.Looks h.tracee) :
    Step may l { l with journal := e :: l.journal }
  | born {ts a b j} (i : Nat) (t : Tracer) (found : ts[i]? = some t) (pid : Pid) (first : FirstStop)
      (es : Journal) (birth : Birth pid first es) (allowed : may ⟨ts, a ++ b, j⟩ pid) :
    Step may ⟨ts, a ++ b, j⟩
      ⟨ts.set i (t.adopt pid), a ++ ⟨i, first, .born pid first⟩ :: b, es ++ j⟩
  | driven {ts a b j} (i : Nat) (t : Tracer) (found : ts[i]? = some t) (h : Held) (c : Course)
      (step : Course.Step ⟨t, h.tracee, j⟩ c) :
    Step may ⟨ts, a ++ h :: b, j⟩
      ⟨ts.set i c.tracer, a ++ { h with tracee := c.tracee } :: b, c.journal⟩

abbrev Steps (may : Ledger → Pid → Prop) : Ledger → Ledger → Prop :=
  Relation.ReflTransGen (Step may)

variable {may : Ledger → Pid → Prop}

namespace Steps

theorem idle {l : Ledger} {es : Journal} (none : ∀ e ∈ es, e.about = none) :
    Steps may l { l with journal := es ++ l.journal } := by
  induction es with
  | nil => exact .refl
  | cons e es ih =>
    obtain ⟨first, rest⟩ := List.forall_mem_cons.mp none
    exact (ih rest).tail (.idle e first)

theorem looked {l : Ledger} {h : Held} (mem : h ∈ l.held) {es : Journal}
    (looks : ∀ e ∈ es, e.Looks h.tracee) : Steps may l { l with journal := es ++ l.journal } := by
  induction es with
  | nil => exact .refl
  | cons e es ih =>
    obtain ⟨first, rest⟩ := List.forall_mem_cons.mp looks
    exact (ih rest).tail (.looked (l := { l with journal := es ++ l.journal }) h mem e first)

theorem driven {ts : List Tracer} {i : Nat} {t : Tracer} (found : ts[i]? = some t) {a b : List Held}
    {h : Held} {j : Journal} {c : Course} (steps : Course.Steps ⟨t, h.tracee, j⟩ c) :
    Steps may ⟨ts, a ++ h :: b, j⟩
      ⟨ts.set i c.tracer, a ++ { h with tracee := c.tracee } :: b, c.journal⟩ := by
  obtain ⟨inside, same⟩ := List.getElem?_eq_some_iff.mp found
  induction steps with
  | refl =>
    have unset : ts.set i t = ts := by rw [← same, List.set_getElem_self]
    rw [unset]
  | tail _ step ih =>
    rename_i c d _
    have now : (ts.set i c.tracer)[i]? = some c.tracer := List.getElem?_set_self inside
    have next : Step may ⟨_, a ++ { h with tracee := c.tracee } :: b, _⟩ _ :=
      .driven i c.tracer now { h with tracee := c.tracee } d step
    rw [List.set_set] at next
    exact ih.tail next

end Steps

/-! ## distinct ids -/

/-- New ids are not those of live tracees, and a tracee keeps its id and never comes back. -/
theorem Step.distinct {l m : Ledger} (step : Step Fresh l m) (distinct : l.livePids.Nodup) :
    m.livePids.Nodup := by
  cases step with
  | idle _ _ | options _ _ _ _ | looked _ _ _ _ => exact distinct
  | born i t found pid first es birth fresh =>
    rename_i ts a b j
    have fresh : pid ∉ Held.livePids a ++ Held.livePids b := by
      rw [← Held.livePids_append]
      exact fresh
    show (Held.livePids (a ++ ⟨i, first, .born pid first⟩ :: b)).Nodup
    have alive : Held.isLive ⟨i, first, .born pid first⟩ = true := rfl
    rw [Held.livePids_append, Held.livePids_cons, if_pos alive]
    refine List.nodup_middle.mpr (List.nodup_cons.mpr ⟨fresh, ?_⟩)
    rw [← Held.livePids_append]
    exact distinct
  | driven i t found h c step =>
    rename_i ts a b j
    have distinct : (Held.livePids (a ++ h :: b)).Nodup := distinct
    show (Held.livePids (a ++ { h with tracee := c.tracee } :: b)).Nodup
    rw [Held.livePids_append, Held.livePids_cons] at distinct ⊢
    have pid : c.tracee.pid = h.tracee.pid := step.pid
    rcases step.tracer with ⟨_, same⟩ | ⟨_, gone, _⟩
    · have alive : Held.isLive { h with tracee := c.tracee } = h.isLive := congrArg (!·) same
      rw [alive, pid]
      exact distinct
    · have ended : ¬ Held.isLive { h with tracee := c.tracee } = true := by
        simp [Held.isLive, gone]
      rw [if_neg ended]
      refine distinct.sublist (List.Sublist.append_left ?_ _)
      split
      · exact List.sublist_cons_self _ _
      · exact List.Sublist.refl _

theorem Steps.distinct {l m : Ledger} (steps : Steps Fresh l m) (distinct : l.livePids.Nodup) :
    m.livePids.Nodup := by
  induction steps with
  | refl => exact distinct
  | tail _ step ih => exact step.distinct ih

/-! ## invariants of live tracees -/

/-- A property of a tracee and the journal that a tracee is born with, that its own steps keep and
that no entry about another process can break. -/
structure LiveInvariant (P : Tracee → Journal → Prop) : Prop where
  born {pid first es} (birth : Birth pid first es) (j : Journal) :
    P (.born pid first) (es ++ j)
  step {c d} (step : Course.Step c d) (before : P c.tracee c.journal) : P d.tracee d.journal
  other {x e} (foreign : e.about ≠ some x.pid) {j} (before : P x j) : P x (e :: j)

/-- all live tracees have the property -/
def Throughout (P : Tracee → Journal → Prop) (l : Ledger) : Prop :=
  ∀ h ∈ l.held, h.isLive = true → P h.tracee l.journal

theorem throughout_middle {P : Tracee → Journal → Prop} {ts : List Tracer} {a b : List Held}
    {h : Held} {j : Journal} : Throughout P ⟨ts, a ++ h :: b, j⟩ ↔
      Throughout P ⟨ts, a ++ b, j⟩ ∧ (h.isLive = true → P h.tracee j) := by
  rw [Throughout, Throughout, List.forall_mem_append, List.forall_mem_append,
    List.forall_mem_cons, and_comm (b := ∀ _ ∈ b, _), and_assoc]

namespace LiveInvariant

variable {P : Tracee → Journal → Prop}

theorem others (inv : LiveInvariant P) {x : Tracee} {es j : Journal}
    (foreign : ∀ e ∈ es, e.about ≠ some x.pid) (before : P x j) : P x (es ++ j) := by
  induction es with
  | nil => exact before
  | cons e es ih =>
    obtain ⟨first, rest⟩ := List.forall_mem_cons.mp foreign
    exact inv.other first (ih rest)

theorem keeps (inv : LiveInvariant P) {l m : Ledger} (step : Step Fresh l m)
    (distinct : l.livePids.Nodup) (all : Throughout P l) : Throughout P m := by
  cases step with
  | options _ _ _ _ => exact all
  | idle e none =>
    intro h mem live
    exact inv.other (by simp [none]) (all h mem live)
  | looked g gmem e looks =>
    intro h mem live
    rcases looks.about with none | ⟨about, stands⟩
    · exact inv.other (by simp [none]) (all h mem live)
    · by_cases same : h.tracee.pid = g.tracee.pid
      · have one : h = g := Held.eq_of_pid distinct mem gmem live (Held.isLive_iff.mpr stands) same
        subst one
        exact inv.step (c := ⟨.new, h.tracee, l.journal⟩) (.look e looks) (all h mem live)
      · exact inv.other (by simpa [about] using fun eq => same eq.symm) (all h mem live)
  | born i t found pid first es birth fresh =>
    refine throughout_middle.mpr ⟨fun h mem live => ?_, fun _ => inv.born birth _⟩
    refine inv.others (fun e emem => ?_) (all h mem live)
    rw [birth.about e emem]
    intro same
    exact fresh (Held.mem_livePids.mpr ⟨h, mem, live, (Option.some.inj same).symm⟩)
  | driven i t found g c step =>
    obtain ⟨others, own⟩ := throughout_middle.mp all
    obtain ⟨es, written, about⟩ := step.entries
    refine throughout_middle.mpr ⟨fun h mem live => ?_, fun live => ?_⟩
    · show P h.tracee c.journal
      rw [written]
      refine inv.others (fun e emem => ?_) (others h mem live)
      rcases about e emem with none | ⟨mine, stands⟩
      · simp [none]
      · rw [mine]
        intro same
        exact Held.pid_alone distinct (Held.isLive_iff.mpr stands)
          (Held.mem_livePids.mpr ⟨h, mem, live, (Option.some.inj same).symm⟩)
    · have stands : g.isLive = true := by
        rw [Held.isLive_iff] at live ⊢
        rcases step.tracer with ⟨_, same⟩ | ⟨_, gone, _⟩
        · rw [← same]
          exact live
        · rw [gone] at live
          cases live
      exact inv.step step (own stands)

theorem keeps_steps (inv : LiveInvariant P) {l m : Ledger} (steps : Steps Fresh l m)
    (distinct : l.livePids.Nodup) (all : Throughout P l) : Throughout P m := by
  induction steps with
  | refl => exact all
  | tail steps step ih => exact inv.keeps step (Steps.distinct steps distinct) ih

end LiveInvariant

end Ledger

end ProcTrace
