import ProcTrace.Proofs.Dialogue
import ProcTrace.Proofs.Ledger.Session

/-!
# The two sides of a fork

The child runs the program traced, or runs nothing and exits; it never goes on with the parent's
side.  What it hands to the exec is said as the reader sees it, who takes each string up to its
zero byte and the array up to its null pointer, and has nothing to read where either is missing.

* `Bytes.terminated?`, `PointerArray.read?`   what the reader sees;
* `PointerArray.read?_ofStrings`   an array that is passed for a list of strings is read as that;
* `Command.Executes`       the exec of a command, read so;
* `Command.ChildSide`      the dialogues of the child, and how it ends;
* `Tracer.Spawns`          the dialogues of a spawn on either side, and what it comes to;
* `Tracer.spawns_of_runOn` every spawn holds one of these.
-/

namespace ProcTrace

/-! ## what is read of an array -/

/-- the bytes before the first zero, if there is one -/
def Bytes.terminated? : Bytes → Option Bytes
  | [] => none
  | b :: bs => if b = 0 then some [] else (terminated? bs).map (b :: ·)

theorem Bytes.terminated?_append_zero {bs : Bytes} (clean : 0 ∉ bs) (rest : Bytes) :
    terminated? (bs ++ 0 :: rest) = some bs := by
  induction bs with
  | nil => rfl
  | cons b bs ih =>
    rw [List.mem_cons, not_or] at clean
    rw [List.cons_append, terminated?, if_neg (Ne.symm clean.1), ih clean.2]
    rfl

theorem CString.terminated?_image (s : CString) : s.image.terminated? = some s.bytes :=
  Bytes.terminated?_append_zero s.zero_free []

/-- the strings before the first null pointer, if there is one and they all end -/
def PointerArray.read? : PointerArray → Option (List Bytes)
  | [] => none
  | none :: _ => some []
  | some bs :: rest =>
    match bs.terminated?, read? rest with
    | some s, some ss => some (s :: ss)
    | _, _ => none

theorem PointerArray.read?_ofStrings (ss : List CString) :
    (ofStrings ss).read? = some (ss.map CString.bytes) := by
  induction ss with
  | nil => rfl
  | cons s ss ih =>
    show read? (some s.image :: ofStrings ss) = _
    rw [read?, s.terminated?_image, ih]
    rfl

/-- A reader would run on behind a string without its zero. -/
example : PointerArray.read? [some [0x6c, 0x73, 0], some [0x2f], none] = none := rfl

/-! ## the child -/

namespace Command

/-- The call executes the program of the command, and its reader finds just the arguments of the
command, and just its environment where that is explicit, be it empty. -/
inductive Executes (c : Command) (reply : Reply Unit) : Syscall → Prop where
  | inheriting {image : Bytes} {argv : PointerArray}
      (program : image.terminated? = some c.program.bytes)
      (arguments : argv.read? = some (c.argv.map CString.bytes)) (inherits : c.env = none) :
    Executes c reply (.exec image argv none reply)
  | explicit {image : Bytes} {argv envp : PointerArray} {env : List CString}
      (program : image.terminated? = some c.program.bytes)
      (arguments : argv.read? = some (c.argv.map CString.bytes)) (given : c.env = some env)
      (environment : envp.read? = some (env.map CString.bytes)) :
    Executes c reply (.exec image argv (some envp) reply)

theorem executes_exec (c : Command) (reply : Reply Unit) :
    c.Executes reply (.exec c.program.image c.argvPointers c.envPointers reply) := by
  have program := c.program.terminated?_image
  have arguments : c.argvPointers.read? = _ := PointerArray.read?_ofStrings c.argv
  rw [envPointers]
  cases given : c.env with
  | none => exact .inheriting program arguments given
  | some env => exact .explicit program arguments given (PointerArray.read?_ofStrings env)

/-- The calls of the child, and how it ends: with an exit code, or none as the program runs in its
place.  The program is never run untraced. -/
inductive ChildSide (c : Command) : List Syscall → Option Int32 → Prop where
  | untraced (e : Errno) : ChildSide c [.traceMe (.error e), .exit 126] (some 126)
  | unexecuted (e : Errno) {exec : Syscall} (tries : c.Executes (.error e) exec) :
    ChildSide c [.traceMe (.ok ()), exec, .exit 127] (some 127)
  | replaced {exec : Syscall} (tries : c.Executes (.ok ()) exec) :
    ChildSide c [.traceMe (.ok ()), exec] none

theorem exists_childSide (c : Command) (h : Host) : ∃ made exit, c.ChildSide made exit ∧
    h.Answers made ∧ (c.runChild h).1 = exit ∧ h.Came made (c.runChild h).2 := by
  let tries (reply : Reply Unit) : Syscall :=
    .exec c.program.image c.argvPointers c.envPointers reply
  have asked {reply : Reply Unit} (traced : (Host.traceMe h).1 = reply) :
      (Host.ask (.traceMe reply) h).1 = .traceMe reply := congrArg Syscall.traceMe traced
  have tried {g : Host} {reply : Reply Unit}
      (ran : (Host.exec c.program.image c.argvPointers c.envPointers g).1 = reply) :
      (Host.ask (tries reply) g).1 = tries reply := congrArg tries ran
  rw [runChild, HostM.bind_apply]
  cases traced : (Host.traceMe h).1 with
  | error e =>
    refine ⟨_, _, .untraced e, ⟨asked traced, rfl, trivial⟩, rfl, ?_⟩
    exact (Host.Came.asked (asked traced)).trans (.asked rfl)
  | ok _ =>
    simp only
    rw [HostM.bind_apply]
    cases ran : (Host.exec c.program.image c.argvPointers c.envPointers (Host.traceMe h).2).1 with
    | error e =>
      refine ⟨_, _, .unexecuted e (c.executes_exec _),
        ⟨asked traced, tried ran, rfl, trivial⟩, rfl, ?_⟩
      exact (Host.Came.asked (asked traced)).trans
        ((Host.Came.asked (tried ran)).trans (.asked rfl))
    | ok _ =>
      refine ⟨_, _, .replaced (c.executes_exec _), ⟨asked traced, tried ran, trivial⟩, rfl, ?_⟩
      exact (Host.Came.asked (asked traced)).trans (.asked (tried ran))

end Command

/-! ## both sides -/

/-- The calls of a spawn, what it comes to, and the tracer afterwards.  The parent forks and does
nothing else. -/
inductive Tracer.Spawns (t : Tracer) (c : Command) :
    List Syscall → Except Error (Forked Tracee) → Tracer → Prop where
  | unforked (e : Errno) : Spawns t c [.fork (.error e)] (.error (.spawn e)) t
  | child {made : List Syscall} {exit : Option Int32} (side : c.ChildSide made exit) :
    Spawns t c (.fork (.ok 0) :: made) (.ok (.child exit)) t
  | parent (pid : Pid) (real : pid ≠ 0) :
    Spawns t c [.fork (.ok pid)] (.ok (.parent (.born pid .exec))) (t.adopt pid)

/-- Whatever the tracer, the command and the replies of the host. -/
theorem Tracer.spawns_of_runOn (t : Tracer) (c : Command) (h : Host) :
    ∃ calls r u g, t.Spawns c calls r u ∧ h.Answers calls ∧ (spawn c).runOn ⟨t, h⟩ = (r, ⟨u, g⟩) ∧
      h.Came calls g := by
  have asked {reply : Reply Pid} (forked : (Host.fork h).1 = reply) :
      (Host.ask (.fork reply) h).1 = .fork reply := congrArg Syscall.fork forked
  rw [runOn_spawn]
  cases forked : (Host.fork h).1 with
  | error e =>
    exact ⟨_, _, _, _, .unforked e, ⟨asked forked, trivial⟩, rfl, .asked (asked forked)⟩
  | ok pid =>
    by_cases child : pid = 0
    · subst child
      obtain ⟨made, exit, side, answered, exits, came⟩ := c.exists_childSide (Host.fork h).2
      simp only [if_true, exits]
      refine ⟨_, _, _, _, .child side, ⟨asked forked, answered⟩, rfl, ?_⟩
      exact (Host.Came.asked (asked forked)).trans came
    · simp only [if_neg child]
      exact ⟨_, _, _, _, .parent pid child, ⟨asked forked, trivial⟩, rfl,
        .noted (.noted (.asked (asked forked)) _) _⟩

end ProcTrace
