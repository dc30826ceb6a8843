import ProcTrace.Proofs.Strings.Arrays

/-!
# The initial stack is read back

How the kernel lays out the stack of a new image, and that reading it gives what was laid out.

* `StringAt`               a string that begins at an address, aligned or not;
* `InitialStack`           the number of arguments, the pointers to them, those to the environment;
* `Memory.stringAt`        a string in a memory of bytes is one;
* `Inspect.Reads`          an attempt that comes to a value, whatever host it is run on;
* `Inspect.spelled_of_stringAt`, `Inspect.reads_strings`   what lies there is what is read;
* `Inspect.reads_execArguments`, `Inspect.reads_execEnvironment`   both vectors, found in two ways:
                           one lies above the stack pointer, the other where the count says.
-/

namespace ProcTrace

/-! ## what lies in memory -/

/-- the words from `a` on begin with the string and its zero byte; what follows is left open -/
def StringAt (read : Address → Reply Word) (a : Nat) (s : CString) : Prop :=
  ∃ ws, WordsAt read a ws ∧ s.image <+: ws.flatMap Word.bytes

/-- none of the pointers is null, and they point to the strings -/
def PointersTo (read : Address → Reply Word) (ps : List Word) (ss : List CString) : Prop :=
  List.Forall₂ (fun p s => p ≠ 0 ∧ StringAt read p.toAddress.toNat s) ps ss

/-- At the stack pointer lies the number of arguments.  Above it lie the pointers to the arguments
and a null pointer, and then the pointers to the environment and a null pointer. -/
structure InitialStack (read : Address → Reply Word) (sp : Nat) (args env : List CString) where
  argc : Word
  argv : List Word
  envp : List Word
  counts : argc.toAddress.toNat = args.length
  words : WordsAt read sp (argc :: argv ++ 0 :: (envp ++ [0]))
  args_at : PointersTo read argv args
  env_at : PointersTo read envp env

variable {read : Address → Reply Word}

/-! ## memories of bytes -/

namespace Memory

variable {m : Memory}

/-- A string that lies in memory with its zero byte, in as many whole words as it takes. -/
theorem stringAt {a n : Nat} {bs : Bytes} {s : CString}
    (found : m.bytes? a (n * wordSize) = some bs) (begins : s.image <+: bs) :
    StringAt m.word a s := by
  obtain ⟨ws, words, rfl⟩ := wordsAt found
  exact ⟨ws, words, begins⟩

end Memory

/-! ## attempts that come to a value -/

namespace Inspect

/-- The attempt comes to `v` whenever the kernel is `k`, and leaves the kernel as it is. -/
def Reads (k : Kernel) (act : Attempt α) (v : α) : Prop :=
  ∀ h : Host, h.kernel = k → ∃ g, act.runOn h = (.ok v, g) ∧ g.kernel = k

namespace Reads

variable {k : Kernel}

theorem pure (v : α) : Reads k (pure v) v := fun h same => ⟨h, rfl, same⟩

theorem bind {act : Attempt α} {f : α → Attempt β} {a : α} {b : β} (first : Reads k act a)
    (rest : Reads k (f a) b) : Reads k (act >>= f) b := by
  intro h same
  obtain ⟨g, run, same⟩ := first h same
  obtain ⟨g', run', same⟩ := rest g same
  refine ⟨g', ?_, same⟩
  rw [Attempt.runOn_bind, run]
  exact run'

end Reads

theorem Yields.reads {k : Kernel} {act : Attempt α} {calls : List Syscall} {v : α}
    (yields : Yields k act calls (.ok v)) : Reads k act v := by
  intro h same
  obtain ⟨g, run, same, _⟩ := yields h same
  exact ⟨g, run, same⟩

variable {t : Tracee} {k : Kernel}

theorem reads_register (stopped : t.state = .stopped) {r : Slot} {w : Word}
    (found : k.registers t.pid r.offset = .ok w) : Reads k (register t r) w := by
  have named : (k.registers t.pid r.offset).named = .ok w := by
    rw [found]
    rfl
  exact (yields_register stopped named).reads

theorem reads_wordAt (stopped : t.state = .stopped) {a : Address} {w : Word}
    (found : WordAt (k.memory t.pid) a.toNat w) : Reads k (memoryWord t a) w := by
  have found := found.2
  rw [UInt64.ofNat_toNat] at found
  exact (yields_memoryWord stopped (Kernel.peek_of_memory found)).reads

/-- Where there is a word to come, there is an address for it. -/
theorem reads_nextWord {a : Address} {ws : List Word}
    (more : WordsAt read (a.toNat + wordSize) ws) (some : ws ≠ []) :
    ∃ b : Address, b.toNat = a.toNat + wordSize ∧ Reads k (nextWord t a) b := by
  have next : a.next? = Option.some (.ofNat (a.toNat + wordSize)) := if_pos (more.inside some)
  refine ⟨.ofNat (a.toNat + wordSize), Address.toNat_add? next, ?_⟩
  rw [nextWord, next]
  exact .pure _

/-! ## strings and arrays -/

theorem spelled_of_stringAt {a : Nat} {s : CString} (found : StringAt (k.memory t.pid) a s)
    (short : s.bytes.length ≤ 131071) : Spelled (k.peek t.pid) a s.bytes := by
  obtain ⟨ws, words, begins⟩ := found
  have size : s.image.length ≤ (s.bytes.length / wordSize + 1) * wordSize := by
    rw [CString.image, List.length_append, List.length_singleton, wordSize]
    omega
  have enough : s.bytes.length / wordSize + 1 ≤ ws.length := by
    have whole := begins.length_le
    rw [Word.length_flatMap_bytes, CString.image, List.length_append, List.length_singleton]
      at whole
    rw [wordSize] at whole ⊢
    omega
  -- the words behind those of the string are not looked at
  obtain ⟨us, vs, rfl, count⟩ : ∃ us vs, ws = us ++ vs ∧
      us.length = s.bytes.length / wordSize + 1 :=
    ⟨ws.take _, ws.drop _, (List.take_append_drop _ ws).symm, List.length_take_of_le enough⟩
  refine ⟨s.zero_free, Nat.lt_succ_of_le short, us, count, ?_, ?_⟩
  · exact (WordsAt.append.mp words).1.mono fun _ _ => Kernel.peek_of_memory
  · rw [List.flatMap_append] at begins
    refine List.prefix_of_prefix_length_le begins (List.prefix_append _ _) ?_
    rw [Word.length_flatMap_bytes, count]
    exact size

theorem leadTo_of_pointersTo {str : Word → Except Error Bytes}
    (spelled : ∀ (p : Word) (bs : Bytes),
      str p = .ok bs ↔ Spelled (k.peek t.pid) p.toAddress.toNat bs)
    {ps : List Word} {ss : List CString} (points : PointersTo (k.memory t.pid) ps ss)
    (short : ∀ s ∈ ss, s.bytes.length ≤ 131071) : LeadTo str ps (ss.map CString.bytes) := by
  induction points with
  | nil => exact .nil
  | cons point _ ih =>
    obtain ⟨first, others⟩ := List.forall_mem_cons.mp short
    have read := (spelled _ _).mpr (spelled_of_stringAt point.2 first)
    exact .cons ⟨point.1, read⟩ (ih others)

/-- An array of up to `2 ^ 14 - 1` pointers is read up to its null pointer, each string of up to
`2 ^ 17 - 1` bytes in one go. -/
theorem reads_strings (stopped : t.state = .stopped) {start : Address} {ps rest : List Word}
    {ss : List CString} (points : PointersTo (k.memory t.pid) ps ss)
    (words : WordsAt (k.memory t.pid) start.toNat (ps ++ 0 :: rest))
    (short : ∀ s ∈ ss, s.bytes.length ≤ 131071) (few : ss.length < scanLimit) :
    Reads k (strings t start) (ss.map CString.bytes) := by
  choose asks str reads _ spelled _ using fun p : Word => yields_string stopped k p.toAddress
  obtain ⟨calls, r, yields, listed, _⟩ := yields_strings stopped reads start
  rw [List.append_cons] at words
  have pointers : WordsAt (k.peek t.pid) start.toNat (ps ++ [0]) :=
    (WordsAt.append.mp words).1.mono fun _ _ => Kernel.peek_of_memory
  have found : Listed (k.peek t.pid) str start.toNat (ss.map CString.bytes) :=
    ⟨by rw [List.length_map]; exact few, ps, pointers, leadTo_of_pointersTo spelled points short⟩
  rw [(listed _).mpr found] at yields
  exact yields.reads

/-! ## both vectors -/

section

variable {layout : Layout} {sp : Word} {args env : List CString}

theorem reads_stackPointer (stopped : t.state = .stopped)
    (found : k.registers t.pid layout.stackPointer = .ok sp) :
    Reads k (stackPointer t layout) sp :=
  reads_register stopped found

theorem reads_execArguments (stopped : t.state = .stopped)
    (found : k.registers t.pid layout.stackPointer = .ok sp)
    (stack : InitialStack (k.memory t.pid) sp.toAddress.toNat args env)
    (few : args.length ≤ 16383) (short : ∀ s ∈ args, s.bytes.length ≤ 131071) :
    Reads k (execArguments t layout) (args.map CString.bytes) := by
  obtain ⟨_, more⟩ := stack.words
  obtain ⟨b, far, step⟩ := reads_nextWord more (by simp)
  rw [← far] at more
  have bound : args.length < scanLimit := by
    rw [scanLimit]
    omega
  exact .bind (reads_stackPointer stopped found)
    (.bind step (reads_strings stopped stack.args_at more short bound))

theorem reads_execEnvironment (stopped : t.state = .stopped)
    (found : k.registers t.pid layout.stackPointer = .ok sp)
    (stack : InitialStack (k.memory t.pid) sp.toAddress.toNat args env)
    (few : env.length ≤ 16383) (short : ∀ s ∈ env, s.bytes.length ≤ 131071) :
    Reads k (execEnvironment t layout) (env.map CString.bytes) := by
  have count : (stack.argc :: stack.argv ++ [0]).length = stack.argc.toAddress.toNat + 2 := by
    rw [stack.counts, ← stack.args_at.length_eq]
    simp
  have whole := stack.words
  rw [List.append_cons] at whole
  have above := (WordsAt.append.mp whole).2
  rw [count] at above
  have start : sp.toAddress.add? ((stack.argc.toAddress.toNat + 2) * wordSize) =
      some (.ofNat (sp.toAddress.toNat + (stack.argc.toAddress.toNat + 2) * wordSize)) :=
    if_pos (above.inside (by simp))
  rw [← Address.toNat_add? start] at above
  have bound : env.length < scanLimit := by
    rw [scanLimit]
    omega
  refine .bind (reads_stackPointer stopped found) ?_
  refine .bind (reads_wordAt stopped stack.words.1) ?_
  simp only [environmentStart?_eq, start]
  exact reads_strings stopped stack.env_at above short bound

/-- Whatever else the process shows, and whatever was done before, both vectors are read back. -/
theorem execVectors_of_initialStack (stopped : t.state = .stopped) {h : Host}
    (found : h.kernel.registers t.pid layout.stackPointer = .ok sp)
    (stack : InitialStack (h.kernel.memory t.pid) sp.toAddress.toNat args env)
    (few : args.length ≤ 16383 ∧ env.length ≤ 16383)
    (short : ∀ s ∈ args ++ env, s.bytes.length ≤ 131071) :
    ((execArguments t layout).runOn h).1 = .ok (args.map CString.bytes) ∧
      ((execEnvironment t layout).runOn h).1 = .ok (env.map CString.bytes) := by
  obtain ⟨shortArgs, shortEnv⟩ := List.forall_mem_append.mp short
  obtain ⟨_, runArgs, _⟩ := reads_execArguments stopped found stack few.1 shortArgs h rfl
  obtain ⟨_, runEnv, _⟩ := reads_execEnvironment stopped found stack few.2 shortEnv h rfl
  rw [runArgs, runEnv]
  exact ⟨rfl, rfl⟩

end

/-- the memory of a process that was started as `ls`, with `A=1` in its environment -/
def smallStack : Memory := .ofSegments
  [.ofBytes 0x8000000000001000 ([1, 0x8000000000002003, 0, 0x8000000000002006, 0].flatMap
      fun u : UInt64 => Word.bytes u.toInt64),
    .ofBytes 0x8000000000002003 [0x6c, 0x73, 0, 0x41, 0x3d, 0x31, 0, 1, 2, 3, 4]]

theorem execVectors_of_smallStack :
    let t : Tracee := ⟨1000, .stopped, none, some .exec⟩
    let k : Kernel := { memory := fun _ => smallStack.word
                        registers := fun _ _ => .ok (0x8000000000001000 : UInt64).toInt64 }
    ((execArguments t .native).runOn ⟨k, .unknown, 1001, []⟩).1 = .ok [[0x6c, 0x73]] ∧
      ((execEnvironment t .native).runOn ⟨k, .unknown, 1001, []⟩).1 = .ok [[0x41, 0x3d, 0x31]] := by
  intro t k
  let ls : CString := ⟨[0x6c, 0x73], by decide⟩
  let a : CString := ⟨[0x41, 0x3d, 0x31], by decide⟩
  let p : Word := (0x8000000000002003 : UInt64).toInt64
  let q : Word := (0x8000000000002006 : UInt64).toInt64
  have atP : smallStack.bytes? p.toAddress.toNat (1 * wordSize) =
      some [0x6c, 0x73, 0, 0x41, 0x3d, 0x31, 0, 1] := by decide +kernel
  have atQ : smallStack.bytes? q.toAddress.toNat (1 * wordSize) =
      some [0x41, 0x3d, 0x31, 0, 1, 2, 3, 4] := by decide +kernel
  let sp : Word := (0x8000000000001000 : UInt64).toInt64
  have stack : InitialStack (k.memory t.pid) sp.toAddress.toNat [ls] [a] := {
    argc := 1
    argv := [p]
    envp := [q]
    counts := by decide
    words := by decide +kernel
    args_at := .cons ⟨by decide, Memory.stringAt atP (by decide)⟩ .nil
    env_at := .cons ⟨by decide, Memory.stringAt atQ (by decide)⟩ .nil }
  have short : ∀ s ∈ [ls] ++ [a], s.bytes.length ≤ 131071 := by decide
  exact execVectors_of_initialStack (t := t) (h := ⟨k, .unknown, 1001, []⟩) rfl rfl stack
    (by decide) short

end Inspect

end ProcTrace
