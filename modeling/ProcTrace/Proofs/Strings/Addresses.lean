import ProcTrace.Proofs.Strings.Arrays

/-!
# Addresses, without wrapping around

Where strings, arrays and the vectors of a new image are looked for in memory.  All addresses are
natural numbers here, so that a sum that leaves the address space is not taken for another address.

* `StringRow`               the words of a string, from its start on;
* `ArrayRow`                the pointers of an array, and behind each the words of its string;
* `Peeks`                   peeks at just these addresses, all of the address space;
* `Inspect.Scanned.exists_turns`   a scan peeks at words one after the other, none left out;
* `Inspect.yields_stringRow`, `Inspect.yields_arrayRow`   so do both kinds of scans;
* `Inspect.unwrapped_of_stopped`   and the vectors start where the stack pointer and the count say,
                            or are refused where that lies beyond the last address.
-/

namespace ProcTrace

/-! ## addresses that are meant -/

/-- the words of a string at `a`, as many as a scan may take -/
def StringRow (a : Nat) (as : List Nat) : Prop :=
  ∃ n, 0 < n ∧ n ≤ scanLimit ∧ as = (List.range n).map fun i => a + i * wordSize

/-- The addresses that are looked at behind a pointer, by what the peek at it has come to: those of
the string that it points to. -/
def Behind (found : Reply Word) (as : List Nat) : Prop :=
  match found with
  | .ok p => if p = 0 then as = [] else StringRow p.toAddress.toNat as
  | .error _ => as = []

/-- the pointers of an array at `a`, as many as a scan may take, and what is looked at behind each -/
def ArrayRow (read : Address → Reply Word) (a : Nat) (as : List Nat) : Prop :=
  ∃ (n : Nat) (behind : Nat → List Nat), 0 < n ∧ n ≤ scanLimit ∧
    as = ((List.range n).flatMap fun i => (a + i * wordSize) :: behind i) ∧
    ∀ i < n, Behind (read (.ofNat (a + i * wordSize))) (behind i)

/-- where the arguments of a new image start, with this word as its stack pointer -/
def argumentsAt (sp : Word) : Nat := sp.toAddress.toNat + wordSize

/-- where its environment starts, behind so many arguments -/
def environmentAt (sp argc : Word) : Nat :=
  sp.toAddress.toNat + (argc.toAddress.toNat + 2) * wordSize

/-- The calls are peeks at these addresses of the process, and all of them are addresses. -/
structure Peeks (k : Kernel) (pid : Pid) (as : List Nat) (calls : List Syscall) : Prop where
  inside : ∀ a ∈ as, a < UInt64.size
  made : calls = as.map fun a => k.peekCall pid (.ofNat a)

theorem ArrayRow.ne_nil {read : Address → Reply Word} {a : Nat} {as : List Nat}
    (row : ArrayRow read a as) :
    as ≠ [] := by
  obtain ⟨n, behind, some, _, rfl, _⟩ := row
  obtain ⟨m, rfl⟩ := Nat.exists_eq_succ_of_ne_zero (Nat.ne_of_gt some)
  rw [List.range_succ_eq_map, List.flatMap_cons]
  exact List.cons_ne_nil _ _

namespace Inspect

variable {t : Tracee} {k : Kernel} {pid : Pid} {a : Nat}

/-! ## turns of a scan -/

/-- the calls of one turn of a scan: the peek, and what is asked of the word if there is one -/
def turnCalls (k : Kernel) (pid : Pid) (asks : Word → List Syscall) (a : Nat) : List Syscall :=
  k.peekCall pid (.ofNat a) :: match k.peek pid (.ofNat a) with
    | .ok w => asks w
    | .error _ => []

section

variable {asks : Word → List Syscall} {sees : Word → Except Error (Part γ)} {limit : Nat}
  {calls : List Syscall} {r : Except Error (List γ)}

/-- The calls are those of `n` turns of a scan from `a` on, and no turn leaves the address space. -/
structure Turns (k : Kernel) (pid : Pid) (asks : Word → List Syscall) (a n : Nat)
    (calls : List Syscall) : Prop where
  inside : ∀ i < n, a + i * wordSize < UInt64.size
  made : calls = (List.range n).flatMap fun i => turnCalls k pid asks (a + i * wordSize)

theorem Turns.concat {n : Nat} (turns : Turns k pid asks a n calls)
    (inside : a + n * wordSize < UInt64.size) :
    Turns k pid asks a (n + 1) (calls ++ turnCalls k pid asks (a + n * wordSize)) where
  inside i below := by
    rcases Nat.lt_succ_iff_lt_or_eq.mp below with earlier | rfl
    · exact turns.inside i earlier
    · exact inside
  made := by rw [turns.made, List.range_succ, List.flatMap_append, List.flatMap_singleton]

theorem turnCalls_word {w : Word} (word : WordAt (k.peek pid) a w) :
    turnCalls k pid asks a = k.peekCall pid (.ofNat a) :: asks w := by
  rw [turnCalls, word.2]

theorem turns_of_wordsAt {ws : List Word} (words : WordsAt (k.peek pid) a ws) :
    Turns k pid asks a ws.length (scanCalls k pid asks a ws) := by
  induction ws using List.reverseRecOn with
  | nil => exact ⟨fun i below => absurd below (Nat.not_lt_zero i), rfl⟩
  | append_singleton ws w ih =>
    obtain ⟨before, word⟩ := WordsAt.concat.mp words
    rw [List.length_append, List.length_singleton, scanCalls_concat, ← turnCalls_word word]
    exact (ih before).concat word.1

/-- A scan takes turns at one word after the other, as many as it may, whatever way it ends. -/
theorem Scanned.exists_turns (scanned : Scanned k pid asks sees a limit calls r)
    (some : 0 < limit) : ∃ n, 0 < n ∧ n ≤ limit ∧ Turns k pid asks a n calls := by
  have upTo {ws : List Word} {parts : List (List γ)} {w : Word}
      (passed : Passed (k.peek pid) sees a ws parts) (room : ws.length < limit)
      (word : WordAt (k.peek pid) (a + ws.length * wordSize) w) :
      ∃ n, 0 < n ∧ n ≤ limit ∧ Turns k pid asks a n (scanCalls k pid asks a (ws ++ [w])) := by
    have turns : Turns k pid asks a (ws ++ [w]).length (scanCalls k pid asks a (ws ++ [w])) :=
      turns_of_wordsAt (WordsAt.concat.mpr ⟨passed.words, word⟩)
    rw [List.length_append, List.length_singleton] at turns
    exact ⟨_, Nat.succ_pos _, room, turns⟩
  cases scanned with
  | ended passed room word _ => exact upTo passed room word
  | refused passed room word _ => exact upTo passed room word
  | edge passed room word _ _ => exact upTo passed room word
  | @unread ws _ _ passed room fails =>
    have before : Turns k pid asks a ws.length (scanCalls k pid asks a ws) :=
      turns_of_wordsAt passed.words
    have turns := before.concat passed.inside
    rw [turnCalls, fails] at turns
    exact ⟨_, Nat.succ_pos _, room, turns⟩
  | long passed all =>
    rw [← all] at some ⊢
    exact ⟨_, some, Nat.le_refl _, turns_of_wordsAt passed.words⟩

end

/-! ## strings and arrays -/

theorem yields_stringRow (stopped : t.state = .stopped) (k : Kernel) (start : Address) :
    ∃ as calls r, StringRow start.toNat as ∧ Peeks k t.pid as calls ∧
      Yields k (string t start) calls r := by
  obtain ⟨calls, r, scanned⟩ := exists_scanned k t.pid (fun _ => [])
    (fun w => .ok (stringPart w)) scanLimit start.toNat_lt
  have run := scanned.yields stopped (fun w => .pure (stringPart w))
  rw [← scanString_eq] at run
  obtain ⟨n, some, few, turns⟩ := scanned.exists_turns (by decide)
  refine ⟨_, calls, r, ⟨n, some, few, rfl⟩, ⟨?_, ?_⟩, run⟩
  · intro a mem
    obtain ⟨i, below, rfl⟩ := List.mem_map.mp mem
    exact turns.inside i (List.mem_range.mp below)
  · have alone (a : Nat) : turnCalls k t.pid (fun _ => []) a = [k.peekCall t.pid (.ofNat a)] := by
      rw [turnCalls]
      cases k.peek t.pid (.ofNat a) <;> rfl
    rw [turns.made]
    simp only [alone, List.map_map, Function.comp_def, ← List.map_eq_flatMap]

theorem yields_arrayRow (stopped : t.state = .stopped) (k : Kernel) (start : Address) :
    ∃ as calls r, ArrayRow (k.peek t.pid) start.toNat as ∧ Peeks k t.pid as calls ∧
      Yields k (strings t start) calls r := by
  choose rows asks str row peeks reads using fun p : Word => yields_stringRow stopped k p.toAddress
  let asked (p : Word) : List Syscall := if p = 0 then [] else asks p
  obtain ⟨calls, r, scanned⟩ :=
    exists_scanned k t.pid asked (pointerPart str) scanLimit start.toNat_lt
  have run := scanned.yields stopped (fun p => yields_lookThrough (reads p))
  rw [← scanStrings_eq] at run
  obtain ⟨n, some, few, turns⟩ := scanned.exists_turns (by decide)
  let behind (i : Nat) : List Nat :=
    match k.peek t.pid (.ofNat (start.toNat + i * wordSize)) with
    | .ok p => if p = 0 then [] else rows p
    | .error _ => []
  -- behind each pointer, what is looked at is what is asked there
  have each (i : Nat) : Behind (k.peek t.pid (.ofNat (start.toNat + i * wordSize))) (behind i) ∧
      (∀ a ∈ behind i, a < UInt64.size) ∧
      turnCalls k t.pid asked (start.toNat + i * wordSize) =
        ((start.toNat + i * wordSize) :: behind i).map fun a => k.peekCall t.pid (.ofNat a) := by
    simp only [behind, turnCalls, Behind, asked]
    cases k.peek t.pid (.ofNat (start.toNat + i * wordSize)) with
    | error e => simp
    | ok p =>
      by_cases null : p = 0
      · simp [null]
      · simp only [if_neg null]
        exact ⟨row p, (peeks p).inside, congrArg _ (peeks p).made⟩
  refine ⟨_, calls, r, ⟨n, behind, some, few, rfl, fun i _ => (each i).1⟩, ⟨?_, ?_⟩, run⟩
  · intro a mem
    obtain ⟨i, below, mem⟩ := List.mem_flatMap.mp mem
    rcases List.mem_cons.mp mem with rfl | mem
    · exact turns.inside i (List.mem_range.mp below)
    · exact (each i).2.1 a mem
  · rw [turns.made, List.map_flatMap]
    simp only [(each _).2.2]

/-! ## both vectors -/

section

variable {layout : Layout} {sp argc : Word}

theorem yields_stackPointer (stopped : t.state = .stopped)
    (found : (k.registers t.pid layout.stackPointer).named = .ok sp) :
    Yields k (stackPointer t layout) [registerCall k t.pid (layout.slot .stackPointer)] (.ok sp) :=
  yields_register stopped found

theorem yields_execArguments (stopped : t.state = .stopped)
    (found : (k.registers t.pid layout.stackPointer).named = .ok sp)
    (inside : argumentsAt sp < UInt64.size) :
    ∃ as calls r, ArrayRow (k.peek t.pid) (argumentsAt sp) as ∧ Peeks k t.pid as calls ∧
      Yields k (execArguments t layout)
        (registerCall k t.pid (layout.slot .stackPointer) :: calls) r := by
  obtain ⟨start, next⟩ : ∃ start, sp.toAddress.add? wordSize = some start := ⟨_, if_pos inside⟩
  obtain ⟨as, calls, r, row, peeks, run⟩ := yields_arrayRow stopped k start
  rw [Address.toNat_add? next] at row
  have step : Yields k (nextWord t sp.toAddress) [] (.ok start) := by
    rw [nextWord, Address.next?, next]
    exact .pure _
  exact ⟨as, calls, r, row, peeks, (yields_stackPointer stopped found).bind (step.bind run)⟩

theorem yields_execArguments_refused (stopped : t.state = .stopped)
    (found : (k.registers t.pid layout.stackPointer).named = .ok sp)
    (beyond : UInt64.size ≤ argumentsAt sp) :
    Yields k (execArguments t layout) [registerCall k t.pid (layout.slot .stackPointer)]
      (.error (.memoryRead t.pid sp.toAddress .efault)) := by
  have step : Yields k (nextWord t sp.toAddress) []
      (.error (.memoryRead t.pid sp.toAddress .efault)) := by
    rw [nextWord, Address.next?, Address.add?_eq_none.mpr beyond]
    exact .throw _
  exact (yields_stackPointer stopped found).bind step.bind_error

theorem yields_execEnvironment (stopped : t.state = .stopped)
    (found : (k.registers t.pid layout.stackPointer).named = .ok sp)
    (counted : k.peek t.pid sp.toAddress = .ok argc) (inside : environmentAt sp argc < UInt64.size) :
    ∃ as calls r, ArrayRow (k.peek t.pid) (environmentAt sp argc) as ∧ Peeks k t.pid as calls ∧
      Yields k (execEnvironment t layout) (registerCall k t.pid (layout.slot .stackPointer) ::
        k.peekCall t.pid sp.toAddress :: calls) r := by
  obtain ⟨start, next⟩ :
      ∃ start, sp.toAddress.add? ((argc.toAddress.toNat + 2) * wordSize) = some start :=
    ⟨_, if_pos inside⟩
  obtain ⟨as, calls, r, row, peeks, run⟩ := yields_arrayRow stopped k start
  rw [Address.toNat_add? next] at row
  refine ⟨as, calls, r, row, peeks, (yields_stackPointer stopped found).bind
    ((yields_memoryWord stopped counted).bind ?_)⟩
  simp only [environmentStart?_eq, next]
  exact run

theorem yields_execEnvironment_refused (stopped : t.state = .stopped)
    (found : (k.registers t.pid layout.stackPointer).named = .ok sp)
    (counted : k.peek t.pid sp.toAddress = .ok argc) (beyond : UInt64.size ≤ environmentAt sp argc) :
    Yields k (execEnvironment t layout)
      [registerCall k t.pid (layout.slot .stackPointer), k.peekCall t.pid sp.toAddress]
      (.error (.memoryRead t.pid sp.toAddress .efault)) := by
  refine (yields_stackPointer stopped found).bind ((yields_memoryWord stopped counted).bind ?_)
  simp only [environmentStart?_eq, Address.add?_eq_none.mpr beyond]
  exact .throw _

/-- Where an array is looked at, there is more than the calls before it. -/
theorem not_yields_before {act : Attempt α} {before calls : List Syscall} {as : List Nat}
    {r q : Except Error α} {read : Address → Reply Word} (row : ArrayRow read a as)
    (peeks : Peeks k pid as calls) (run : Yields k act (before ++ calls) r) :
    ¬ Yields k act before q := by
  intro short
  have none : calls = [] := List.append_right_eq_self.mp (run.calls_unique short)
  rw [peeks.made, List.map_eq_nil_iff] at none
  exact row.ne_nil none

/-- What is looked at in memory lies where it is meant to lie, counted without wrapping around, and
where that would be beyond the last address nothing is looked at. -/
structure Unwrapped (t : Tracee) (layout : Layout) (k : Kernel) : Prop where
  string (start : Address) : ∃ as calls r, StringRow start.toNat as ∧ Peeks k t.pid as calls ∧
    Yields k (string t start) calls r
  strings (start : Address) : ∃ as calls r, ArrayRow (k.peek t.pid) start.toNat as ∧
    Peeks k t.pid as calls ∧ Yields k (strings t start) calls r
  arguments {sp : Word} (found : (k.registers t.pid layout.stackPointer).named = .ok sp)
    (inside : argumentsAt sp < UInt64.size) :
    ∃ as calls r, ArrayRow (k.peek t.pid) (argumentsAt sp) as ∧ Peeks k t.pid as calls ∧
      Yields k (execArguments t layout)
        ([registerCall k t.pid (layout.slot .stackPointer)] ++ calls) r
  /-- by no look at memory at all -/
  arguments_refused_iff {sp : Word}
    (found : (k.registers t.pid layout.stackPointer).named = .ok sp) :
    Yields k (execArguments t layout) [registerCall k t.pid (layout.slot .stackPointer)]
      (.error (.memoryRead t.pid sp.toAddress .efault)) ↔ UInt64.size ≤ argumentsAt sp
  environment {sp argc : Word} (found : (k.registers t.pid layout.stackPointer).named = .ok sp)
    (counted : k.peek t.pid sp.toAddress = .ok argc) (inside : environmentAt sp argc < UInt64.size) :
    ∃ as calls r, ArrayRow (k.peek t.pid) (environmentAt sp argc) as ∧ Peeks k t.pid as calls ∧
      Yields k (execEnvironment t layout)
        ([registerCall k t.pid (layout.slot .stackPointer), k.peekCall t.pid sp.toAddress] ++ calls) r
  /-- by no look but that at the count -/
  environment_refused_iff {sp argc : Word}
    (found : (k.registers t.pid layout.stackPointer).named = .ok sp)
    (counted : k.peek t.pid sp.toAddress = .ok argc) :
    Yields k (execEnvironment t layout)
      [registerCall k t.pid (layout.slot .stackPointer), k.peekCall t.pid sp.toAddress]
      (.error (.memoryRead t.pid sp.toAddress .efault)) ↔ UInt64.size ≤ environmentAt sp argc
  /-- Without a count no environment is looked for. -/
  uncounted {sp : Word} {e : Errno}
    (found : (k.registers t.pid layout.stackPointer).named = .ok sp)
    (fails : k.peek t.pid sp.toAddress = .error e) :
    Yields k (execEnvironment t layout)
      [registerCall k t.pid (layout.slot .stackPointer), k.peekCall t.pid sp.toAddress]
      (.error (.memoryRead t.pid sp.toAddress e))
  /-- Without a stack pointer neither vector is looked for. -/
  lost {e : Errno} (fails : (k.registers t.pid layout.stackPointer).named = .error e) :
    Yields k (execArguments t layout) [registerCall k t.pid (layout.slot .stackPointer)]
      (.error (.registerRead t.pid layout.stackPointer e)) ∧
    Yields k (execEnvironment t layout) [registerCall k t.pid (layout.slot .stackPointer)]
      (.error (.registerRead t.pid layout.stackPointer e))

theorem unwrapped_of_stopped (stopped : t.state = .stopped) (layout : Layout) (k : Kernel) :
    Unwrapped t layout k where
  string := yields_stringRow stopped k
  strings := yields_arrayRow stopped k
  arguments := yields_execArguments stopped
  arguments_refused_iff {sp} found := by
    refine ⟨fun refused => ?_, yields_execArguments_refused stopped found⟩
    by_contra inside
    obtain ⟨as, calls, r, row, peeks, run⟩ :=
      yields_execArguments stopped found (Nat.lt_of_not_le inside)
    exact not_yields_before row peeks run refused
  environment := yields_execEnvironment stopped
  environment_refused_iff {sp argc} found counted := by
    refine ⟨fun refused => ?_, yields_execEnvironment_refused stopped found counted⟩
    by_contra inside
    obtain ⟨as, calls, r, row, peeks, run⟩ :=
      yields_execEnvironment stopped found counted (Nat.lt_of_not_le inside)
    exact not_yields_before row peeks run refused
  uncounted found fails :=
    (yields_stackPointer stopped found).bind (yields_unread stopped fails).bind_error
  lost fails :=
    have unread := yields_registerUnread (r := layout.slot .stackPointer) stopped fails
    ⟨unread.bind_error, unread.bind_error⟩

/-- The count is `-1`; the environment would start at `0x1008` if addresses wrapped around, and
there is an array there. -/
def negativeCount : Memory := .ofSegments
  [.ofBytes 0x1000 ([-1, 0x1018, 0, 0x6261].flatMap Word.bytes)]

theorem unwrapped_of_negativeCount :
    let t : Tracee := ⟨1000, .stopped, none, some .exec⟩
    let k : Kernel := { memory := fun _ => negativeCount.word, registers := fun _ _ => .ok 0x1000 }
    k.peek 1000 0x1008 = .ok 0x1018 ∧
      Yields k (execEnvironment t .native)
        [registerCall k 1000 (Layout.native.slot .stackPointer), k.peekCall 1000 0x1000]
        (.error (.memoryRead 1000 0x1000 .efault)) ∧
      ∃ as calls r, ArrayRow (k.peek 1000) 0x1008 as ∧ Peeks k 1000 as calls ∧
        Yields k (execArguments t .native)
          ([registerCall k 1000 (Layout.native.slot .stackPointer)] ++ calls) r := by
  intro t k
  have unwrapped := unwrapped_of_stopped (t := t) rfl .native k
  have found : (k.registers 1000 Layout.native.stackPointer).named = .ok 0x1000 := rfl
  have counted : k.peek 1000 (0x1000 : Word).toAddress = .ok (-1) := by decide +kernel
  have beyond : UInt64.size ≤ environmentAt 0x1000 (-1) := by decide
  exact ⟨by decide +kernel, (unwrapped.environment_refused_iff found counted).mpr beyond,
    unwrapped.arguments found (by decide)⟩

end

end Inspect

end ProcTrace
