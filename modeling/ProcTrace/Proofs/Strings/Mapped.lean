import ProcTrace.Proofs.Strings

/-!
# Strings in a memory of bytes

A string that lies in memory is read in whole words from its own start on, so its last word may
reach up to seven bytes past its zero byte.  Whether the string is read depends on these bytes too.

* `Memory.isSome_bytes?`       a stretch can be read where each of its bytes can;
* `Mapped`                     a string whose bytes can be read, its zero byte included;
* `Mapped.spelled`, `Mapped.misread`   what a reader of whole words makes of it;
* `Inspect.string_of_mapped`   it is read if the bytes of its last word are all there, and otherwise
                               that word fails with `EIO`;
* `Inspect.string_of_aligned`  where memory is mapped in whole aligned words, as pages are, an
                               aligned string is read.
-/

namespace ProcTrace

namespace Memory

variable {m : Memory}

theorem isSome_bytes? {a n : Nat} :
    (m.bytes? a n).isSome ↔ ∀ i < n, (m.byte? (a + i)).isSome := by
  induction n generalizing a with
  | zero => simp [bytes?]
  | succ n ih =>
    have split : (m.bytes? a (n + 1)).isSome ↔
        (m.byte? a).isSome ∧ (m.bytes? (a + 1) n).isSome := by
      simp only [bytes?, Option.bind_eq_bind]
      cases m.byte? a <;> cases m.bytes? (a + 1) n <;> simp
    rw [split, ih]
    constructor
    · rintro ⟨first, rest⟩ i inside
      cases i with
      | zero => exact first
      | succ i =>
        rw [Nat.add_comm i 1, ← Nat.add_assoc]
        exact rest i (Nat.lt_of_succ_lt_succ inside)
    · intro all
      refine ⟨all 0 (Nat.succ_pos n), fun i inside => ?_⟩
      rw [Nat.add_assoc, Nat.add_comm 1 i]
      exact all (i + 1) (Nat.succ_lt_succ inside)

/-- A word that is not wholly there cannot be read. -/
theorem word_of_bytes?_none {a : Nat} (inside : a < UInt64.size)
    (missing : m.bytes? a wordSize = none) : m.word (.ofNat a) = .error .eio := by
  rw [word, UInt64.toNat_ofNat_of_lt' inside, missing]
  rfl

/-- Each byte can be read if one of its aligned word can. -/
def Paged (m : Memory) : Prop :=
  ∀ a b, a / wordSize = b / wordSize → (m.byte? a).isSome → (m.byte? b).isSome

end Memory

/-- All failures to read a word have a name, so a peek shows the memory as it is. -/
theorem Kernel.peek_eq_word {k : Kernel} {pid : Pid} {m : Memory} (shows : k.memory pid = m.word) :
    k.peek pid = m.word := by
  funext a
  rw [Kernel.peek, shows, Memory.word]
  cases m.bytes? a.toNat wordSize <;> rfl

/-- The string lies at `a`, and can be read up to its zero byte and with it. -/
def Mapped (m : Memory) (a : Nat) (s : CString) : Prop :=
  m.bytes? a (s.bytes.length + 1) = some s.image

instance decidableMapped (m : Memory) (a : Nat) (s : CString) : Decidable (Mapped m a s) :=
  inferInstanceAs (Decidable (_ = _))

/-- where the last word begins that a string at `a` reaches into -/
def lastWordAt (a : Nat) (s : CString) : Nat := a + s.bytes.length / wordSize * wordSize

namespace Mapped

variable {m : Memory} {a : Nat} {s : CString} (mapped : Mapped m a s)
include mapped

/-- The words before the last lie within the string, and the last begins with what is left of it. -/
theorem split : ∃ ws rest, ws.length = s.bytes.length / wordSize ∧ WordsAt m.word a ws ∧
    s.bytes = ws.flatMap Word.bytes ++ rest ∧
    m.bytes? (lastWordAt a s) (rest.length + 1) = some (rest ++ [0]) := by
  have whole : s.bytes.length + 1 =
      s.bytes.length / wordSize * wordSize + (s.bytes.length % wordSize + 1) := by
    rw [← Nat.add_assoc, Nat.div_add_mod']
  have found : m.bytes? a (s.bytes.length + 1) = some s.image := mapped
  rw [whole] at found
  obtain ⟨us, vs, image, first, last⟩ := Memory.bytes?_add found
  obtain ⟨ws, words, rfl⟩ := Memory.wordsAt first
  have count : ws.length = s.bytes.length / wordSize := by
    have size := Memory.length_bytes? first
    rw [Word.length_flatMap_bytes] at size
    exact Nat.eq_of_mul_eq_mul_right (by decide) size
  -- the zero byte is in the last word
  obtain rfl | ⟨rest, zero, rfl⟩ := List.eq_nil_or_concat vs
  · exact absurd (Memory.length_bytes? last) (by simp)
  rw [CString.image, List.concat_eq_append, ← List.append_assoc] at image
  obtain ⟨bytes, ends⟩ := List.append_inj' image rfl
  cases ends
  have size : rest.length + 1 = s.bytes.length % wordSize + 1 := by
    rw [← Memory.length_bytes? last, List.concat_eq_append, List.length_append,
      List.length_singleton]
  rw [List.concat_eq_append, ← size] at last
  exact ⟨ws, rest, count, words, bytes, last⟩

/-- Where the last word is there, the words spell the string. -/
theorem spelled (short : s.bytes.length < 131072)
    (there : (m.bytes? (lastWordAt a s) wordSize).isSome) : Spelled m.word a s.bytes := by
  obtain ⟨ws, rest, count, words, bytes, found⟩ := mapped.split
  obtain ⟨bs, there⟩ := Option.isSome_iff_exists.mp there
  have size : rest.length + 1 ≤ wordSize := by
    have all := congrArg List.length bytes
    rw [List.length_append, Word.length_flatMap_bytes, count] at all
    rw [wordSize] at all ⊢
    omega
  obtain ⟨beyond, more⟩ := Nat.exists_eq_add_of_le size
  have begins : rest ++ [0] <+: bs := by
    rw [more] at there
    obtain ⟨us, vs, rfl, first, _⟩ := Memory.bytes?_add there
    rw [found] at first
    cases first
    exact List.prefix_append _ _
  obtain ⟨w, word, rfl⟩ := Memory.wordAt there
  rw [lastWordAt, ← count] at word
  refine ⟨s.zero_free, short, ws ++ [w], ?_, WordsAt.concat.mpr ⟨words, word⟩, ?_⟩
  · rw [List.length_append, count, List.length_singleton]
  · rw [bytes, List.flatMap_append, List.flatMap_singleton, List.append_assoc,
      List.prefix_append_right_inj]
    exact begins

/-- Where it is not, the words before it are read, and it fails. -/
theorem misread (short : s.bytes.length < 131072) (pid : Pid)
    (missing : m.bytes? (lastWordAt a s) wordSize = none) :
    Misread pid m.word a (.memoryRead pid (.ofNat (lastWordAt a s)) .eio) := by
  obtain ⟨ws, rest, count, words, bytes, found⟩ := mapped.split
  have inside : lastWordAt a s < UInt64.size := Memory.inside_of_bytes? found
  have fails := Memory.word_of_bytes?_none inside missing
  have room : ws.length < scanLimit := by
    rw [count, scanLimit, wordSize]
    omega
  have zero_free : ∀ w ∈ ws, 0 ∉ w.bytes := by
    intro w member zero
    apply s.zero_free
    rw [bytes]
    exact List.mem_append_left _ (List.mem_flatMap.mpr ⟨w, member, zero⟩)
  rw [lastWordAt, ← count] at inside fails ⊢
  exact .unread ⟨words, zero_free, inside⟩ room fails

/-- In a memory that is mapped in aligned words the last word of an aligned string is there. -/
theorem there_of_aligned (paged : m.Paged) (aligned : a % wordSize = 0) :
    (m.bytes? (lastWordAt a s) wordSize).isSome := by
  obtain ⟨_, rest, _, _, _, found⟩ := mapped.split
  have all : (m.bytes? (lastWordAt a s) (rest.length + 1)).isSome := by
    rw [found]
    rfl
  have first := Memory.isSome_bytes?.mp all 0 (Nat.succ_pos _)
  refine Memory.isSome_bytes?.mpr fun i inside => paged _ _ ?_ first
  rw [lastWordAt]
  rw [wordSize] at aligned inside ⊢
  omega

end Mapped

namespace Inspect

variable {t : Tracee} {m : Memory} {start : Address} {s : CString}

/-- A string in memory is read if all bytes of its last word are there, those behind the zero byte
too.  Otherwise that word fails, and the string with it. -/
theorem string_of_mapped (stopped : t.state = .stopped) {h : Host}
    (shows : h.kernel.memory t.pid = m.word) (mapped : Mapped m start.toNat s)
    (short : s.bytes.length < 131072) :
    ((string t start).runOn h).1 =
      if (m.bytes? (lastWordAt start.toNat s) wordSize).isSome then .ok s.bytes
      else .error (.memoryRead t.pid (.ofNat (lastWordAt start.toNat s)) .eio) := by
  obtain ⟨_, r, yields, _, spelled, misread⟩ := yields_string stopped h.kernel start
  rw [Kernel.peek_eq_word shows] at spelled misread
  rw [yields.run.1]
  by_cases there : (m.bytes? (lastWordAt start.toNat s) wordSize).isSome
  · rw [if_pos there]
    exact (spelled _).mpr (mapped.spelled short there)
  · rw [if_neg there]
    rw [Option.not_isSome_iff_eq_none] at there
    exact (misread _).mpr (mapped.misread short t.pid there)

/-- a page, with a string up to its end and nothing behind it -/
def onePage : Memory := .ofSegments [.repeated 0x1000 [0x41] 4095, .ofBytes 0x1fff [0]]

theorem string_of_mapped_onePage :
    let t : Tracee := ⟨1000, .stopped, none, some .exec⟩
    let h : Host := ⟨{ memory := fun _ => onePage.word }, .unknown, 1001, []⟩
    ((string t 0x1ffe).runOn h).1 = .error (.memoryRead 1000 0x1ffe .eio) ∧
      ((string t 0x1ff8).runOn h).1 = .ok [0x41, 0x41, 0x41, 0x41, 0x41, 0x41, 0x41] := by
  intro t h
  let one : CString := ⟨[0x41], by decide⟩
  let seven : CString := ⟨[0x41, 0x41, 0x41, 0x41, 0x41, 0x41, 0x41], by decide⟩
  have mappedOne : Mapped onePage (0x1ffe : Address).toNat one := by decide +kernel
  have mappedSeven : Mapped onePage (0x1ff8 : Address).toNat seven := by decide +kernel
  have missing : ¬ (onePage.bytes? (lastWordAt (0x1ffe : Address).toNat one) wordSize).isSome := by
    decide +kernel
  have there : (onePage.bytes? (lastWordAt (0x1ff8 : Address).toNat seven) wordSize).isSome := by
    decide +kernel
  have first : lastWordAt (0x1ffe : Address).toNat one = 0x1ffe := by decide
  have fails := string_of_mapped (t := t) (h := h) rfl rfl mappedOne (by decide)
  have reads := string_of_mapped (t := t) (h := h) rfl rfl mappedSeven (by decide)
  rw [if_neg missing, first] at fails
  rw [if_pos there] at reads
  exact ⟨fails, reads⟩

theorem string_of_aligned (stopped : t.state = .stopped) {h : Host}
    (shows : h.kernel.memory t.pid = m.word) (paged : m.Paged)
    (mapped : Mapped m start.toNat s) (aligned : start.toNat % wordSize = 0)
    (short : s.bytes.length < 131072) : ((string t start).runOn h).1 = .ok s.bytes := by
  obtain ⟨_, r, yields, _, spelled, _⟩ := yields_string stopped h.kernel start
  rw [Kernel.peek_eq_word shows] at spelled
  rw [yields.run.1]
  exact (spelled _).mpr (mapped.spelled short (mapped.there_of_aligned paged aligned))

end Inspect

end ProcTrace
