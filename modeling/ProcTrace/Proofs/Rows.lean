import ProcTrace.Memory

/-!
# Rows of words

What is read word after word, counted by addresses that never wrap around.

* `WordAt`, `WordsAt`      a word, and words one after the other, in what a process shows of its
                           memory;
* `WordsAt.append`         a row of words is a row, and the row behind it;
* `Address.next?_ofNat`    the address behind a word, where there is one;
* `Memory.bytes?_add`, `Memory.wordsAt`   bytes that lie in a memory, and the words they make.
-/

namespace ProcTrace

/-- the word that is read at an address of the address space -/
def WordAt (read : Address → Reply Word) (a : Nat) (w : Word) : Prop :=
  a < UInt64.size ∧ read (.ofNat a) = .ok w

/-- words one after the other -/
def WordsAt (read : Address → Reply Word) : Nat → List Word → Prop
  | _, [] => True
  | a, w :: ws => WordAt read a w ∧ WordsAt read (a + wordSize) ws

variable {read : Address → Reply Word}

instance decidableWordAt (a : Nat) (w : Word) : Decidable (WordAt read a w) :=
  inferInstanceAs (Decidable (_ ∧ _))

instance decidableWordsAt : (a : Nat) → (ws : List Word) → Decidable (WordsAt read a ws)
  | _, [] => isTrue trivial
  | a, _ :: ws =>
    have := decidableWordsAt (a + wordSize) ws
    inferInstanceAs (Decidable (_ ∧ _))

/-- the words of a row take so many bytes -/
theorem shift_cons (a : Nat) (w : Word) (ws : List Word) :
    a + wordSize + ws.length * wordSize = a + (w :: ws).length * wordSize := by
  rw [List.length_cons, Nat.add_mul]
  omega

theorem WordsAt.append {a : Nat} {us vs : List Word} :
    WordsAt read a (us ++ vs) ↔
      WordsAt read a us ∧ WordsAt read (a + us.length * wordSize) vs := by
  induction us generalizing a with
  | nil => simp [WordsAt]
  | cons u us ih => rw [List.cons_append, WordsAt, WordsAt, ih, and_assoc, shift_cons]

/-- a row, and one word more -/
theorem WordsAt.concat {a : Nat} {ws : List Word} {w : Word} :
    WordsAt read a (ws ++ [w]) ↔
      WordsAt read a ws ∧ WordAt read (a + ws.length * wordSize) w := by
  rw [WordsAt.append]
  exact and_congr_right' (and_iff_left trivial)

/-- What can be read in one way, and so in another. -/
theorem WordsAt.mono {shown : Address → Reply Word}
    (shows : ∀ (a : Address) (w : Word), read a = .ok w → shown a = .ok w) {a : Nat}
    {ws : List Word} (words : WordsAt read a ws) : WordsAt shown a ws := by
  induction ws generalizing a with
  | nil => trivial
  | cons w ws ih => exact ⟨⟨words.1.1, shows _ _ words.1.2⟩, ih words.2⟩

theorem WordsAt.inside {a : Nat} {ws : List Word} (words : WordsAt read a ws) (some : ws ≠ []) :
    a < UInt64.size := by
  cases ws with
  | nil => exact absurd rfl some
  | cons w ws => exact words.1.1

/-! ## addresses -/

namespace Address

theorem next?_ofNat {a : Nat} (inside : a + wordSize < UInt64.size) :
    next? (.ofNat a) = some (.ofNat (a + wordSize)) := by
  have same : (UInt64.ofNat a).toNat = a :=
    UInt64.toNat_ofNat_of_lt' (Nat.lt_of_le_of_lt (Nat.le_add_right _ _) inside)
  rw [next?, add?, same, if_pos inside]

theorem next?_ofNat_eq_none {a : Nat} (here : a < UInt64.size)
    (last : UInt64.size ≤ a + wordSize) : next? (.ofNat a) = none := by
  rw [next?, add?_eq_none, UInt64.toNat_ofNat_of_lt' here]
  exact last

end Address

/-! ## memories of bytes -/

namespace Memory

variable {m : Memory}

theorem bytes?_add {a i n : Nat} {bs : Bytes} (found : m.bytes? a (i + n) = some bs) :
    ∃ us vs, bs = us ++ vs ∧ m.bytes? a i = some us ∧ m.bytes? (a + i) n = some vs := by
  induction i generalizing a bs with
  | zero =>
    rw [Nat.zero_add] at found
    exact ⟨[], bs, rfl, rfl, found⟩
  | succ i ih =>
    rw [Nat.add_right_comm] at found
    simp only [bytes?, Option.bind_eq_bind, Option.bind_eq_some_iff] at found
    obtain ⟨b, here, rest, more, whole⟩ := found
    cases whole
    obtain ⟨us, vs, rfl, first, last⟩ := ih more
    refine ⟨b :: us, vs, rfl, ?_, ?_⟩
    · simp [bytes?, here, first]
    · rw [Nat.add_comm i 1, ← Nat.add_assoc]
      exact last

theorem inside_of_bytes? {a n : Nat} {bs : Bytes} (found : m.bytes? a (n + 1) = some bs) :
    a < UInt64.size := by
  by_cases inside : a < UInt64.size
  · exact inside
  · rw [bytes?, byte?, if_neg inside] at found
    cases found

theorem wordAt {a : Nat} {bs : Bytes} (found : m.bytes? a wordSize = some bs) :
    ∃ w : Word, WordAt m.word a w ∧ w.bytes = bs := by
  have inside := inside_of_bytes? found
  have read : m.word (.ofNat a) = .ok (Word.ofBytes bs) := by
    rw [word, UInt64.toNat_ofNat_of_lt' inside, found]
    rfl
  have back : (Word.ofBytes bs).bytes = bs := by
    match bs, length_bytes? found with
    | [_, _, _, _, _, _, _, _], _ => exact Word.bytes_ofBytes _ _ _ _ _ _ _ _
  exact ⟨Word.ofBytes bs, ⟨inside, read⟩, back⟩

theorem wordsAt {a n : Nat} {bs : Bytes} (found : m.bytes? a (n * wordSize) = some bs) :
    ∃ ws, WordsAt m.word a ws ∧ ws.flatMap Word.bytes = bs := by
  induction n generalizing a bs with
  | zero =>
    rw [Nat.zero_mul] at found
    cases found
    exact ⟨[], trivial, rfl⟩
  | succ n ih =>
    rw [Nat.succ_mul, Nat.add_comm] at found
    obtain ⟨us, vs, rfl, first, rest⟩ := bytes?_add found
    obtain ⟨w, here, rfl⟩ := wordAt first
    obtain ⟨ws, more, rfl⟩ := ih rest
    exact ⟨w :: ws, ⟨here, more⟩, rfl⟩

end Memory

end ProcTrace
