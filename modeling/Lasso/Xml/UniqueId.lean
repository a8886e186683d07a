import Lasso.Library.Buffer
import Lasso.Xml.IntegerFields
import Lasso.Xml.NodeClass

/-!
# Random identifiers

An identifier is a `_` and a random sequence of hexadecimal digits, which are written four at a
time. The size that is asked for is looked at before each of these chunks only, so that the last one
may pass it, and the end of the buffer.

## Main definitions

* `buildRandomSequence`, `buildUniqueId` — `lasso_build_random_sequence` and
  `lasso_build_unique_id`, given the random words.
* `WritesSequence`, `BuildsId` — they do what they are asked for.

## Main results

* `sequence_and_id_iff` — for which sizes.
-/

namespace Lasso

open Outcome

/-! ## The functions -/

/-- `'0' + d`, and 7 more above `'9'` -/
def sequenceChar (d : Nat) : Char :=
  let c := '0'.toNat + d
  Char.ofNat (if c > '9'.toNat then c + 7 else c)

/-- The chunk of a word: `(rnd>>i*4)&0xf`, for `i` up to `sizeof(int)` -/
def wordChars (rnd : UInt32) : List Char :=
  [0, 1, 2, 3].map fun i : UInt32 => sequenceChar ((rnd >>> (i * 4)) &&& 0xf).toNat

theorem length_wordChars (rnd : UInt32) : (wordChars rnd).length = 4 := rfl

/-- `while (t-buffer < (int)size)`, with the number of words used and what is written before `t` -/
def fillSequence (words : Nat → UInt32) (size : Int) (used : Nat) (written : List Char) :
    List Char :=
  if written.length < size then
    fillSequence words size (used + 1) (written ++ wordChars (words used))
  else written
termination_by (size - written.length).toNat
decreasing_by
  rw [List.length_append, length_wordChars]
  omega

/-- `lasso_build_random_sequence`: the characters that are written from the start of the buffer -/
def buildRandomSequence (words : Nat → UInt32) (size : UInt32) : List Char :=
  fillSequence words (cutToInt size.toNat) 0 []

/-- `lasso_build_unique_id`: the cells of the buffer it returns -/
def buildUniqueId (words : Nat → UInt32) (size : UInt32) : Except Fault (List (Option Char)) :=
  if size < 32 then .error .notReached
  -- `g_malloc` gives NULL for no bytes
  else if size + 2 = 0 then .error .nullPointer
  else do
    let result ← Buffer.write .overrun 0 '_' (Buffer.alloc (size + 2).toNat)
    let result ← Buffer.writeAll .overrun 1 (buildRandomSequence words size) result
    Buffer.write .overrun (size + 1).toNat '\x00' result

/-! ## What they are asked for -/

/-- `[0-9A-F]` -/
def isSequenceChar (c : Char) : Bool := c.isDigit || ('A' ≤ c && c ≤ 'F')

/-- Exactly so many characters, all of them hexadecimal digits. -/
def IsSequence (size : UInt32) (chars : List Char) : Prop :=
  chars.length = size.toNat ∧ ∀ c ∈ chars, isSequenceChar c = true

def WritesSequence (words : Nat → UInt32) (size : UInt32) : Prop :=
  IsSequence size (buildRandomSequence words size)

/-- The buffer holds a `_`, such a sequence and the zero byte. -/
def BuildsId (words : Nat → UInt32) (size : UInt32) : Prop :=
  ∃ chars, IsSequence size chars ∧
    buildUniqueId words size = .ok (some '_' :: chars.map some ++ [some '\x00'])

/-! ## The sequence -/

section

variable {words : Nat → UInt32} {size : UInt32}

theorem isSequenceChar_sequenceChar : ∀ d < 16, isSequenceChar (sequenceChar d) = true := by decide

theorem isSequenceChar_of_mem_wordChars {rnd : UInt32} {c : Char} (h : c ∈ wordChars rnd) :
    isSequenceChar c = true := by
  obtain ⟨i, -, rfl⟩ := List.mem_map.mp h
  refine isSequenceChar_sequenceChar _ ?_
  rw [UInt32.toNat_and]
  exact Nat.and_lt_two_pow _ (n := 4) (by decide)

theorem fillSequence_chars {size : Int} {used : Nat} {written : List Char}
    (h : ∀ c ∈ written, isSequenceChar c = true) :
    ∀ c ∈ fillSequence words size used written, isSequenceChar c = true := by
  fun_induction fillSequence words size used written with
  | case1 used written hlt ih =>
    refine ih fun c hc => ?_
    rcases List.mem_append.mp hc with hwritten | hword
    · exact h c hwritten
    · exact isSequenceChar_of_mem_wordChars hword
  | case2 used written hge => exact h

/-- Whole chunks are written until the size is reached or passed. -/
theorem length_fillSequence {size : Int} {used : Nat} {written : List Char}
    (h : written.length % 4 = 0) (hbound : written.length < size + 4 ∨ written = []) :
    (fillSequence words size used written).length % 4 = 0 ∧
      size ≤ (fillSequence words size used written).length ∧
      ((fillSequence words size used written).length < size + 4 ∨
        fillSequence words size used written = []) := by
  fun_induction fillSequence words size used written with
  | case1 used written hlt ih =>
    have hlength : (written ++ wordChars (words used)).length = written.length + 4 := by
      rw [List.length_append, length_wordChars]
    refine ih ?_ (.inl ?_) <;> omega
  | case2 used written hge => exact ⟨h, Int.not_lt.mp hge, hbound⟩

theorem length_buildRandomSequence (words : Nat → UInt32) (h : size.toNat < 2 ^ 31) :
    (buildRandomSequence words size).length = (size.toNat + 3) / 4 * 4 := by
  have hsize : cutToInt size.toNat = size.toNat := Int.bmod_eq_of_le (by omega) (by omega)
  obtain ⟨hchunks, hreached, hpassed⟩ := @length_fillSequence words size.toNat 0 [] rfl (.inr rfl)
  rw [buildRandomSequence, hsize]
  rcases hpassed with hlt | hnil
  · omega
  · rw [hnil] at hreached ⊢
    simp only [List.length_nil] at hreached ⊢
    omega

/-- A size beyond an `int` is taken for a negative one. -/
theorem buildRandomSequence_of_ge (words : Nat → UInt32) (h : 2 ^ 31 ≤ size.toNat) :
    buildRandomSequence words size = [] := by
  have hlt := size.toNat_lt
  have hsize : cutToInt size.toNat < 0 := by
    rw [cutToInt, Int.bmod_def]
    omega
  rw [buildRandomSequence, fillSequence, if_neg]
  simpa using hsize.le

theorem buildRandomSequence_chars (words : Nat → UInt32) (size : UInt32) :
    ∀ c ∈ buildRandomSequence words size, isSequenceChar c = true :=
  fillSequence_chars (by simp)

theorem writesSequence_iff (words : Nat → UInt32) (size : UInt32) :
    WritesSequence words size ↔ size.toNat < 2 ^ 31 ∧ size.toNat % 4 = 0 := by
  unfold WritesSequence IsSequence
  rw [and_iff_left (buildRandomSequence_chars words size)]
  by_cases hint : size.toNat < 2 ^ 31
  · rw [length_buildRandomSequence words hint]
    omega
  · rw [buildRandomSequence_of_ge words (Nat.not_lt.mp hint), List.length_nil]
    omega

/-! ## The identifier -/

theorem toNat_add_of_lt (h : size.toNat < 2 ^ 31) :
    (size + 2).toNat = size.toNat + 2 ∧ (size + 1).toNat = size.toNat + 1 := by
  constructor
  · rw [UInt32.toNat_add]
    exact Nat.mod_eq_of_lt (by simp; omega)
  · rw [UInt32.toNat_add]
    exact Nat.mod_eq_of_lt (by simp; omega)

theorem write_underscore (n : Nat) :
    Buffer.write Fault.overrun 0 '_' (Buffer.alloc (n + 1)) =
      .ok (some '_' :: Buffer.alloc n) := Buffer.write_of_lt (by simp)

/-- A size that passes the assertion and is an `int`, with the `_` written. -/
theorem buildUniqueId_eq (words : Nat → UInt32) (hlow : 32 ≤ size.toNat)
    (hhigh : size.toNat < 2 ^ 31) :
    buildUniqueId words size =
      Buffer.writeAll .overrun 1 (buildRandomSequence words size)
        (some '_' :: Buffer.alloc (size.toNat + 1)) >>=
          Buffer.write .overrun (size.toNat + 1) '\x00' := by
  obtain ⟨htwo, hone⟩ := toNat_add_of_lt hhigh
  have hassert : ¬ size < 32 := by
    rw [UInt32.lt_iff_toNat_lt]
    exact Nat.not_lt.mpr hlow
  have hnull : size + 2 ≠ 0 := by
    intro hzero
    rw [hzero, UInt32.toNat_zero] at htwo
    omega
  unfold buildUniqueId
  rw [if_neg hassert, if_neg hnull, htwo, hone, write_underscore, ok_bind]

/-- A sequence that is at most one character too long has its end replaced by the zero byte. -/
theorem writeAll_write_of_le {chars : List Char} {n : Nat} (hlength : n ≤ chars.length)
    (hfits : chars.length ≤ n + 1) :
    Buffer.writeAll .overrun 1 chars (some '_' :: Buffer.alloc (n + 1)) >>=
        Buffer.write Fault.overrun (n + 1) '\x00' =
      .ok (some '_' :: (chars.take n).map some ++ [some '\x00']) := by
  have htail : (chars.map some ++ (Buffer.alloc (n + 1)).drop chars.length).length = n + 1 := by
    simp only [List.length_append, List.length_map, List.length_drop, Buffer.length_alloc]
    omega
  have htake : (chars.map some ++ (Buffer.alloc (n + 1)).drop chars.length).take n =
      (chars.take n).map some := by
    rw [List.take_append_of_le_length (by rwa [List.length_map]), List.map_take]
  have hset : (chars.map some ++ (Buffer.alloc (n + 1)).drop chars.length).set n (some '\x00') =
      (chars.take n).map some ++ [some '\x00'] := by
    rw [List.set_eq_take_append_cons_drop, if_pos (by omega), htake,
      List.drop_of_length_le htail.le]
  rw [Buffer.writeAll_of_le (by simp only [List.length_cons, Buffer.length_alloc]; omega), ok_bind,
    Nat.add_comm 1 chars.length, List.drop_succ_cons, List.take_succ_cons, List.take_zero,
    List.singleton_append, Buffer.write_of_lt (by rw [List.length_cons, htail]; omega),
    List.set_cons_succ, hset, List.cons_append]

theorem buildsId_of_le (hlow : 32 ≤ size.toNat) (hhigh : size.toNat < 2 ^ 31)
    (hlength : size.toNat ≤ (buildRandomSequence words size).length)
    (hfits : (buildRandomSequence words size).length ≤ size.toNat + 1) :
    BuildsId words size := by
  refine ⟨(buildRandomSequence words size).take size.toNat, ⟨List.length_take_of_le hlength, ?_⟩,
    ?_⟩
  · intro c hc
    exact buildRandomSequence_chars words size c (List.mem_of_mem_take hc)
  · rw [buildUniqueId_eq words hlow hhigh, writeAll_write_of_le hlength hfits]

theorem buildUniqueId_of_lt (hlow : 32 ≤ size.toNat) (hhigh : size.toNat < 2 ^ 31)
    (hlong : size.toNat + 1 < (buildRandomSequence words size).length) :
    buildUniqueId words size = .error .overrun := by
  rw [buildUniqueId_eq words hlow hhigh, Buffer.writeAll_of_lt (by simp)
    (by simp only [List.length_cons, Buffer.length_alloc]; omega), error_bind]

/-- For a size beyond an `int`, the second cell is not written. -/
theorem buildUniqueId_of_ge (hhigh : 2 ^ 31 ≤ size.toNat) {cells : List (Option Char)}
    (h : buildUniqueId words size = .ok cells) (c : Char) : cells[1]? ≠ some (some c) := by
  have hone : (size + 1).toNat ≠ 1 := by
    have hlt := size.toNat_lt
    rw [UInt32.toNat_add, UInt32.toNat_one]
    omega
  unfold buildUniqueId at h
  rw [buildRandomSequence_of_ge words hhigh] at h
  split_ifs at h
  obtain ⟨first, hfirst, h⟩ := bind_eq_ok.mp h
  rw [Buffer.writeAll, ok_bind] at h
  rw [Buffer.getElem?_of_write h hone, Buffer.getElem?_of_write hfirst Nat.zero_ne_one]
  exact Buffer.getElem?_alloc_ne _ 1 c

theorem buildsId_iff (words : Nat → UInt32) (size : UInt32) :
    BuildsId words size ↔
      32 ≤ size.toNat ∧ size.toNat < 2 ^ 31 ∧ (size.toNat % 4 = 0 ∨ size.toNat % 4 = 3) := by
  by_cases hlow : 32 ≤ size.toNat
  · by_cases hhigh : size.toNat < 2 ^ 31
    · have hlength := length_buildRandomSequence words hhigh
      by_cases hfits : (buildRandomSequence words size).length ≤ size.toNat + 1
      · refine iff_of_true (buildsId_of_le hlow hhigh (by omega) hfits) ⟨hlow, hhigh, by omega⟩
      · refine iff_of_false ?_ (by omega)
        rintro ⟨chars, -, hbuilt⟩
        rw [buildUniqueId_of_lt hlow hhigh (by omega)] at hbuilt
        cases hbuilt
    · refine iff_of_false ?_ (by omega)
      rintro ⟨_ | ⟨c, chars⟩, ⟨hlength, -⟩, hbuilt⟩
      · rw [List.length_nil] at hlength
        omega
      · exact buildUniqueId_of_ge (Nat.not_lt.mp hhigh) hbuilt c rfl
  · refine iff_of_false ?_ (by omega)
    rintro ⟨chars, -, hbuilt⟩
    have hassert : size < 32 := UInt32.lt_iff_toNat_lt.mpr (Nat.not_le.mp hlow)
    rw [buildUniqueId, if_pos hassert] at hbuilt
    cases hbuilt

/-- The sequence has the size that is asked for just for the multiples of four within an `int`. An
identifier may also be one less, since the zero byte takes the place of the last character. -/
theorem sequence_and_id_iff (words : Nat → UInt32) (size : UInt32) :
    (WritesSequence words size ↔ size.toNat < 2 ^ 31 ∧ size.toNat % 4 = 0) ∧
      (BuildsId words size ↔
        32 ≤ size.toNat ∧ size.toNat < 2 ^ 31 ∧ (size.toNat % 4 = 0 ∨ size.toNat % 4 = 3)) :=
  ⟨writesSequence_iff words size, buildsId_iff words size⟩

/-- For the size 33, 36 characters are written, the last two of them behind the buffer. -/
theorem not_buildsId :
    ¬ (∀ words size, WritesSequence words size) ∧
    ¬ (∀ words size, 32 ≤ size.toNat → BuildsId words size) ∧
    ∀ words, (buildRandomSequence words 33).length = 36 ∧
      buildUniqueId words 33 = .error .overrun := by
  have hlength (words : Nat → UInt32) : (buildRandomSequence words 33).length = 36 :=
    length_buildRandomSequence words (by decide)
  have hoverrun (words : Nat → UInt32) : buildUniqueId words 33 = .error .overrun :=
    buildUniqueId_of_lt (by decide) (by decide) (by rw [hlength]; decide)
  refine ⟨fun h => ?_, fun h => ?_, fun words => ⟨hlength words, hoverrun words⟩⟩
  · have hsequence := (h (fun _ => 0) 33).1
    rw [hlength] at hsequence
    revert hsequence
    decide
  · obtain ⟨chars, -, hbuilt⟩ := h (fun _ => 0) 33 (by decide)
    rw [hoverrun] at hbuilt
    cases hbuilt

end

end Lasso
