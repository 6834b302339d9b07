import Aizim.Framework.DatetimeOrder
import Aizim.State.Events

/-!
# Fresh event ids

`MonotoneUlidFactory` makes the ids of new events: 26 base-32 digits of a number whose upper bits are
the milliseconds of the clock and whose lower 80 bits are random, or count on from the last id when
the clock has not moved on.  A step of the factory makes its number larger (`value_lt_next`), and rows of
digits of one width compare as their numbers do (`encodeDigits_lt_encodeDigits`), so the ids increase as
strings.
-/

namespace Aizim.State

/-! ## The factory -/

/-- What one call takes from outside: `time.time_ns()` and `secrets.randbits(80)`. -/
structure UlidReading where
  timeNs : Int
  randbits : Fin (2 ^ 80)

/-- `MonotoneUlidFactory` -/
structure MonotoneUlidFactory where
  lastMilliseconds : Int
  randomness : ℕ
  randomness_lt : randomness < 2 ^ 80

namespace MonotoneUlidFactory

/-- A new factory. -/
def initial : MonotoneUlidFactory := ⟨-1, 0, by decide⟩

/-- What a call makes of the factory. -/
def next (factory : MonotoneUlidFactory) (reading : UlidReading) : MonotoneUlidFactory :=
  let milliseconds := reading.timeNs / 1000000
  if factory.lastMilliseconds < milliseconds then
    ⟨milliseconds, reading.randbits, reading.randbits.isLt⟩
  else if h : factory.randomness + 1 < 2 ^ 80 then
    ⟨factory.lastMilliseconds, factory.randomness + 1, h⟩
  else ⟨factory.lastMilliseconds + 1, 0, by decide⟩

/-- `(self._last_milliseconds << 80) | self._randomness`, whose bits do not overlap. -/
def value (factory : MonotoneUlidFactory) : Int :=
  factory.lastMilliseconds * 2 ^ 80 + factory.randomness

/-- The last digits of a number in base 32 (`value & 31` and `value >>= 5`, which round down). -/
def encodeDigits : ℕ → Int → List Char
  | 0, _ => []
  | width + 1, value =>
    encodeDigits width (value / 32) ++ [ulidAlphabet.getD (value % 32).toNat '0']

/-- The id that a call returns. -/
def text (factory : MonotoneUlidFactory) : String := String.ofList (encodeDigits 26 factory.value)

/-- The factory after its first calls. -/
def after (readings : ℕ → UlidReading) : ℕ → MonotoneUlidFactory
  | 0 => initial
  | n + 1 => (after readings n).next (readings n)

/-- The factory in its call number `n`, which returns its text. -/
def call (readings : ℕ → UlidReading) (n : ℕ) : MonotoneUlidFactory := after readings (n + 1)

/-! ## Digits -/

lemma length_encodeDigits (width : ℕ) (n : Int) : (encodeDigits width n).length = width := by
  induction width generalizing n with
  | zero => rfl
  | succ width ih => simp [encodeDigits, ih]

lemma digit_mem {n : Int} : ulidAlphabet.getD (n % 32).toNat '0' ∈ ulidAlphabet := by
  have hall : ∀ k < 32, ulidAlphabet.getD k '0' ∈ ulidAlphabet := by decide
  exact hall _ (by omega)

lemma mem_of_mem_encodeDigits {width : ℕ} {n : Int} {c : Char} (h : c ∈ encodeDigits width n) :
    c ∈ ulidAlphabet := by
  induction width generalizing n with
  | zero => cases h
  | succ width ih =>
    rcases List.mem_append.1 h with h | h
    · exact ih h
    · rw [List.mem_singleton.1 h]
      exact digit_mem

/-- The digits are in the order of the alphabet. -/
lemma digit_lt_digit {n m : Int} (h : n % 32 < m % 32) :
    ulidAlphabet.getD (n % 32).toNat '0' < ulidAlphabet.getD (m % 32).toNat '0' := by
  have hall : ∀ b < 32, ∀ a < b, ulidAlphabet.getD a '0' < ulidAlphabet.getD b '0' := by decide
  exact hall _ (by omega) _ (by omega)

/-- Numbers of one width compare as their digits do. -/
lemma encodeDigits_lt_encodeDigits {width : ℕ} {n m : Int} (hn : 0 ≤ n) (hlt : n < m)
    (hm : m < 32 ^ width) : encodeDigits width n < encodeDigits width m := by
  induction width generalizing n m with
  | zero =>
    rw [pow_zero] at hm
    omega
  | succ width ih =>
    have hlength : (encodeDigits width (n / 32)).length = (encodeDigits width (m / 32)).length := by
      rw [length_encodeDigits, length_encodeDigits]
    rw [encodeDigits, encodeDigits, append_lt_append_iff hlength]
    by_cases hsame : n / 32 = m / 32
    · -- the last digit decides
      refine Or.inr ⟨by rw [hsame], ?_⟩
      rw [List.cons_lt_cons_iff]
      exact Or.inl (digit_lt_digit (by omega))
    · have hm' : m / 32 < 32 ^ width := by
        rw [pow_succ] at hm
        omega
      exact Or.inl (ih (by omega) (by omega) hm')

/-! ## Calls -/

/-- An id is accepted as the id of an event. -/
lemma isUlid_text (factory : MonotoneUlidFactory) : isUlid factory.text = true := by
  rw [isUlid, text, String.toList_ofList, length_encodeDigits]
  simp only [beq_self_eq_true, Bool.true_and, List.all_eq_true, List.contains_iff_mem]
  exact fun c hc => mem_of_mem_encodeDigits hc

/-- A call makes the number larger. -/
lemma value_lt_next (factory : MonotoneUlidFactory) (reading : UlidReading) :
    factory.value < (factory.next reading).value := by
  have hlow := factory.randomness_lt
  unfold value next
  dsimp only
  split_ifs with hnew hcarry
  · have hstep : factory.lastMilliseconds + 1 ≤ reading.timeNs / 1000000 := by omega
    dsimp only
    omega
  · dsimp only
    omega
  · dsimp only
    omega

lemma value_call_lt (readings : ℕ → UlidReading) {i j : ℕ} (h : i < j) :
    (call readings i).value < (call readings j).value := by
  induction j, h using Nat.le_induction with
  | base => exact value_lt_next _ _
  | succ j _ ih => exact ih.trans (value_lt_next _ _)

/-- A clock that starts after the epoch never makes the number negative. -/
lemma value_call_nonneg {readings : ℕ → UlidReading} (h : 0 ≤ (readings 0).timeNs) (n : ℕ) :
    0 ≤ (call readings n).value := by
  have hfirst : 0 ≤ (call readings 0).value := by
    have hms : 0 ≤ (readings 0).timeNs / 1000000 := by omega
    show 0 ≤ (next initial (readings 0)).value
    rw [next, initial]
    dsimp only
    rw [if_pos (by omega), value]
    dsimp only
    omega
  cases n with
  | zero => exact hfirst
  | succ n => exact hfirst.trans (value_call_lt readings n.succ_pos).le

/-- **Event ids are strictly increasing** as strings, and each is accepted as the id of an event, for
every clock that first reads a time since the epoch, as long as the number stays below `2 ^ 130`. -/
theorem ulids_strictly_increase (readings : ℕ → UlidReading) (hepoch : 0 ≤ (readings 0).timeNs) :
    (∀ i j, i < j → (call readings j).value < 2 ^ 130 →
      (call readings i).text < (call readings j).text) ∧
    ∀ i, isUlid (call readings i).text = true := by
  refine ⟨fun i j hij hbound => ?_, fun i => isUlid_text _⟩
  have hdigits : encodeDigits 26 (call readings i).value < encodeDigits 26 (call readings j).value :=
    encodeDigits_lt_encodeDigits (value_call_nonneg hepoch i) (value_call_lt readings hij)
      (hbound.trans_eq (by norm_num))
  rwa [text, text, String.lt_iff_toList_lt, String.toList_ofList, String.toList_ofList]

/-- A clock that stands still, goes on and goes back. -/
theorem ulids_strictly_increase_sample :
    (call (fun n => ⟨[1000000, 1000000, 5000000, 2000000].getD n 0, 7⟩) 1).text <
      (call (fun n => ⟨[1000000, 1000000, 5000000, 2000000].getD n 0, 7⟩) 3).text :=
  (ulids_strictly_increase (fun n => ⟨[1000000, 1000000, 5000000, 2000000].getD n 0, 7⟩)
    (by decide)).1 1 3 (by decide) (by decide +kernel)

/-- A clock that reads one millisecond before the epoch, and then the epoch: the number of the first id
is negative, and its digits are those of a larger number. -/
theorem ulids_decrease_at_the_epoch :
    ¬ (call (fun n => ⟨if n = 0 then -1000000 else 0, 0⟩) 0).text <
        (call (fun n => ⟨if n = 0 then -1000000 else 0, 0⟩) 1).text ∧
      (call (fun n => ⟨if n = 0 then -1000000 else 0, 0⟩) 1).value < 2 ^ 130 := by
  decide +kernel

end MonotoneUlidFactory

end Aizim.State
