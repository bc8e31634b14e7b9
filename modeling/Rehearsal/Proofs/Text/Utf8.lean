import Mathlib.Tactic.IntervalCases
import Rehearsal.Text.Utf8

/-! What is encoded is decoded again, without a hole. -/
namespace Rehearsal.Text.Utf8

variable {p : Pending} {rest : List UInt8}

def tail (n : Nat) : UInt8 := UInt8.ofNat (n % 64 + 0x80)

theorem toNat_tail (n : Nat) : (tail n).toNat = n % 64 + 0x80 := by
  rw [tail, UInt8.toNat_ofNat']
  omega

theorem decodeFrom_tail {n : Nat} (low : p.low.toNat ≤ n % 64 + 0x80) (high : n % 64 + 0x80 ≤ p.high.toNat) :
    decodeFrom (some p) (tail n :: rest) =
      if p.owed ≤ 1 then some (Char.ofNat (64 * p.value + n % 64)) :: decodeFrom none rest
      else decodeFrom (some { value := 64 * p.value + n % 64, owed := p.owed - 1 }) rest := by
  rw [← toNat_tail] at low high
  have within : p.low ≤ tail n ∧ tail n ≤ p.high := ⟨UInt8.le_iff_toNat_le.mpr low, UInt8.le_iff_toNat_le.mpr high⟩
  rw [decodeFrom, if_pos within, toNat_tail, Nat.add_sub_cancel]

theorem start_one {n : Nat} (small : n < 0x80) : start (UInt8.ofNat n) = .done (Char.ofNat n) := by
  have byte : (UInt8.ofNat n).toNat = n := by
    rw [UInt8.toNat_ofNat']
    omega
  simp only [start, byte, small, if_true]

theorem start_two {a : Nat} (least : 2 ≤ a) (most : a < 32) :
    start (UInt8.ofNat (a + 0xC0)) = .more { value := a, owed := 1 } := by
  interval_cases a <;> rfl

/- Two bytes might have done for what begins with a low one, and a high one would begin half a character. -/
theorem start_three {a : Nat} (most : a < 16) :
    start (UInt8.ofNat (a + 0xE0)) =
      .more { value := a, owed := 2, low := if a = 0 then 0xA0 else 0x80, high := if a = 13 then 0x9F else 0xBF } := by
  interval_cases a <;> rfl

theorem start_four {a : Nat} (most : a < 5) :
    start (UInt8.ofNat (a + 0xF0)) =
      .more { value := a, owed := 3, low := if a = 0 then 0x90 else 0x80, high := if a = 4 then 0x8F else 0xBF } := by
  interval_cases a <;> rfl

theorem encodeChar_eq (c : Char) :
    String.utf8EncodeChar c =
      let n := c.val.toNat
      if n ≤ 0x7F then [UInt8.ofNat n]
      else if n ≤ 0x7FF then [UInt8.ofNat (n / 64 % 32 + 0xC0), tail n]
      else if n ≤ 0xFFFF then [UInt8.ofNat (n / 4096 % 16 + 0xE0), tail (n / 64), tail n]
      else [UInt8.ofNat (n / 262144 % 8 + 0xF0), tail (n / 4096), tail (n / 64), tail n] := rfl

theorem decodeFrom_char (c : Char) (rest : List UInt8) :
    decodeFrom none (String.utf8EncodeChar c ++ rest) = some c :: decodeFrom none rest := by
  have whole : Char.ofNat c.val.toNat = c := Char.ofNat_toNat c
  have valid : c.val.toNat < 0xD800 ∨ 0xDFFF < c.val.toNat ∧ c.val.toNat < 0x110000 := c.valid
  rw [encodeChar_eq]
  generalize c.val.toNat = n at whole valid
  dsimp only
  split
  · rw [List.singleton_append, decodeFrom, start_one (by omega), whole]
  split
  · rw [List.cons_append, List.singleton_append, decodeFrom, start_two (by omega) (by omega)]
    have value : 64 * (n / 64 % 32) + n % 64 = n := by omega
    dsimp only
    rw [decodeFrom_tail (by dsimp; omega) (by dsimp; omega)]
    dsimp only
    rw [if_pos (by omega), value, whole]
  split
  · have low : (if n / 4096 % 16 = 0 then 0xA0 else 0x80 : UInt8).toNat ≤ n / 64 % 64 + 0x80 := by
      split <;> simp only [UInt8.reduceToNat] <;> omega
    have high : n / 64 % 64 + 0x80 ≤ (if n / 4096 % 16 = 13 then 0x9F else 0xBF : UInt8).toNat := by
      split <;> simp only [UInt8.reduceToNat] <;> omega
    have value : 64 * (64 * (n / 4096 % 16) + n / 64 % 64) + n % 64 = n := by omega
    rw [List.cons_append, List.cons_append, List.singleton_append, decodeFrom, start_three (by omega)]
    dsimp only
    rw [decodeFrom_tail low high]
    dsimp only
    rw [if_neg (by omega), decodeFrom_tail (by dsimp; omega) (by dsimp; omega)]
    dsimp only
    rw [if_pos (by omega), value, whole]
  · have low : (if n / 262144 % 8 = 0 then 0x90 else 0x80 : UInt8).toNat ≤ n / 4096 % 64 + 0x80 := by
      split <;> simp only [UInt8.reduceToNat] <;> omega
    have high : n / 4096 % 64 + 0x80 ≤ (if n / 262144 % 8 = 4 then 0x8F else 0xBF : UInt8).toNat := by
      split <;> simp only [UInt8.reduceToNat] <;> omega
    have value : 64 * (64 * (64 * (n / 262144 % 8) + n / 4096 % 64) + n / 64 % 64) + n % 64 = n := by omega
    rw [List.cons_append, List.cons_append, List.cons_append, List.singleton_append, decodeFrom, start_four (by omega)]
    dsimp only
    rw [decodeFrom_tail low high]
    dsimp only
    rw [if_neg (by omega), decodeFrom_tail (by dsimp; omega) (by dsimp; omega)]
    dsimp only
    rw [if_neg (by omega), decodeFrom_tail (by dsimp; omega) (by dsimp; omega)]
    dsimp only
    rw [if_pos (by omega), value, whole]

theorem decode_encode (text : List Char) : decode (encode text) = text.map some := by
  induction text with
  | nil => rfl
  | cons c rest ih =>
    have chars : decode (encode (c :: rest)) = some c :: decode (encode rest) := decodeFrom_char c (encode rest)
    rw [chars, ih, List.map_cons]

theorem decode?_encode (text : String) : decode? (encode text.toList) = some text := by
  have chars : (text.toList.map some).mapM id = some text.toList := by
    rw [List.mapM_map]
    exact (List.mapM_pure (f := id)).trans (by simp)
  rw [decode?, decode_encode, chars, Option.map_some, String.ofList_toList]

end Rehearsal.Text.Utf8
