/-! Sets of characters written as text: code points and ranges of them in hexadecimal, set apart by blanks. -/
namespace Rehearsal.Unicode

def hexDigit? (c : Char) : Option Nat :=
  if '0' ≤ c ∧ c ≤ '9' then some (c.toNat - 48)
  else if 'a' ≤ c ∧ c ≤ 'f' then some (c.toNat - 87)
  else if 'A' ≤ c ∧ c ≤ 'F' then some (c.toNat - 55)
  else none

def hexValue (digits : List Char) : Nat :=
  digits.foldl (fun n c => 16 * n + (hexDigit? c).getD 0) 0

structure Ranges where
  pairs : Array (Nat × Nat)
deriving DecidableEq, Inhabited

private structure Scan where
  pairs : Array (Nat × Nat) := #[]
  first : Option Nat := none
  digits : List Char := []

private def Scan.close (s : Scan) : Scan :=
  if s.digits.isEmpty then s else
    let last := hexValue s.digits.reverse
    { pairs := s.pairs.push (s.first.getD last, last) }

private def Scan.step (s : Scan) (c : Char) : Scan :=
  if c = '-' then { s with first := some (hexValue s.digits.reverse), digits := [] }
  else if (hexDigit? c).isSome then { s with digits := c :: s.digits }
  else s.close

def Ranges.ofText (text : String) : Ranges :=
  ⟨(text.toList.foldl Scan.step {}).close.pairs⟩

/-- Halves the stretch `lo ≤ i < hi` of ranges that can hold `n`, at most `fuel` times. -/
private def Ranges.search (r : Ranges) (n : Nat) : Nat → Nat → Nat → Bool
  | 0, _, _ => false
  | fuel + 1, lo, hi =>
    if lo < hi then
      let mid := (lo + hi) / 2
      match r.pairs[mid]? with
      | none => false
      | some (a, b) =>
        if n < a then r.search n fuel lo mid
        else if b < n then r.search n fuel (mid + 1) hi
        else true
    else false

def Ranges.contains (r : Ranges) (c : Char) : Bool :=
  r.search c.toNat (r.pairs.size + 1) 0 r.pairs.size

section
variable {n : Nat}

private theorem Ranges.search_below {r : Ranges} (above : ∀ p ∈ r.pairs, n < p.1) (fuel lo hi : Nat) :
    r.search n fuel lo hi = false := by
  induction fuel generalizing lo hi with
  | zero => rfl
  | succ fuel ih =>
    unfold search
    split
    · dsimp only
      split
      · rfl
      · rename_i a b found
        have low : n < a := above (a, b) (Array.mem_of_getElem? found)
        rw [if_pos low]
        exact ih lo _
    · rfl

def beginsAbove (n : Nat) : List Char → Option Nat → Bool
  | [], value => value.all (n < ·)
  | c :: rest, value =>
    if c = '-' then n < value.getD 0 && beginsAbove n rest none
    else match hexDigit? c with
      | some d => beginsAbove n rest (some (16 * value.getD 0 + d))
      | none => value.all (n < ·) && beginsAbove n rest none

private def Scan.value (s : Scan) : Option Nat := if s.digits.isEmpty then none else some (hexValue s.digits.reverse)

private structure Scan.Above (n : Nat) (s : Scan) : Prop where
  pairs : ∀ p ∈ s.pairs, n < p.1
  first : ∀ a, s.first = some a → n < a

private theorem Scan.close_above {s : Scan} (above : s.Above n) (value : s.value.all (n < ·) = true) : s.close.Above n := by
  unfold close
  split
  · exact above
  · rename_i filled
    have last : n < hexValue s.digits.reverse := by simpa [Scan.value, filled] using value
    constructor
    · intro p hp
      rcases Array.mem_push.mp hp with hp | rfl
      · exact above.pairs p hp
      · cases first : s.first with
        | none => simpa [first] using last
        | some a => simpa [first] using above.first a first
    · simp

private theorem Scan.steps_above {text : List Char} {s : Scan} (above : s.Above n) (checked : beginsAbove n text s.value = true) :
    (text.foldl Scan.step s).close.Above n := by
  induction text generalizing s with
  | nil => exact close_above above checked
  | cons c rest ih =>
    rw [List.foldl_cons]
    rw [beginsAbove] at checked
    by_cases hyphen : c = '-'
    · simp only [hyphen, if_true, Bool.and_eq_true, decide_eq_true_eq] at checked
      have begins : n < hexValue s.digits.reverse := by
        have read := checked.1
        by_cases filled : s.digits = []
        · simp [Scan.value, filled] at read
        · simpa [Scan.value, filled] using read
      refine ih ?_ ?_
      · simp only [Scan.step, hyphen, if_true]
        exact ⟨above.pairs, fun a ha => Option.some.inj ha ▸ begins⟩
      · simpa [Scan.step, hyphen, Scan.value] using checked.2
    · cases digit : hexDigit? c with
      | some d =>
        simp only [hyphen, if_false, digit] at checked
        refine ih ?_ ?_
        · simp only [Scan.step, hyphen, if_false, digit, Option.isSome_some, if_true]
          exact ⟨above.pairs, above.first⟩
        · have more : hexValue (s.digits.reverse ++ [c]) = 16 * hexValue s.digits.reverse + d := by
            simp [hexValue, List.foldl_append, digit]
          have read : s.value.getD 0 = hexValue s.digits.reverse := by
            by_cases filled : s.digits = []
            · simp [Scan.value, filled, hexValue]
            · simp [Scan.value, filled]
          rw [read] at checked
          simpa [Scan.step, hyphen, digit, Scan.value, more] using checked
      | none =>
        simp only [hyphen, if_false, digit, Bool.and_eq_true] at checked
        refine ih ?_ ?_
        · simp only [Scan.step, hyphen, if_false, digit, Option.isSome_none, Bool.false_eq_true]
          exact close_above above checked.1
        · have closed : s.close.value = none := by
            unfold close
            split
            · rename_i empty
              simp [Scan.value, empty]
            · rfl
          simpa [Scan.step, hyphen, digit, closed] using checked.2

theorem Ranges.not_contains {text : String} {c : Char} (checked : beginsAbove c.toNat text.toList none = true) :
    (Ranges.ofText text).contains c = false :=
  search_below (Scan.steps_above ⟨by simp, by simp⟩ checked).pairs _ _ _

theorem Ranges.not_contains_ofList {text : List Char} {c : Char} (checked : beginsAbove c.toNat text none = true) :
    (Ranges.ofText (.ofList text)).contains c = false :=
  not_contains (by rwa [String.toList_ofList])

end

end Rehearsal.Unicode
