import Rehearsal.Regex.Basic

/-!
Room for automata. Expressions are searched for with automata, and one that grows too large is refused. How large is too large is
left open: what is proved holds for any room. The program has the room that searching commonly has, and counts the states of the
automaton that reads bytes from behind; groups, and letters that are equal up to case, are not counted.
-/
namespace Rehearsal.Regex

class Room where
  holds : Expr → Bool

/-! Sets as stretches of code points, in order and apart from each other. -/
namespace CharSet

def lastCode : Nat := 0x10FFFF

def place (a b : Nat) : List (Nat × Nat) → List (Nat × Nat)
  | [] => [(a, b)]
  | (c, d) :: rest =>
    if b + 1 < c then (a, b) :: (c, d) :: rest
    else if d + 1 < a then (c, d) :: place a b rest
    else place (min a c) (max b d) rest

def join (l m : List (Nat × Nat)) : List (Nat × Nat) := l.foldr (fun (a, b) => place a b) m

def gaps (start : Nat) : List (Nat × Nat) → List (Nat × Nat)
  | [] => if start ≤ lastCode then [(start, lastCode)] else []
  | (a, b) :: rest => if start < a then (start, a - 1) :: gaps (b + 1) rest else gaps (b + 1) rest

def stretches : CharSet → List (Nat × Nat)
  | .ranges pairs => join (pairs.map fun (a, b) => (a.toNat, b.toNat)) []
  | .property r => r.pairs.toList
  | .compl s => gaps 0 s.stretches
  | .union s t => join s.stretches t.stretches
  | .inter s t => gaps 0 (join (gaps 0 s.stretches) (gaps 0 t.stretches))
  | .fold s | .foldAscii s => s.stretches

/-- The stretch from `a` to `b` as blocks: of numbers of `n + 1` digits to base 64, each block gives a range for every digit. -/
def blocks : Nat → Nat → Nat → List (List (Nat × Nat))
  | 0, a, b => [[(a, b)]]
  | n + 1, a, b =>
    let unit := 64 ^ (n + 1)
    if a / unit = b / unit then (blocks n (a % unit) (b % unit)).map ((a / unit, a / unit) :: ·)
    else
      let first := if a % unit = 0 then [] else (blocks n (a % unit) (unit - 1)).map ((a / unit, a / unit) :: ·)
      let last := if b % unit = unit - 1 then [] else (blocks n 0 (b % unit)).map ((b / unit, b / unit) :: ·)
      let low := (a + unit - 1) / unit
      let high := (b + 1) / unit
      let middle := if low < high then [(low, high - 1) :: List.replicate (n + 1) (0, 63)] else []
      first ++ middle ++ last

def sharedLength [DecidableEq α] : List α → List α → Nat
  | x :: l, y :: m => if x = y then sharedLength l m + 1 else 0
  | _, _ => 0

/-- A state for each digit that a block does not share with the one before it, and a way into each block. -/
def blockBytes : List (Nat × Nat) → List (List (Nat × Nat)) → Nat
  | _, [] => 0
  | before, block :: rest => 32 * (block.length - sharedLength before block) + 4 + blockBytes block rest

def byteLengths : List (Nat × Nat × Nat) :=
  [(0, 0, 0x7F), (1, 0x80, 0x7FF), (2, 0x800, 0xD7FF), (2, 0xE000, 0xFFFF), (3, 0x10000, lastCode)]

def bytes (s : CharSet) : Nat :=
  let l := s.stretches
  match l with
  | [(a, b)] => if a = b then 32 * (Char.ofNat a).utf8Size else sized l
  | _ => sized l
where
  sized (l : List (Nat × Nat)) : Nat :=
    if l.all fun (_, b) => b < 0x80 then 64 + 8 * l.length
    else 64 + byteLengths.foldl (fun size (n, first, last) =>
      size + blockBytes [] (l.flatMap fun (a, b) => if a ≤ last ∧ first ≤ b then blocks n (max a first) (min b last) else [])) 0

end CharSet

def Expr.canSkip : Expr → Bool
  | .empty | .anchor _ | .star _ => true
  | .set _ => false
  | .seq r s => r.canSkip && s.canSkip
  | .alt r s => r.canSkip || s.canSkip
  | .times r least _ => least == 0 || r.canSkip

/-- The size of the automaton in bytes: a state takes 32, and 4 for each way that it parts into. -/
def Expr.bytes : Expr → Nat
  | .empty => 0
  | .set s => s.bytes
  | .anchor _ => 32
  | .seq r s => r.bytes + s.bytes
  | .alt r (.alt s t) => r.bytes + (Expr.alt s t).bytes + 4
  | .alt r s => r.bytes + s.bytes + 72
  | .star r => r.bytes + if r.canSkip then 112 else 40
  | .times r least none => max least 1 * r.bytes + 40
  | .times r least (some most) => most * r.bytes + 40 * (most - least) + 32

instance : Room := ⟨fun r => r.bytes + 64 ≤ 10485760⟩

end Rehearsal.Regex
