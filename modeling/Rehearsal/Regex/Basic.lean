import Rehearsal.Regex.CharSet

/-!
Regular expressions and the texts they match. Matching reads a text once and keeps the list of what may still
follow; assertions look at the characters on both sides of a place.
-/
namespace Rehearsal.Regex

inductive Anchor where
  | textStart
  | textEnd
  | lineStart
  | lineEnd
  /-- Lines that end with a carriage return, a line feed or both; also the next. -/
  | crlfStart
  | crlfEnd
  | wordEdge (ascii : Bool)
  | notWordEdge (ascii : Bool)
  | wordStart (ascii : Bool)
  | wordEnd (ascii : Bool)
  | wordStartHalf (ascii : Bool)
  | wordEndHalf (ascii : Bool)
deriving DecidableEq

inductive Expr where
  | empty
  | set (s : CharSet)
  | anchor (a : Anchor)
  | seq (r s : Expr)
  | alt (r s : Expr)
  | star (r : Expr)
  /-- Between `least` and `most` times, without bound if `most` is absent. -/
  | times (r : Expr) (least : Nat) (most : Option Nat)
deriving DecidableEq

structure Place where
  before : Option Char
  after : Option Char

def isWord (ascii : Bool) (c : Option Char) : Bool :=
  match c with
  | none => false
  | some c => if ascii then asciiWord.mem c else wordSet.mem c

def Anchor.holds (p : Place) : Anchor → Bool
  | .textStart => p.before.isNone
  | .textEnd => p.after.isNone
  | .lineStart => p.before.isNone || p.before == some '\n'
  | .lineEnd => p.after.isNone || p.after == some '\n'
  | .crlfStart => p.before.isNone || p.before == some '\n' || (p.before == some '\r' && p.after != some '\n')
  | .crlfEnd => p.after.isNone || p.after == some '\r' || (p.after == some '\n' && p.before != some '\r')
  | .wordEdge a => isWord a p.before != isWord a p.after
  | .notWordEdge a => isWord a p.before == isWord a p.after
  | .wordStart a => !isWord a p.before && isWord a p.after
  | .wordEnd a => isWord a p.before && !isWord a p.after
  | .wordStartHalf a => !isWord a p.before
  | .wordEndHalf a => !isWord a p.after

namespace Expr

def skips (p : Place) : Expr → Bool
  | .empty => true
  | .set _ => false
  | .anchor a => a.holds p
  | .seq r s => r.skips p && s.skips p
  | .alt r s => r.skips p || s.skips p
  | .star _ => true
  | .times r least _ => least == 0 || r.skips p

def step (p : Place) (c : Char) : Expr → List (List Expr)
  | .empty => []
  | .set s => if s.mem c then [[]] else []
  | .anchor _ => []
  | .seq r s => (r.step p c).map (· ++ [s]) ++ if r.skips p then s.step p c else []
  | .alt r s => r.step p c ++ s.step p c
  | .star r => (r.step p c).map (· ++ [.star r])
  | .times r least most =>
    if most = some 0 then [] else
      let least := if r.skips p then 0 else least - 1
      (r.step p c).map (· ++ [.times r least (most.map (· - 1))])

end Expr

def skipsAll (p : Place) (k : List Expr) : Bool :=
  k.all (·.skips p)

def stepAll (p : Place) (c : Char) : List Expr → List (List Expr)
  | [] => []
  | r :: k => (r.step p c).map (· ++ k) ++ if r.skips p then stepAll p c k else []

def stepChoices (p : Place) (c : Char) (choices : List (List Expr)) : List (List Expr) :=
  (choices.flatMap (stepAll p c)).eraseDups

def searchFrom (r : Expr) : Option Char → List (List Expr) → List Char → Bool
  | before, choices, [] =>
    ([r] :: choices).any (skipsAll ⟨before, none⟩)
  | before, choices, c :: rest =>
    let p : Place := ⟨before, some c⟩
    let choices := [r] :: choices
    choices.any (skipsAll p) || searchFrom r (some c) (stepChoices p c choices) rest

def Expr.occursIn (r : Expr) (text : List Char) : Bool :=
  searchFrom r none [] text

end Rehearsal.Regex
