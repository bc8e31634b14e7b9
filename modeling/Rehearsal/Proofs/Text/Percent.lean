import Rehearsal.Proofs.Text.Utf8
import Rehearsal.Unicode.Ranges

/-!
Percent encoding read back. What is kept is a character of one byte, other than those that the reader takes for more; all
else comes back byte by byte.
-/
namespace Rehearsal.Text.Percent

def percent : UInt8 := 0x25
def plus : UInt8 := 0x2B
def blank : UInt8 := 0x20

def byteOf? (high low : UInt8) : Option UInt8 := do
  let h ← Unicode.hexDigit? (Char.ofNat high.toNat)
  let l ← Unicode.hexDigit? (Char.ofNat low.toNat)
  return UInt8.ofNat (16 * h + l)

/-- A percent sign and two digits are a byte; a percent sign before anything else stands for itself. -/
def unescape : List UInt8 → List UInt8
  | b :: high :: low :: rest =>
    match (if b = percent then byteOf? high low else none) with
    | some c => c :: unescape rest
    | none => b :: unescape (high :: low :: rest)
  | short => short

def decode (bytes : List UInt8) : List UInt8 :=
  unescape (bytes.map fun b => if b = plus then blank else b)

structure Plain (c : Char) : Prop where
  short : c.toNat < 0x80
  percent : c ≠ '%'
  plus : c ≠ '+'

section
variable {c : Char} {keep : Char → Bool} {rest : List UInt8}

theorem utf8_of_short (short : c.toNat < 0x80) : String.utf8EncodeChar c = [UInt8.ofNat c.toNat] := by
  have short : c.val.toNat ≤ 0x7F := Nat.le_of_lt_succ short
  rw [Utf8.encodeChar_eq]
  exact if_pos short

theorem byte_ne_of_short {d : Char} (short : c.toNat < 0x80) (short' : d.toNat < 0x80) (other : c ≠ d) :
    UInt8.ofNat c.toNat ≠ UInt8.ofNat d.toNat := by
  intro same
  have bytes := congrArg UInt8.toNat same
  rw [UInt8.toNat_ofNat', UInt8.toNat_ofNat', Nat.mod_eq_of_lt (by omega), Nat.mod_eq_of_lt (by omega)] at bytes
  exact other (Char.toNat_inj.mp bytes)

theorem decode_cons {b : UInt8} (sign : b ≠ percent) (filler : b ≠ plus) : decode (b :: rest) = b :: decode rest := by
  simp only [decode, List.map_cons, if_neg filler]
  generalize rest.map (fun b => if b = plus then blank else b) = bytes
  match bytes with
  | [] => rfl
  | [_] => rfl
  | _ :: _ :: _ => rw [unescape, if_neg sign]

/-- A digit below sixteen as it is spelled and read. -/
theorem digit_spelled : ∀ n < 16, (digit n).toNat < 0x80 ∧ digit n ≠ '+' ∧
    Unicode.hexDigit? (digit n) = some n := by
  decide

theorem utf8_encodeByte (b : UInt8) :
    Utf8.encode (encodeByte b) =
      [percent, UInt8.ofNat (digit (b.toNat / 16)).toNat, UInt8.ofNat (digit (b.toNat % 16)).toNat] := by
  have size := b.toNat_lt
  have high := (digit_spelled (b.toNat / 16) (by omega)).1
  have low := (digit_spelled (b.toNat % 16) (by omega)).1
  have sign : String.utf8EncodeChar '%' = [percent] := by decide
  simp [encodeByte, Utf8.encode, sign, utf8_of_short high, utf8_of_short low]

theorem byteOf?_digits (b : UInt8) :
    byteOf? (UInt8.ofNat (digit (b.toNat / 16)).toNat) (UInt8.ofNat (digit (b.toNat % 16)).toNat) = some b := by
  have size := b.toNat_lt
  obtain ⟨short, -, high⟩ := digit_spelled (b.toNat / 16) (by omega)
  obtain ⟨short', -, low⟩ := digit_spelled (b.toNat % 16) (by omega)
  have back {d : Char} (short : d.toNat < 0x80) : Char.ofNat (UInt8.ofNat d.toNat).toNat = d := by
    rw [UInt8.toNat_ofNat', Nat.mod_eq_of_lt (by omega), Char.ofNat_toNat]
  have whole : 16 * (b.toNat / 16) + b.toNat % 16 = b.toNat := Nat.div_add_mod b.toNat 16
  simp only [byteOf?, back short, back short', high, low, Option.bind_eq_bind, Option.bind_some, Option.pure_def, whole,
    UInt8.ofNat_toNat]

theorem decode_encodeByte (b : UInt8) (rest : List UInt8) : decode (Utf8.encode (encodeByte b) ++ rest) = b :: decode rest := by
  have size := b.toNat_lt
  have unfilled {n : Nat} (small : n < 16) : UInt8.ofNat (digit n).toNat ≠ plus :=
    byte_ne_of_short (d := '+') (digit_spelled n small).1 (by decide) (digit_spelled n small).2.1
  have sign : percent ≠ plus := by decide
  simp only [utf8_encodeByte, decode, List.cons_append, List.nil_append, List.map_cons, if_neg sign,
    if_neg (unfilled (n := b.toNat / 16) (by omega)), if_neg (unfilled (n := b.toNat % 16) (by omega))]
  rw [unescape, if_pos rfl, byteOf?_digits]

theorem decode_encodeChar (kept : ∀ c, keep c = true → Plain c) (c : Char) (rest : List UInt8) :
    decode (Utf8.encode (encodeChar keep c) ++ rest) = String.utf8EncodeChar c ++ decode rest := by
  unfold encodeChar
  split
  · rename_i stays
    obtain ⟨short, sign, filler⟩ := kept c stays
    have alone : Utf8.encode [c] = [UInt8.ofNat c.toNat] := by simp [Utf8.encode, utf8_of_short short]
    rw [alone, utf8_of_short short, List.singleton_append, List.singleton_append]
    exact decode_cons (byte_ne_of_short (d := '%') short (by decide) sign) (byte_ne_of_short (d := '+') short (by decide) filler)
  · induction String.utf8EncodeChar c with
    | nil => rfl
    | cons b bytes ih =>
      have split : Utf8.encode ((b :: bytes).flatMap encodeByte) =
          Utf8.encode (encodeByte b) ++ Utf8.encode (bytes.flatMap encodeByte) := by
        simp [Utf8.encode]
      rw [split, List.append_assoc, decode_encodeByte, ih, List.cons_append]

theorem decode_encode (kept : ∀ c, keep c = true → Plain c) (text : List Char) :
    decode (Utf8.encode (encode keep text)) = Utf8.encode text := by
  induction text with
  | nil => rfl
  | cons c text ih =>
    have split : Utf8.encode (encode keep (c :: text)) = Utf8.encode (encodeChar keep c) ++ Utf8.encode (encode keep text) := by
      simp [encode, Utf8.encode]
    rw [split, decode_encodeChar kept, ih]
    rfl

/-- Only kept characters, percent signs and digits are ever written. -/
theorem mem_encode (kept : ∀ c, keep c = true → Plain c) {text : List Char} {b : UInt8}
    (written : b ∈ Utf8.encode (encode keep text)) :
    ∃ c, (keep c = true ∨ c = '%' ∨ ∃ n < 16, c = digit n) ∧ c.toNat < 0x80 ∧ b = UInt8.ofNat c.toNat := by
  simp only [Utf8.encode, encode, List.flatMap_assoc, List.mem_flatMap] at written
  obtain ⟨c, -, d, spelled, within⟩ := written
  unfold encodeChar at spelled
  split at spelled
  · rename_i stays
    obtain rfl := List.mem_singleton.mp spelled
    have short := (kept d stays).short
    rw [utf8_of_short short] at within
    exact ⟨d, .inl stays, short, List.mem_singleton.mp within⟩
  · obtain ⟨byte, -, spelled⟩ := List.mem_flatMap.mp spelled
    have size := byte.toNat_lt
    have escape : d = '%' ∨ ∃ n < 16, d = digit n := by
      simp only [encodeByte, List.mem_cons, List.not_mem_nil, or_false] at spelled
      obtain sign | high | low := spelled
      · exact .inl sign
      · exact .inr ⟨byte.toNat / 16, by omega, high⟩
      · exact .inr ⟨byte.toNat % 16, by omega, low⟩
    have short : d.toNat < 0x80 := by
      obtain rfl | ⟨n, small, rfl⟩ := escape
      · decide
      · exact (digit_spelled n small).1
    rw [utf8_of_short short] at within
    exact ⟨d, .inr escape, short, List.mem_singleton.mp within⟩

end
end Rehearsal.Text.Percent
