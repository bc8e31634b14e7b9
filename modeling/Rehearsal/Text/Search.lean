/-!
Parts of texts: what stands between the blanks at the ends, at the first place of an operator, and inside quotes. Blanks are the
characters with the property White_Space.
-/
namespace Rehearsal.Text

def isBlank (c : Char) : Bool :=
  let n := c.toNat
  (9 ≤ n && n ≤ 13) || n == 0x20 || n == 0x85 || n == 0xA0 || n == 0x1680 || (0x2000 ≤ n && n ≤ 0x200A)
    || n == 0x2028 || n == 0x2029 || n == 0x202F || n == 0x205F || n == 0x3000

def trim (text : List Char) : List Char :=
  ((text.dropWhile isBlank).reverse.dropWhile isBlank).reverse

/-- A trimmed text of nothing but blanks is empty. -/
theorem trim_eq_nil_of_all {text : List Char} (h : (trim text).all isBlank = true) : trim text = [] := by
  simp only [trim, List.all_reverse] at h ⊢
  cases rest : (text.dropWhile isBlank).reverse.dropWhile isBlank with
  | nil => rfl
  | cons c cs =>
    have first := List.head?_dropWhile_not isBlank (text.dropWhile isBlank).reverse
    simp_all

def trimText (s : String) : String :=
  .ofList (trim s.toList)

def isBlankText (s : String) : Bool :=
  s.toList.all isBlank

/-- The bytes that stand for blanks in a byte string: space, tab, the line feeds and the carriage return. -/
def isBlankByte (b : UInt8) : Bool :=
  b == 0x20 || b == 0x09 || b == 0x0A || b == 0x0C || b == 0x0D

/-- What stands before and after the first place where one of the separators begins, and which it is. -/
def cutAtFirst? (separators : List (List Char)) : List Char → Option (List Char × List Char × List Char)
  | [] => none
  | c :: rest =>
    match separators.findSome? fun s => (s.isPrefixOf? (c :: rest)).map (s, ·) with
    | some (s, after) => some ([], s, after)
    | none => (cutAtFirst? separators rest).map fun (before, s, after) => (c :: before, s, after)

def contains (part : List Char) : List Char → Bool
  | [] => part.isEmpty
  | c :: rest => part.isPrefixOf (c :: rest) || contains part rest

def inside? (q : Char) (text : List Char) : Option (List Char) :=
  match text with
  | c :: rest => if c = q ∧ rest.getLast? = some q then some rest.dropLast else none
  | [] => none

def unquote (text : List Char) : List Char :=
  match inside? '"' text with
  | some t => t
  | none => (inside? '\'' text).getD text

end Rehearsal.Text
