import Rehearsal.Proofs.Span.Sum

/-!
Reading adds up what is written. A spelled text is read as the sum of its terms, refused where and as that sum is refused, and a
text that is not spelled is no span.
-/
namespace Rehearsal.Span

def Scan.run (s : Scan) (text : List Char) : Except Fault Span := text.foldlM Scan.step s >>= Scan.finish

section
variable {c : Char} {rest : List Char}

theorem run_cons (s : Scan) (c : Char) (rest : List Char) : s.run (c :: rest) = s.step c >>= fun s' => s'.run rest := by
  rw [Scan.run, List.foldlM_cons, bind_assoc]
  rfl

theorem run_of_step {s s' : Scan} (step : s.step c = .ok s') : s.run (c :: rest) = s'.run rest := by
  rw [run_cons, step]
  rfl

theorem run_of_fault {s : Scan} {e : Fault} (fault : s.step c = .error e) : s.run (c :: rest) = .error e := by
  rw [run_cons, fault]
  rfl

end

section
variable (total : Span) (place p : Nat) (first : Bool) (rest : List Char) {n : Nat} {c : Char} {w letters : List Char} {f : Fraction}
  {g : Option Fraction}

theorem run_digits (figures : w.all isFigure = true) (small : n < wordLimit) :
    ∃ place', Scan.run ⟨total, place, .digits n⟩ (w ++ rest) =
      if wordLimit ≤ extend n w then .error .overflow else Scan.run ⟨total, place', .digits (extend n w)⟩ rest := by
  induction w generalizing n place with
  | nil => exact ⟨place, (if_neg (Nat.not_le.mpr small)).symm⟩
  | cons c w ih =>
    rw [List.all_cons, Bool.and_eq_true] at figures
    obtain ⟨figure, figures⟩ := figures
    cases digit : c.isDigit with
    | true =>
      rw [extend_digit digit]
      by_cases large : wordLimit ≤ 10 * n + (c.toNat - 48)
      · refine ⟨place, ?_⟩
        rw [if_pos (large.trans (le_extend _ _))]
        exact run_of_fault (by simp [Scan.step, digit, large])
      · obtain ⟨place', run⟩ := ih (place + width c) figures (Nat.lt_of_not_le large)
        refine ⟨place', ?_⟩
        rw [← run]
        exact run_of_step (by simp [Scan.step, digit, large])
    | false =>
      obtain ⟨place', run⟩ := ih (place + width c) figures small
      refine ⟨place', ?_⟩
      rw [extend_blank digit, ← run]
      exact run_of_step (by simp [Scan.step, digit, isBlank_of_isFigure figure digit])

namespace Fraction

def extend (f : Fraction) (text : List Char) : Fraction := ⟨Span.extend f.numerator text, f.denominator * 10 ^ places text⟩

theorem extend_digit (digit : c.isDigit = true) (f : Fraction) (text : List Char) :
    f.extend (c :: text) = extend ⟨10 * f.numerator + (c.toNat - 48), 10 * f.denominator⟩ text := by
  simp only [extend, Span.extend_digit digit, places_digit digit, mk.injEq, true_and]
  ring

theorem extend_blank (other : c.isDigit = false) (f : Fraction) (text : List Char) : f.extend (c :: text) = f.extend text := by
  rw [extend, extend, Span.extend_blank other, places_blank other]

theorem le_extend (f : Fraction) (text : List Char) : f.denominator ≤ (f.extend text).denominator :=
  Nat.le_mul_of_pos_right _ (Nat.pow_pos (by decide))

end Fraction

theorem run_fraction (figures : w.all isFigure = true) (proper : f.numerator < f.denominator) (small : f.denominator < wordLimit) :
    ∃ place' p', Scan.run ⟨total, place, .fraction n f p⟩ (w ++ rest) =
      if wordLimit ≤ (f.extend w).denominator then .error .overflow else Scan.run ⟨total, place', .fraction n (f.extend w) p'⟩ rest := by
  induction w generalizing f place p with
  | nil =>
    have same : f.extend [] = f := by simp [Fraction.extend, extend, places]
    rw [same]
    exact ⟨place, p, (if_neg (Nat.not_le.mpr small)).symm⟩
  | cons c w ih =>
    rw [List.all_cons, Bool.and_eq_true] at figures
    obtain ⟨figure, figures⟩ := figures
    cases digit : c.isDigit with
    | true =>
      rw [Fraction.extend_digit digit]
      by_cases large : wordLimit ≤ 10 * f.denominator
      · refine ⟨place, p, ?_⟩
        rw [if_pos (large.trans (Fraction.le_extend ⟨_, _⟩ w))]
        exact run_of_fault (by simp [Scan.step, digit, large])
      · -- Nine more and a tenth of ten: the numerator stays below the denominator.
        have below : 10 * f.numerator + (c.toNat - 48) < 10 * f.denominator := by
          have range := toNat_of_isDigit digit
          omega
        obtain ⟨place', p', run⟩ := ih (place + width c) (place + width c) (f := ⟨_, _⟩) figures below (Nat.lt_of_not_le large)
        have fits : ¬ wordLimit ≤ 10 * f.numerator + (c.toNat - 48) := by omega
        refine ⟨place', p', ?_⟩
        rw [← run]
        exact run_of_step (by simp [Scan.step, digit, large, fits])
    | false =>
      obtain ⟨place', p', run⟩ := ih (place + width c) (place + width c) figures proper small
      refine ⟨place', p', ?_⟩
      rw [Fraction.extend_blank digit, ← run]
      exact run_of_step (by simp [Scan.step, digit, isBlank_of_isFigure figure digit])

theorem run_unit (more : w.all isUnitLetter = true) :
    ∃ place', Scan.run ⟨total, place, .unit n g letters⟩ (w ++ rest) =
      Scan.run ⟨total, place', .unit n g (w.reverse ++ letters)⟩ rest := by
  induction w generalizing letters place with
  | nil => exact ⟨place, rfl⟩
  | cons c w ih =>
    rw [List.all_cons, Bool.and_eq_true] at more
    obtain ⟨letter, more⟩ := more
    obtain ⟨place', run⟩ := ih (place + width c) more
    refine ⟨place', ?_⟩
    rw [List.reverse_cons, List.append_assoc, List.singleton_append, ← run]
    exact run_of_step (by simp [Scan.step, other_of_isUnitLetter letter, letter])

/-- A character behind a unit is read as the first behind the sum so far. -/
theorem step_close (figure : isFigure c = true) :
    Scan.step ⟨total, place, .unit n g letters⟩ c =
      addUnits? total n g letters.reverse >>= fun total => Scan.step ⟨total, place, .start (place + width c) false⟩ c := by
  cases digit : c.isDigit with
  | true =>
    simp only [Scan.step, digit, if_true]
    rfl
  | false =>
    simp only [Scan.step, digit, isBlank_of_isFigure figure digit, if_true, Bool.false_eq_true, if_false]
    rfl

theorem run_close (stops : rest = [] ∨ Begins isFigure rest) :
    ∃ place' p', Scan.run ⟨total, place, .unit n g letters⟩ rest =
      addUnits? total n g letters.reverse >>= fun total => Scan.run ⟨total, place', .start p' false⟩ rest := by
  cases rest with
  | nil => exact ⟨place, place, (bind_pure _).symm⟩
  | cons c rest =>
    have figure : isFigure c = true := by simpa [Begins] using stops
    refine ⟨place, place + width c, ?_⟩
    simp only [run_cons, step_close _ _ figure, bind_assoc]

variable (t : Term)

theorem run_whole : ∃ place', Scan.run ⟨total, place, .start p first⟩ (t.whole ++ rest) =
    if wordLimit ≤ number t.whole then .error .overflow else Scan.run ⟨total, place', .digits (number t.whole)⟩ rest := by
  obtain ⟨d, w, whole, digit, figures⟩ := t.exists_whole
  have small : d.toNat - 48 < wordLimit := by
    have range := toNat_of_isDigit digit
    rw [wordLimit_eq]
    omega
  have same : number t.whole = extend (d.toNat - 48) w := by rw [whole, number, extend_digit digit, Nat.mul_zero, Nat.zero_add]
  obtain ⟨place', digits⟩ := run_digits total (place + width d) rest figures small
  refine ⟨place', ?_⟩
  rw [same, ← digits, whole]
  exact run_of_step (by simp [Scan.step, digit])

/-- The unit of a term, where the letters of a unit may follow. -/
theorem run_named {phase : Phase} (stops : rest = [] ∨ Begins isFigure rest)
    (enters : ∀ c, isUnitLetter c = true → Scan.step ⟨total, place, phase⟩ c = .ok ⟨total, place + width c, .unit n g [c]⟩) :
    ∃ place' p', Scan.run ⟨total, place, phase⟩ (t.unit ++ rest) =
      addUnits? total n g t.unit >>= fun total => Scan.run ⟨total, place', .start p' false⟩ rest := by
  obtain ⟨c, more, unit, letter, letters⟩ := t.exists_unit
  obtain ⟨place₁, read⟩ := run_unit total (place + width c) rest (n := n) (g := g) letters
  obtain ⟨place₂, p', close⟩ := run_close total place₁ rest stops
  have reversed : (more.reverse ++ [c]).reverse = c :: more := by simp
  refine ⟨place₂, p', ?_⟩
  rw [unit, List.cons_append, run_of_step (enters c letter), read, close, reversed]

theorem enters_unit (letter : isUnitLetter c = true) :
    Scan.step ⟨total, place, .digits n⟩ c = .ok ⟨total, place + width c, .unit n none [c]⟩ := by
  simp [Scan.step, other_of_isUnitLetter letter, letter]

theorem enters_unit_of_fraction (letter : isUnitLetter c = true) (begun : f.denominator ≠ 1) :
    Scan.step ⟨total, place, .fraction n f p⟩ c = .ok ⟨total, place + width c, .unit n (some f) [c]⟩ := by
  simp [Scan.step, other_of_isUnitLetter letter, letter, begun]

/-- A term is read as it is added. -/
theorem run_term (stops : rest = [] ∨ Begins isFigure rest) :
    ∃ place' p', Scan.run ⟨total, place, .start p first⟩ (t.chars ++ rest) =
      plus total t >>= fun total => Scan.run ⟨total, place', .start p' false⟩ rest := by
  obtain ⟨place₁, whole⟩ := run_whole total place p first (Term.pointText t.fraction ++ (t.unit ++ rest)) t
  rw [Term.chars, List.append_assoc, List.append_assoc, whole, plus]
  split_ifs with large
  · exact ⟨place, p, rfl⟩
  · cases shape : t.fraction with
    | none => exact run_named total place₁ rest t stops fun c letter => enters_unit total place₁ letter
    | some f =>
      have point : Scan.step ⟨total, place₁, .digits (number t.whole)⟩ '.' =
          .ok ⟨total, place₁ + width '.', .fraction (number t.whole) ⟨0, 1⟩ place₁⟩ := rfl
      obtain ⟨place₂, p₂, fraction⟩ := run_fraction total (place₁ + width '.') place₁ (t.unit ++ rest) (n := number t.whole)
        (f := ⟨0, 1⟩) (Term.figures_behind shape) (by decide) (by decide)
      have same : Fraction.extend ⟨0, 1⟩ f = ⟨number f, 10 ^ places f⟩ := by rw [Fraction.extend, number, Nat.one_mul]
      rw [Term.pointText, List.cons_append, run_of_step point, fraction, same]
      dsimp only
      split_ifs with long
      · exact ⟨place, p, rfl⟩
      · refine run_named total place₂ rest t stops fun c letter => enters_unit_of_fraction total place₂ p₂ letter ?_
        exact (Nat.one_lt_pow (Term.places_pos shape).ne' (by decide)).ne'

end

section
variable {terms : List Term} {text : List Char}

theorem run_spelled (spelled : Spelled terms text) (total : Span) (place p : Nat) (first : Bool) (some : first = true → terms ≠ []) :
    Scan.run ⟨total, place, .start p first⟩ text = terms.foldlM plus total := by
  induction spelled generalizing total place p first with
  | done =>
    cases first with
    | false => rfl
    | true => exact absurd rfl (some rfl)
  | @blank c terms rest blank _ ih =>
    rw [← ih total (place + width c) p first some]
    exact run_of_step (by simp [Scan.step, not_isDigit_of_isBlank blank, blank])
  | @term t terms rest spelled ih =>
    obtain ⟨place', p', term⟩ := run_term total place p first rest t spelled.begins
    rw [term, List.foldlM_cons]
    exact bind_congr fun total => ih total place' p' false nofun

/-- A text that spells terms is read as their sum. -/
theorem ofText_of_spelled (spelled : Spelled terms text) (some : terms ≠ []) : ofText text = terms.foldlM plus .zero :=
  run_spelled spelled .zero 0 0 true fun _ => some

end

def Names (letters text : List Char) : Prop :=
  ∃ w rest terms, (Scale.ofName? (.ofList (letters ++ w))).isSome = true ∧ Spelled terms rest ∧ text = w ++ rest

def Phase.Completed (text : List Char) : Phase → Prop
  | .start _ first => ∃ terms, Spelled terms text ∧ (first = true → terms ≠ [])
  | .digits _ => ∃ w fraction rest, w.all isFigure = true ∧
      fraction.all (fun f => f.all isFigure && f.any Char.isDigit) = true ∧ Names [] rest ∧ text = w ++ (Term.pointText fraction ++ rest)
  | .fraction _ f _ => ∃ w rest, w.all isFigure = true ∧ (f.denominator = 1 → w.any Char.isDigit = true) ∧ Names [] rest ∧ text = w ++ rest
  | .unit _ _ letters => Names letters.reverse text

def Scan.Closes (s : Scan) : Prop :=
  match s.phase with
  | .start _ first => first = false
  | .unit _ _ letters => (Scale.ofName? (.ofList letters.reverse)).isSome = true
  | _ => False

section
variable {c : Char} {text letters : List Char} {n : Nat} {s s' : Scan}

theorem names_cons (names : Names (letters ++ [c]) text) : Names letters (c :: text) := by
  obtain ⟨w, rest, terms, named, spelled, rfl⟩ := names
  exact ⟨c :: w, rest, terms, by simpa using named, spelled, rfl⟩

theorem spelled_of_digit (digit : c.isDigit = true) (completed : (Phase.digits n).Completed text) :
    ∃ t terms, Spelled (t :: terms) (c :: text) := by
  obtain ⟨w, fraction, _, figures, behind, ⟨unit, rest, terms, named, spelled, rfl⟩, rfl⟩ := completed
  obtain ⟨scale, named⟩ := Option.isSome_iff_exists.mp named
  let t : Term := {
    whole := c :: w, fraction, unit, scale, behind
    starts := by simpa using digit
    figures := by simp [isFigure_of_isDigit digit, figures]
    named := Scale.ofName?_iff.mp named }
  refine ⟨t, terms, ?_⟩
  have text : c :: (w ++ (Term.pointText fraction ++ (unit ++ rest))) = t.chars ++ rest := by simp [t, Term.chars]
  rw [text]
  exact .term spelled

/-- What is counted, or breaks off, has a unit. -/
theorem named_of_closeUnit {f : Option Fraction}
    (read : ∀ e, s.closeUnit n f letters = .error e → e = .brokenCarry) : (Scale.ofName? (.ofList letters.reverse)).isSome = true := by
  cases named : Scale.ofName? (.ofList letters.reverse) with
  | some scale => rfl
  | none =>
    rw [Scan.closeUnit, addUnits?, named] at read
    have none := read _ rfl
    split at none <;> cases none

/-- A unit that is counted has its whole name, so what follows is spelled from its beginning. -/
theorem names_of_counted {f : Option Fraction} {total : Span} {terms : List Term} (counted : s.closeUnit n f letters = .ok total)
    (spelled : Spelled terms text) : Names letters.reverse text := by
  refine ⟨[], text, terms, ?_, spelled, rfl⟩
  rw [List.append_nil]
  exact named_of_closeUnit fun e failed => nomatch counted.symm.trans failed

/-- One character back. -/
theorem completed_of_step (step : s.step c = .ok s') (later : s'.phase.Completed text) : s.phase.Completed (c :: text) := by
  obtain ⟨total, place, phase⟩ := s
  cases phase with
  | start p first =>
    simp only [Scan.step] at step
    split_ifs at step with digit blank
    · cases step
      obtain ⟨t, terms, spelled⟩ := spelled_of_digit digit later
      exact ⟨t :: terms, spelled, fun _ => List.cons_ne_nil _ _⟩
    · cases step
      obtain ⟨terms, spelled, some⟩ := later
      exact ⟨terms, .blank blank spelled, some⟩
  | digits n =>
    simp only [Scan.step] at step
    split_ifs at step with digit large blank letter point
    · cases step
      obtain ⟨w, fraction, rest, figures, behind, names, rfl⟩ := later
      exact ⟨c :: w, fraction, rest, by simp [isFigure_of_isDigit digit, figures], behind, names, rfl⟩
    · cases step
      obtain ⟨w, fraction, rest, figures, behind, names, rfl⟩ := later
      exact ⟨c :: w, fraction, rest, by simp [isFigure, blank, figures], behind, names, rfl⟩
    · cases step
      exact ⟨[], none, c :: text, rfl, rfl, names_cons later, rfl⟩
    · cases step
      subst point
      obtain ⟨w, rest, figures, some, names, rfl⟩ := later
      exact ⟨[], .some w, rest, rfl, by simp [figures, some rfl], names, rfl⟩
  | fraction n f p =>
    simp only [Scan.step] at step
    split_ifs at step with digit large blank other
    · cases step
      obtain ⟨w, rest, figures, -, names, rfl⟩ := later
      exact ⟨c :: w, rest, by simp [isFigure_of_isDigit digit, figures], fun _ => by simp [digit], names, rfl⟩
    · cases step
      obtain ⟨w, rest, figures, some, names, rfl⟩ := later
      exact ⟨c :: w, rest, by simp [isFigure, blank, figures], fun none => by simp [some none], names, rfl⟩
    · cases step
      exact ⟨[], c :: text, rfl, fun none => absurd (.inl none) other, names_cons later, rfl⟩
  | unit n f letters =>
    simp only [Scan.step] at step
    split_ifs at step with digit blank letter
    · obtain ⟨total', counted, step⟩ := bind_eq_ok.mp step
      cases step
      obtain ⟨t, terms, spelled⟩ := spelled_of_digit digit later
      exact names_of_counted counted spelled
    · obtain ⟨total', counted, step⟩ := bind_eq_ok.mp step
      cases step
      obtain ⟨terms, spelled, -⟩ := later
      exact names_of_counted counted (.blank blank spelled)
    · cases step
      exact names_cons (by simpa [Phase.Completed] using later)

theorem completed_of_closes (closes : s.Closes) : s.phase.Completed [] := by
  obtain ⟨total, place, phase⟩ := s
  cases phase with
  | start p first =>
    obtain rfl : first = false := closes
    exact ⟨[], .done, nofun⟩
  | unit n f letters => exact ⟨[], [], [], by rwa [List.append_nil], .done, rfl⟩
  | _ => exact closes.elim

/-- A text that is gone through to a place where it may end completes what was read before it. -/
theorem completed_of_run (run : text.foldlM Scan.step s = .ok s') (closes : s'.Closes) : s.phase.Completed text := by
  induction text generalizing s with
  | nil =>
    cases run
    exact completed_of_closes closes
  | cons c text ih =>
    obtain ⟨mid, step, run⟩ := bind_eq_ok.mp run
    exact completed_of_step step (ih run)

theorem closes_of_finish (read : ∀ e, s.finish = .error e → e = .brokenCarry) : s.Closes := by
  obtain ⟨total, place, phase⟩ := s
  cases phase with
  | start p first =>
    cases first with
    | false => rfl
    | true => cases read .empty rfl
  | digits n => cases named_of_closeUnit read
  | fraction n f p =>
    by_cases none : f.denominator = 1
    · cases read (.invalidCharacter p) (if_pos none)
    · have finish : Scan.finish ⟨total, place, .fraction n f p⟩ = Scan.closeUnit ⟨total, place, .fraction n f p⟩ n (some f) [] :=
        if_neg none
      rw [finish] at read
      cases named_of_closeUnit read
  | unit n f letters => exact named_of_closeUnit read

theorem spelled_of_run (run : text.foldlM Scan.step {} = .ok s) (read : ∀ e, s.finish = .error e → e = .brokenCarry) :
    ∃ terms, terms ≠ [] ∧ Spelled terms text := by
  obtain ⟨terms, spelled, some⟩ := completed_of_run run (closes_of_finish read)
  exact ⟨terms, some rfl, spelled⟩

theorem ofText_eq_ok {total : Span} : ofText text = .ok total ↔
    ∃ terms, terms ≠ [] ∧ Spelled terms text ∧ terms.foldlM plus .zero = .ok total := by
  constructor
  · intro read
    obtain ⟨s, run, finish⟩ := bind_eq_ok.mp read
    obtain ⟨terms, some, spelled⟩ := spelled_of_run run fun e failed => nomatch finish.symm.trans failed
    exact ⟨terms, some, spelled, (ofText_of_spelled spelled some).symm.trans read⟩
  · rintro ⟨terms, some, spelled, added⟩
    rw [ofText_of_spelled spelled some, added]

/-- The scan breaks off at the character behind a unit, and would at the end of a text that ended there. -/
theorem finish_of_step_broken (broken : s.step c = .error .brokenCarry) : s.finish = .error .brokenCarry := by
  obtain ⟨total, place, phase⟩ := s
  cases phase with
  | unit n f letters =>
    simp only [Scan.step] at broken
    split_ifs at broken
    · exact (bind_eq_error.mp broken).resolve_right fun ⟨_, _, later⟩ => nomatch later
    · exact (bind_eq_error.mp broken).resolve_right fun ⟨_, _, later⟩ => nomatch later
    · cases broken
  | _ =>
    simp only [Scan.step] at broken
    split_ifs at broken <;> cases broken

/-- Where reading breaks off, the text up to there is spelled, and its sum breaks off. -/
theorem spelled_of_broken (broken : ofText text = .error .brokenCarry) :
    ∃ terms front rest, text = front ++ rest ∧ Spelled terms front ∧ terms.foldlM plus .zero = .error .brokenCarry := by
  obtain ⟨front, rest, s, split, run, finish⟩ : ∃ front rest s, text = front ++ rest ∧ front.foldlM Scan.step {} = .ok s ∧
      s.finish = .error .brokenCarry := by
    obtain stopped | ⟨s, run, finish⟩ := bind_eq_error.mp broken
    · obtain ⟨front, c, rest, s, split, run, step⟩ := foldlM_eq_error stopped
      exact ⟨front, c :: rest, s, split, run, finish_of_step_broken step⟩
    · exact ⟨text, [], s, (List.append_nil text).symm, run, finish⟩
  obtain ⟨terms, some, spelled⟩ := spelled_of_run run fun e failed => Except.error.inj (failed.symm.trans finish)
  refine ⟨terms, front, rest, split, spelled, ?_⟩
  rw [← ofText_of_spelled spelled some]
  exact bind_eq_error.mpr (.inr ⟨s, run, finish⟩)

end
end Rehearsal.Span
