import ReviewDiagnostics.Document.Printer
import ReviewDiagnostics.Proofs.DecimalValue
import ReviewDiagnostics.Proofs.Reading

/-!
# Reading written numbers

A number is written in one of several layouts: plain digits, digits with a point in or behind them, zeros in
front of them, or an exponent behind them.  The scanner of numbers takes each of them apart into the same
three parts, and these give back the number, of the kind that it was.
-/

namespace ReviewDiagnostics

-- Powers are those of the core library, whatever else is imported.
attribute [local instance (2000)] instPowNat

namespace Proofs.NumberText

open Lexeme Reading Decimal

variable {w f x : List Char} {negative : Bool}

/-! ## Digits -/

/-- A text of digits. -/
def Digits (w : List Char) : Prop :=
  ∀ c ∈ w, Text.isAsciiDigit c = true

private theorem isAsciiDigit_of_isDigit {c : Char} (h : c.isDigit = true) : Text.isAsciiDigit c = true := by
  simpa [Char.isDigit, Text.isAsciiDigit, UInt32.le_iff_toNat_le] using h

theorem digits_toDigits (n : Nat) : Digits (Nat.toDigits 10 n) := fun _ hc =>
  isAsciiDigit_of_isDigit (Nat.isDigit_of_mem_toDigits (by decide) (by decide) hc)

theorem digits_zeros (n : Nat) : Digits (List.replicate n '0') := fun c hc => by
  rw [(List.mem_replicate.mp hc).2]
  rfl

theorem Digits.append {v w : List Char} (hv : Digits v) (hw : Digits w) : Digits (v ++ w) := fun c hc =>
  (List.mem_append.mp hc).elim (hv c) (hw c)

theorem value_toDigits (n : Nat) : Nat.ofDigitChars 10 (Nat.toDigits 10 n) 0 = n :=
  Nat.ofDigitChars_toDigits (by decide) (by decide)

theorem head?_append (hw : w ≠ []) : (w ++ x).head? = w.head? := by
  cases w with
  | nil => exact absurd rfl hw
  | cons c w => rfl

theorem head?_toDigits {n : Nat} (hn : n ≠ 0) : (Nat.toDigits 10 n).head? ≠ some '0' := by
  induction n using Nat.strongRecOn with
  | ind n ih =>
      rw [Nat.toDigits_eq_if (by decide)]
      split
      · rename_i hlt
        have hdigit : ∀ m : Fin 10, m ≠ 0 → m.val.digitChar ≠ '0' := by decide
        have hchar := hdigit ⟨n, hlt⟩ fun h => hn (Fin.val_eq_of_eq h)
        exact fun h => hchar (Option.some.inj h)
      · rename_i hge
        rw [head?_append Nat.toDigits_ne_nil]
        exact ih (n / 10) (by omega) (by omega)

/-- A whole number as it is written: a zero in front stands alone. -/
structure Whole (w : List Char) : Prop where
  nonempty : w ≠ []
  digits : Digits w
  zero : w.head? = some '0' → w = ['0']

theorem whole_toDigits (n : Nat) : Whole (Nat.toDigits 10 n) where
  nonempty := Nat.toDigits_ne_nil
  digits := digits_toDigits n
  zero h := by
    by_cases hn : n = 0
    · rw [hn]
      rfl
    · exact absurd h (head?_toDigits hn)

/-! ## The parts of a number -/

/-- A fraction with its point. -/
def fractionText (f : List Char) : List Char :=
  if f.isEmpty then [] else '.' :: f

theorem length_fractionText (f : List Char) : (fractionText f).length = fractionLength f := by
  rw [fractionText, fractionLength]
  split <;> rfl

/-- A text that continues neither the digits in front of it nor a number with a point. -/
def Ends (x : List Char) : Prop :=
  ∀ c, x.head? = some c → Text.isAsciiDigit c = false ∧ c ≠ '.'

theorem ends_nil : Ends [] := fun _ h => nomatch h

theorem takeWhile_of_ends (hx : Ends x) : x.takeWhile Text.isAsciiDigit = [] := by
  cases x with
  | nil => rfl
  | cons c x => exact List.takeWhile_cons_of_neg (by rw [(hx c rfl).1]; decide)

theorem takeWhile_digits (hw : Digits w) (hx : x.takeWhile Text.isAsciiDigit = []) :
    (w ++ x).takeWhile Text.isAsciiDigit = w := by
  rw [List.takeWhile_append_of_pos hw, hx, List.append_nil]

theorem wholeDigits_of_whole (hw : Whole w) (hx : x.takeWhile Text.isAsciiDigit = []) :
    wholeDigits (w ++ x) = w := by
  rw [wholeDigits, head?_append hw.nonempty]
  split
  · rename_i hzero
    exact (hw.zero hzero).symm
  · exact takeWhile_digits hw.digits hx

theorem takeWhile_fractionText (hx : Ends x) :
    (fractionText f ++ x).takeWhile Text.isAsciiDigit = [] := by
  rw [fractionText]
  split
  · exact takeWhile_of_ends hx
  · rfl

private theorem scanFraction_fractionText (hf : Digits f) (hx : Ends x) :
    scanFraction (fractionText f ++ x) = f := by
  rw [fractionText]
  split
  · rename_i hempty
    rw [List.isEmpty_iff.mp hempty, List.nil_append]
    cases x with
    | nil => rfl
    | cons c x => simp [scanFraction, (hx c rfl).2]
  · exact takeWhile_digits hf (takeWhile_of_ends hx)

theorem scanNumber_parts (negative : Bool) (hw : Whole w) (hf : Digits f) (hx : Ends x) :
    scanNumber negative (w ++ (fractionText f ++ x)) = numberOf negative w f (scanExponent x) := by
  rw [scanNumber_eq, wholeDigits_of_whole hw (takeWhile_fractionText hx), List.drop_left,
    scanFraction_fractionText hf hx, ← length_fractionText, List.drop_left]

/-- A text without a sign that is a number as a whole. -/
structure IsNumber (negative : Bool) (text : List Char) (d : Document) : Prop where
  head : ∃ c cs, text = c :: cs ∧ Text.isAsciiDigit c = true
  scan : scanNumber negative text = (.scalar d, text.length)

theorem Whole.head (hw : Whole w) (x : List Char) :
    ∃ c cs, w ++ x = c :: cs ∧ Text.isAsciiDigit c = true := by
  obtain ⟨c, cs, rfl⟩ := List.exists_cons_of_ne_nil hw.nonempty
  exact ⟨c, cs ++ x, rfl, hw.digits c List.mem_cons_self⟩

theorem isNumber_whole (negative : Bool) (hw : Whole w) (hlength : w.length ≤ Text.maxDigits) :
    IsNumber negative w
      (.int (if negative then -(Nat.ofDigitChars 10 w 0 : Int) else Nat.ofDigitChars 10 w 0)) := by
  have hhead := hw.head []
  have h := scanNumber_parts negative hw (fun _ hc => nomatch hc) ends_nil (f := [])
  rw [List.append_nil] at hhead
  rw [show fractionText [] ++ [] = [] from rfl, List.append_nil] at h
  exact ⟨hhead, h.trans (if_neg (Nat.not_lt.mpr hlength))⟩

theorem isNumber_point (negative : Bool) (hw : Whole w) (hf : Digits f) (hne : f ≠ []) :
    IsNumber negative (w ++ '.' :: f)
      (.float (Binary64.ofDecimal negative (Nat.ofDigitChars 10 (w ++ f) 0) (-f.length))) := by
  have hempty : f.isEmpty = false := by simpa using hne
  have htext : fractionText f = '.' :: f := by simp [fractionText, hempty]
  have h := scanNumber_parts negative hw hf ends_nil
  rw [List.append_nil, htext] at h
  refine ⟨hw.head _, h.trans ?_⟩
  simp [numberOf, scanExponent, hempty, fractionLength]

theorem isNumber_exponent (negative : Bool) (hw : Whole w) (hf : Digits f) (hx : Ends x) {e : Int}
    (he : scanExponent x = some (e, x.length)) :
    IsNumber negative (w ++ (fractionText f ++ x))
      (.float (Binary64.ofDecimal negative (Nat.ofDigitChars 10 (w ++ f) 0) (e - f.length))) := by
  refine ⟨hw.head _, ?_⟩
  rw [scanNumber_parts negative hw hf hx, he, List.length_append, List.length_append,
    length_fractionText, ← Nat.add_assoc]
  simp [numberOf]

/-! ## Exponents -/

private theorem exponentText_eq (p : Int) : ∃ ds, Digits ds ∧ ds ≠ [] ∧ Nat.ofDigitChars 10 ds 0 = p.natAbs ∧
    exponentText p = (if p < 0 then '-' else '+') :: ds := by
  by_cases hshort : (Nat.toDigits 10 p.natAbs).length < 2
  · refine ⟨'0' :: Nat.toDigits 10 p.natAbs, .append (digits_zeros 1) (digits_toDigits _),
      List.cons_ne_nil _ _, Nat.ofDigitChars_cons.trans (value_toDigits _), ?_⟩
    simp only [exponentText, hshort, if_true]
  · refine ⟨_, digits_toDigits _, Nat.toDigits_ne_nil, value_toDigits _, ?_⟩
    simp only [exponentText, hshort, if_false]

theorem scanExponent_exponentText (p : Int) :
    scanExponent ('e' :: exponentText p) = some (p, ('e' :: exponentText p).length) := by
  obtain ⟨ds, hdigits, hne, hvalue, htext⟩ := exponentText_eq p
  have hall : ds.takeWhile Text.isAsciiDigit = ds := by
    have h := takeWhile_digits hdigits (x := []) rfl
    rwa [List.append_nil] at h
  have hempty : ds.isEmpty = false := by simpa using hne
  have hlength : 1 + 1 + ds.length = ds.length + 1 + 1 := Nat.add_comm _ _
  rw [htext, scanExponent_cons, if_pos (.inl rfl)]
  by_cases hp : p < 0
  · have hsign : -(p.natAbs : Int) = p := by omega
    rw [if_pos hp, exponentDigits, hall, exponentOf, hempty, hvalue]
    exact congrArg some (Prod.ext hsign hlength)
  · have hsign : (p.natAbs : Int) = p := by omega
    rw [if_neg hp, exponentDigits, hall, exponentOf, hempty, hvalue]
    exact congrArg some (Prod.ext hsign hlength)

/-! ## Layouts -/

variable {d : Decimal}

theorem pointed_cons (c : Char) (cs : List Char) : pointed (c :: cs) 1 = [c] ++ fractionText cs := by
  cases cs <;> rfl

theorem isNumber_zeros (negative : Bool) (hzero : d.digits = 0 → d.exponent = 0)
    (he : 0 ≤ d.exponent) :
    IsNumber negative
      (Nat.toDigits 10 d.digits ++ List.replicate d.exponent.toNat '0' ++ '.' :: ['0'])
      (.float (Binary64.ofDecimal negative d.digits d.exponent)) := by
  have hwhole : Whole (Nat.toDigits 10 d.digits ++ List.replicate d.exponent.toNat '0') := by
    by_cases hd : d.digits = 0
    · rw [hzero hd, Int.toNat_zero, List.replicate_zero, List.append_nil]
      exact whole_toDigits _
    · refine ⟨by simp, .append (digits_toDigits _) (digits_zeros _), fun h => ?_⟩
      rw [head?_append Nat.toDigits_ne_nil] at h
      exact absurd h (head?_toDigits hd)
  have hvalue : Nat.ofDigitChars 10
      (Nat.toDigits 10 d.digits ++ List.replicate d.exponent.toNat '0' ++ ['0']) 0 =
        d.digits * 10 ^ (d.exponent.toNat + 1) := by
    rw [List.append_assoc, ← List.replicate_succ', Nat.ofDigitChars_append, value_toDigits,
      Nat.ofDigitChars_replicate_zero, Nat.mul_comm]
  have hexponent : -(['0'].length : Int) = d.exponent - (d.exponent.toNat + 1 : Nat) := by
    rw [List.length_singleton]
    omega
  have h := isNumber_point negative hwhole (digits_zeros 1) (by decide)
  rwa [show List.replicate 1 '0' = ['0'] from rfl, hvalue, hexponent,
    DecimalValue.ofDecimal_mul_ten_pow] at h

theorem isNumber_pointed (negative : Bool) {n : Nat} (hd : d.digits ≠ 0)
    (hn : (n : Int) + 1 = d.exponent + (Nat.toDigits 10 d.digits).length) (he : d.exponent < 0) :
    IsNumber negative (pointed (Nat.toDigits 10 d.digits) (n + 1))
      (.float (Binary64.ofDecimal negative d.digits d.exponent)) := by
  have hwhole : Whole ((Nat.toDigits 10 d.digits).take (n + 1)) := by
    refine ⟨by simp, fun c hc => digits_toDigits _ c (List.mem_of_mem_take hc), ?_⟩
    rw [List.head?_take, if_neg (Nat.succ_ne_zero n)]
    exact fun h => absurd h (head?_toDigits hd)
  have hfraction : Digits ((Nat.toDigits 10 d.digits).drop (n + 1)) := fun c hc =>
    digits_toDigits _ c (List.mem_of_mem_drop hc)
  have hne : (Nat.toDigits 10 d.digits).drop (n + 1) ≠ [] := by
    rw [Ne, List.drop_eq_nil_iff]
    omega
  have hexponent : -(((Nat.toDigits 10 d.digits).drop (n + 1)).length : Int) = d.exponent := by
    rw [List.length_drop]
    omega
  have h := isNumber_point negative hwhole hfraction hne
  rw [List.take_append_drop, value_toDigits, hexponent] at h
  rwa [pointed, if_neg (by omega)]

theorem isNumber_below (negative : Bool) {n : Nat}
    (hn : -(n : Int) = d.exponent + (Nat.toDigits 10 d.digits).length) :
    IsNumber negative ('0' :: '.' :: List.replicate n '0' ++ Nat.toDigits 10 d.digits)
      (.float (Binary64.ofDecimal negative d.digits d.exponent)) := by
  have hvalue : Nat.ofDigitChars 10
      (['0'] ++ (List.replicate n '0' ++ Nat.toDigits 10 d.digits)) 0 = d.digits := by
    rw [← List.append_assoc, Nat.ofDigitChars_append, List.singleton_append, ← List.replicate_succ,
      Nat.ofDigitChars_replicate_zero, Nat.mul_zero, value_toDigits]
  have hexponent :
      -((List.replicate n '0' ++ Nat.toDigits 10 d.digits).length : Int) = d.exponent := by
    rw [List.length_append, List.length_replicate]
    omega
  have h := isNumber_point negative (whole_toDigits 0)
    (.append (digits_zeros n) (digits_toDigits d.digits)) (by simp)
  rwa [show Nat.toDigits 10 0 = ['0'] from rfl, hvalue, hexponent] at h

private theorem isNumber_scientific (negative : Bool) {p : Int} (hd : d.digits ≠ 0)
    (hp : p = d.exponent + (Nat.toDigits 10 d.digits).length - 1) :
    IsNumber negative (pointed (Nat.toDigits 10 d.digits) 1 ++ 'e' :: exponentText p)
      (.float (Binary64.ofDecimal negative d.digits d.exponent)) := by
  have hvalue := value_toDigits d.digits
  have hdigits := digits_toDigits d.digits
  have hhead := head?_toDigits hd
  obtain ⟨c, cs, hcs⟩ := List.exists_cons_of_ne_nil Nat.toDigits_ne_nil
  rw [hcs] at hvalue hdigits hhead hp ⊢
  have hwhole : Whole [c] :=
    ⟨List.cons_ne_nil _ _, fun x hx => hdigits x (by simp_all), fun h => absurd h hhead⟩
  have hends : Ends ('e' :: exponentText p) := by
    rintro _ ⟨⟩
    decide
  have hexponent : p - (cs.length : Int) = d.exponent := by
    rw [List.length_cons] at hp
    omega
  have h := isNumber_exponent negative hwhole (fun x hx => hdigits x (List.mem_cons_of_mem c hx)) hends
    (scanExponent_exponentText p)
  rw [show [c] ++ cs = c :: cs from rfl, hvalue, hexponent] at h
  rwa [pointed_cons, List.append_assoc]

/-- Every layout of a decimal is read as its value. -/
theorem isNumber_layOut (negative : Bool) (hzero : d.digits = 0 → d.exponent = 0) :
    IsNumber negative (layOut documentLayout d)
      (.float (Binary64.ofDecimal negative d.digits d.exponent)) := by
  have hlength := Nat.length_toDigits_pos (b := 10) (n := d.digits)
  rw [layOut]
  by_cases hd : d.digits = 0
  · have he : 0 ≤ d.exponent := Int.le_of_eq (hzero hd).symm
    simp only [hd, if_true]
    rw [if_pos (by decide), if_pos he, ← hd]
    exact isNumber_zeros negative hzero he
  · simp only [hd, if_false]
    split
    · split
      · rename_i he
        exact isNumber_zeros negative hzero he
      · split
        · exact isNumber_pointed negative hd (by omega) (by omega)
        · exact isNumber_below negative (by omega)
    · exact isNumber_scientific negative hd rfl

/-! ## Numbers as tokens -/

theorem IsNumber.spelled {text : List Char} {d : Document} (h : IsNumber negative text d) :
    Spelled ((if negative then ['-'] else []) ++ text) (.scalar d) := by
  obtain ⟨⟨c, cs, rfl, hc⟩, hscan⟩ := h
  cases negative with
  | true => exact ⟨'-', c :: cs, rfl, .negative hc hscan⟩
  | false => exact ⟨c, cs, rfl, .number hc hscan⟩

/-- A finite binary64 number is written as a token for itself. -/
theorem spelled_finite (negative : Bool) (scale : Fin 2047) (fraction : Fin (2 ^ (52 : Nat))) :
    Spelled ((Binary64.finite negative scale fraction).text Binary64.documentNames)
      (.scalar (.float (.finite negative scale fraction))) := by
  have h := (isNumber_layOut negative (@DecimalValue.exponent_shortest scale fraction)).spelled
  rwa [DecimalValue.ofDecimal_shortest] at h

theorem spelled_int {n : Int} (hn : n.natAbs < 10 ^ Text.maxDigits) :
    Spelled (toString n).toList (.scalar (.int n)) := by
  have hnumber : ∀ (negative : Bool) (m : Nat), m < 10 ^ Text.maxDigits →
      IsNumber negative (Nat.toDigits 10 m) (.int (if negative then -(m : Int) else m)) :=
    fun negative m hm => by
      have hlength := (Nat.length_toDigits_le_iff (by decide) (by decide)).mpr hm
      have h := isNumber_whole negative (whole_toDigits m) hlength
      rwa [value_toDigits] at h
  cases n with
  | ofNat m =>
      have htext : (toString (Int.ofNat m)).toList = Nat.toDigits 10 m := String.toList_ofList
      rw [htext]
      exact (hnumber false m hn).spelled
  | negSucc m =>
      have htext : (toString (Int.negSucc m)).toList = ['-'] ++ Nat.toDigits 10 (m + 1) := by
        exact String.toList_append.trans (congrArg _ String.toList_ofList)
      rw [htext]
      exact (hnumber true (m + 1) hn).spelled

end Proofs.NumberText

end ReviewDiagnostics
