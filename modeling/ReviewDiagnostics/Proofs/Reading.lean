import ReviewDiagnostics.Document.Source

/-!
# Reading token by token

Positions only matter where reading fails.  A text that is read is read token by token, and a token is the
same in front of every text that may stand behind it.
-/

namespace ReviewDiagnostics

namespace Lexeme

/-- The characters of a text after its opening quote, with the closing one, and the code units that
they spell. -/
inductive Spells : List Char → List Nat → Prop
  | close : Spells ['"'] []
  | number {a b c d : Char} {u : Nat} {w : List Char} {units : List Nat}
      (hu : hexQuad? a b c d = some u) (h : Spells w units) :
      Spells ('\\' :: 'u' :: a :: b :: c :: d :: w) (u :: units)
  | letter {c e : Char} {w : List Char} {units : List Nat} (he : unescape? c = some e)
      (h : Spells w units) : Spells ('\\' :: c :: w) (e.toNat :: units)
  | plain {c : Char} {w : List Char} {units : List Nat} (hquote : c ≠ '"') (hslash : c ≠ '\\')
      (hprinted : 0x20 ≤ c.toNat) (h : Spells w units) : Spells (c :: w) (c.toNat :: units)

/-- The tokens of one character. -/
def marks : List (Char × Lexeme) :=
  [('[', openList), (']', closeList), ('\x7b', openObject), ('\x7d', closeObject), (',', comma),
    (':', colon)]

/-- The words that are documents. -/
def words : List (List Char × Document) :=
  [("null".toList, .null), ("true".toList, .bool true), ("false".toList, .bool false)]

/-- A text starts with a token that is not broken; and how long that is. -/
inductive Starts : Char → List Char → Lexeme → Nat → Prop
  | mark {c : Char} {lexeme : Lexeme} (h : (c, lexeme) ∈ marks) (cs : List Char) : Starts c cs lexeme 1
  | word {c : Char} {w : List Char} {d : Document} (h : (c :: w, d) ∈ words) (rest : List Char) :
      Starts c (w ++ rest) (scalar d) (w.length + 1)
  | text {w : List Char} {units : List Nat} (h : Spells w units) (rest : List Char) :
      Starts '"' (w ++ rest) (text (String.ofList (joinUnits units))) (w.length + 1)
  | number {c : Char} {cs : List Char} {d : Document} {count : Nat} (hc : Text.isAsciiDigit c = true)
      (h : scanNumber false (c :: cs) = (scalar d, count)) : Starts c cs (scalar d) count
  | negative {c : Char} {cs : List Char} {d : Document} {count : Nat}
      (hc : Text.isAsciiDigit c = true) (h : scanNumber true (c :: cs) = (scalar d, count)) :
      Starts '-' (c :: cs) (scalar d) (count + 1)

/-- A text that is one token. -/
def Spelled (text : List Char) (lexeme : Lexeme) : Prop :=
  ∃ c cs, text = c :: cs ∧ Starts c cs lexeme (cs.length + 1)

/-- A character that may stand behind a number or a word. -/
def isClosing (c : Char) : Bool :=
  isSpace c || c = ',' || c = ']' || c = '\x7d'

/-- A text that may follow a number or a word. -/
def Closes (rest : List Char) : Prop :=
  ∀ c, rest.head? = some c → isClosing c = true

end Lexeme

/-- What a text that is read from a state of the machine on gives, token by token. -/
inductive Reader.Reads : Reader.State → List Char → Document → Prop
  | finish {s : State} {d : Document} (h : finish 0 s = .ok d) : Reads s [] d
  | space {s : State} {c : Char} {cs : List Char} {d : Document} (hc : Lexeme.isSpace c = true)
      (h : Reads s cs d) : Reads s (c :: cs) d
  | token {s next : State} {c : Char} {cs : List Char} {lexeme : Lexeme} {count : Nat} {d : Document}
      (hstart : Lexeme.Starts c cs lexeme count) (hstep : step s ⟨0, lexeme⟩ = .ok next)
      (h : Reads next (cs.drop (count - 1)) d) : Reads s (c :: cs) d

namespace Proofs.Reading

open Lexeme Reader

/-! ## Texts in quotes -/

theorem spells_ne_nil {w : List Char} {units : List Nat} (h : Spells w units) : w ≠ [] := by
  cases h <;> exact List.cons_ne_nil _ _

theorem scanText_of_spells {w : List Char} {units : List Nat} (h : Spells w units)
    (opening position : Nat) (rest : List Char) :
    scanText opening position (w ++ rest) = .ok (units, w.length) := by
  induction h generalizing position with
  | close => rfl
  | @number a b c d u w units hu h ih =>
      obtain ⟨e, w, rfl⟩ := List.exists_cons_of_ne_nil (spells_ne_nil h)
      have hrest := ih (position + 6)
      rw [List.cons_append] at hrest
      simp only [List.cons_append, scanText, hu, hrest]
      rfl
  | @letter c e w units he h ih =>
      have hc : c ≠ 'u' := by
        rintro rfl
        cases (he : none = some e)
      rw [List.cons_append, List.cons_append, scanText]
      · simp only [he, ih (position + 2)]
        rfl
      all_goals simp [hc]
  | @plain c w units hquote hslash hprinted h ih =>
      rw [List.cons_append, scanText]
      · simp only [if_neg (Nat.not_lt.mpr hprinted), ih (position + 1)]
        rfl
      all_goals simp [hquote, hslash]

theorem bind_eq_ok {ε α β : Type} {x : Except ε α} {f : α → Except ε β} {b : β} :
    x >>= f = .ok b ↔ ∃ a, x = .ok a ∧ f a = .ok b := by
  cases x <;> simp [bind, Except.bind]

theorem spells_of_scanText {opening position : Nat} {cs : List Char} {units : List Nat} {count : Nat}
    (h : scanText opening position cs = .ok (units, count)) :
    ∃ w rest, cs = w ++ rest ∧ w.length = count ∧ Spells w units := by
  fun_induction scanText opening position cs generalizing units count with
  | case2 position rest =>
      cases h
      exact ⟨['"'], rest, rfl, rfl, .close⟩
  | case5 position a b c d e rest u hu ih =>
      obtain ⟨⟨units, count⟩, hmore, hall⟩ := bind_eq_ok.mp h
      obtain ⟨w, rest, hsplit, rfl, hw⟩ := ih hmore
      cases hall
      exact ⟨_, rest, by rw [hsplit]; rfl, rfl, .number hu hw⟩
  | case8 position c rest _ _ e he ih =>
      obtain ⟨⟨units, count⟩, hmore, hall⟩ := bind_eq_ok.mp h
      obtain ⟨w, rest, rfl, rfl, hw⟩ := ih hmore
      cases hall
      exact ⟨_, rest, rfl, rfl, .letter he hw⟩
  | case10 position c rest hquote hend _ _ hslash hprinted ih =>
      obtain ⟨⟨units, count⟩, hmore, hall⟩ := bind_eq_ok.mp h
      obtain ⟨w, rest, rfl, rfl, hw⟩ := ih hmore
      cases hall
      have hc : c ≠ '\\' := fun hc => by
        obtain ⟨e, w', heq⟩ := List.exists_cons_of_ne_nil (spells_ne_nil hw)
        exact hslash e (w' ++ rest) hc (by rw [heq]; rfl)
      exact ⟨_, rest, rfl, rfl, .plain hquote hc (Nat.not_lt.mp hprinted) hw⟩
  | _ => cases h

/-! ## Numbers -/

private theorem closing_cases {c : Char} (h : isClosing c = true) :
    c = ' ' ∨ c = '\t' ∨ c = '\n' ∨ c = '\r' ∨ c = ',' ∨ c = ']' ∨ c = '\x7d' := by
  simpa [isClosing, isSpace, or_assoc] using h

theorem closes_cases {rest : List Char} (h : Closes rest) :
    rest.takeWhile Text.isAsciiDigit = [] ∧ scanFraction rest = [] ∧ scanExponent rest = none ∧
      rest.head? ≠ some '0' ∧ rest.head? ≠ some '-' ∧ rest.head? ≠ some '+' := by
  cases rest with
  | nil => exact ⟨rfl, rfl, rfl, by simp, by simp, by simp⟩
  | cons c rest =>
      rcases closing_cases (h c rfl) with rfl | rfl | rfl | rfl | rfl | rfl | rfl <;>
        exact ⟨rfl, rfl, rfl, by simp, by simp, by simp⟩

theorem takeWhile_digits_append (w : List Char) {rest : List Char} (h : Closes rest) :
    (w ++ rest).takeWhile Text.isAsciiDigit = w.takeWhile Text.isAsciiDigit := by
  rw [List.takeWhile_append, (closes_cases h).1, List.append_nil]
  split
  · rename_i hall
    exact ((List.takeWhile_sublist _).eq_of_length hall).symm
  · rfl

theorem scanFraction_append (w : List Char) {rest : List Char} (h : Closes rest) :
    scanFraction (w ++ rest) = scanFraction w := by
  cases w with
  | nil => exact (closes_cases h).2.1
  | cons x w =>
      by_cases hx : x = '.'
      · subst hx
        exact takeWhile_digits_append w h
      · simp [scanFraction, hx]

/-- The digits of an exponent behind its letter: whether it is negative, and the length of the sign. -/
def exponentDigits : List Char → Bool × Nat × List Char
  | '-' :: cs => (true, 1, cs.takeWhile Text.isAsciiDigit)
  | '+' :: cs => (false, 1, cs.takeWhile Text.isAsciiDigit)
  | cs => (false, 0, cs.takeWhile Text.isAsciiDigit)

theorem exponentDigits_append (w : List Char) {rest : List Char} (h : Closes rest) :
    exponentDigits (w ++ rest) = exponentDigits w := by
  cases w with
  | nil =>
      obtain ⟨hdigits, -, -, -, hminus, hplus⟩ := closes_cases h
      rw [List.nil_append, exponentDigits]
      · rw [hdigits]
        rfl
      · rintro cs rfl
        exact hminus rfl
      · rintro cs rfl
        exact hplus rfl
  | cons x w =>
      have hall := takeWhile_digits_append (x :: w) h
      have hrest := takeWhile_digits_append w h
      rw [List.cons_append] at hall ⊢
      by_cases hminus : x = '-'
      · subst hminus
        simp only [exponentDigits, hrest]
      · by_cases hplus : x = '+'
        · subst hplus
          simp only [exponentDigits, hrest]
        · simp [exponentDigits, hminus, hplus, hall]

/-- The exponent that its digits are. -/
def exponentOf : Bool × Nat × List Char → Option (Int × Nat)
  | (negative, sign, digits) =>
    if digits.isEmpty then none
    else
      let n : Nat := Nat.ofDigitChars 10 digits 0
      some (if negative then -n else n, 1 + sign + digits.length)

theorem scanExponent_cons (c : Char) (cs : List Char) :
    scanExponent (c :: cs) =
      if c = 'e' ∨ c = 'E' then exponentOf (exponentDigits cs) else none := rfl

theorem scanExponent_append (w : List Char) {rest : List Char} (h : Closes rest) :
    scanExponent (w ++ rest) = scanExponent w := by
  cases w with
  | nil => exact (closes_cases h).2.2.1
  | cons x w => rw [List.cons_append, scanExponent_cons, scanExponent_cons, exponentDigits_append w h]

/-- The digits in front of a number's point. -/
def wholeDigits (cs : List Char) : List Char :=
  if cs.head? = some '0' then ['0'] else cs.takeWhile Text.isAsciiDigit

theorem wholeDigits_append (w : List Char) {rest : List Char} (h : Closes rest) :
    wholeDigits (w ++ rest) = wholeDigits w := by
  rw [wholeDigits, wholeDigits, takeWhile_digits_append w h]
  cases w with
  | nil => rw [List.nil_append, if_neg (closes_cases h).2.2.2.1, if_neg (by simp)]
  | cons x w => rfl

/-- The length of a fraction with its point. -/
def fractionLength (fraction : List Char) : Nat :=
  if fraction.isEmpty then 0 else fraction.length + 1

/-- A number by its parts. -/
def numberOf (negative : Bool) (whole fraction : List Char) (exponent? : Option (Int × Nat)) :
    Lexeme × Nat :=
  if fraction.isEmpty && exponent?.isNone then
    if Text.maxDigits < whole.length then (.broken (.tooManyDigits whole.length), whole.length)
    else
      let n : Nat := Nat.ofDigitChars 10 whole 0
      (.scalar (.int (if negative then -n else n)), whole.length)
  else
    let (e, exponentLength) := exponent?.getD (0, 0)
    let c := Nat.ofDigitChars 10 (whole ++ fraction) 0
    (.scalar (.float (Binary64.ofDecimal negative c (e - fraction.length))),
      whole.length + fractionLength fraction + exponentLength)

theorem scanNumber_eq (negative : Bool) (cs : List Char) :
    scanNumber negative cs =
      numberOf negative (wholeDigits cs) (scanFraction (cs.drop (wholeDigits cs).length))
        (scanExponent ((cs.drop (wholeDigits cs).length).drop
          (fractionLength (scanFraction (cs.drop (wholeDigits cs).length))))) := rfl

/-- A character of a number. -/
def isNumeric (c : Char) : Bool :=
  Text.isAsciiDigit c || c = '.' || c = 'e' || c = 'E' || c = '+' || c = '-'

/-- A text starts with a number of characters of numbers. -/
def Numeric (cs : List Char) (count : Nat) : Prop :=
  count ≤ cs.length ∧ ∀ c ∈ cs.take count, isNumeric c = true

theorem Numeric.zero (cs : List Char) : Numeric cs 0 :=
  ⟨Nat.zero_le _, by simp⟩

theorem Numeric.add {cs : List Char} {m n : Nat} (hm : Numeric cs m) (hn : Numeric (cs.drop m) n) :
    Numeric cs (m + n) := by
  have hlength := hn.1
  rw [List.length_drop] at hlength
  refine ⟨by have := hm.1; omega, fun c hc => ?_⟩
  rw [List.take_add] at hc
  exact (List.mem_append.mp hc).elim (hm.2 c) (hn.2 c)

theorem Numeric.cons {c : Char} {cs : List Char} {n : Nat} (hc : isNumeric c = true)
    (h : Numeric cs n) : Numeric (c :: cs) (n + 1) := by
  refine ⟨Nat.succ_le_succ h.1, fun x hx => ?_⟩
  rw [List.take_succ_cons, List.mem_cons] at hx
  exact hx.elim (fun hx => hx ▸ hc) (h.2 x)

private theorem isNumeric_of_digit {c : Char} (h : Text.isAsciiDigit c = true) : isNumeric c = true := by
  simp [isNumeric, h]

theorem Numeric.digits (cs : List Char) : Numeric cs (cs.takeWhile Text.isAsciiDigit).length := by
  have htake := List.prefix_iff_eq_take.mp (List.takeWhile_prefix Text.isAsciiDigit (l := cs))
  refine ⟨(List.takeWhile_sublist _).length_le, fun c hc => ?_⟩
  rw [← htake] at hc
  exact isNumeric_of_digit (List.all_eq_true.mp List.all_takeWhile c hc)

theorem Numeric.whole (cs : List Char) : Numeric cs (wholeDigits cs).length := by
  rw [wholeDigits]
  split
  · cases cs with
    | nil => rename_i h; cases h
    | cons c cs =>
        rename_i h
        cases h
        exact .cons rfl (.zero cs)
  · exact .digits cs

theorem Numeric.fraction (cs : List Char) : Numeric cs (fractionLength (scanFraction cs)) := by
  rw [fractionLength]
  split
  · exact .zero cs
  · rename_i hfraction
    cases cs with
    | nil => exact absurd rfl hfraction
    | cons c cs =>
        by_cases hc : c = '.'
        · subst hc
          exact .cons rfl (.digits cs)
        · exact absurd (by simp [scanFraction, hc]) hfraction

theorem Numeric.exponentDigits (cs : List Char) :
    Numeric cs ((exponentDigits cs).2.1 + (exponentDigits cs).2.2.length) := by
  fun_cases Reading.exponentDigits cs with
  | case1 cs =>
      rw [Nat.add_comm]
      exact .cons rfl (.digits cs)
  | case2 cs =>
      rw [Nat.add_comm]
      exact .cons rfl (.digits cs)
  | case3 cs =>
      rw [Nat.zero_add]
      exact .digits cs

theorem Numeric.exponent (cs : List Char) : Numeric cs ((scanExponent cs).getD (0, 0)).2 := by
  cases cs with
  | nil => exact .zero []
  | cons c cs =>
      rw [scanExponent_cons]
      split
      · rename_i hc
        rw [exponentOf]
        split
        · exact .zero _
        · have hnumeric : isNumeric c = true := by rcases hc with rfl | rfl <;> rfl
          have h := Numeric.cons hnumeric (.exponentDigits cs)
          simp only [Option.getD_some]
          rwa [Nat.add_comm 1, Nat.add_right_comm]
      · exact .zero _

theorem numberOf_length (negative : Bool) (whole fraction : List Char) (exponent? : Option (Int × Nat)) :
    (numberOf negative whole fraction exponent?).2 =
      whole.length + fractionLength fraction + (exponent?.getD (0, 0)).2 := by
  rw [numberOf]
  split
  · rename_i h
    obtain ⟨hfraction, hexponent⟩ := Bool.and_eq_true_iff.mp h
    rw [fractionLength, if_pos hfraction, Option.isNone_iff_eq_none.mp hexponent]
    split <;> rfl
  · rfl

theorem numeric_of_scanNumber {negative : Bool} {cs : List Char} {lexeme : Lexeme} {count : Nat}
    (h : scanNumber negative cs = (lexeme, count)) : Numeric cs count := by
  have hcount : (scanNumber negative cs).2 = count := by rw [h]
  rw [← hcount, scanNumber_eq, numberOf_length]
  refine Numeric.add (.add (.whole cs) (.fraction _)) ?_
  rw [← List.drop_drop]
  exact .exponent _

theorem pos_of_scanNumber {negative : Bool} {c : Char} {cs : List Char} {lexeme : Lexeme} {count : Nat}
    (hc : Text.isAsciiDigit c = true) (h : scanNumber negative (c :: cs) = (lexeme, count)) :
    0 < count := by
  have hcount : (scanNumber negative (c :: cs)).2 = count := by rw [h]
  have hwhole : 0 < (wholeDigits (c :: cs)).length := by
    rw [wholeDigits]
    split
    · decide
    · rw [List.takeWhile_cons_of_pos hc]
      exact Nat.succ_pos _
  rw [← hcount, scanNumber_eq, numberOf_length]
  omega

theorem scanNumber_append (negative : Bool) (w : List Char) {rest : List Char} (h : Closes rest) :
    scanNumber negative (w ++ rest) = scanNumber negative w := by
  rw [scanNumber_eq, scanNumber_eq, wholeDigits_append w h,
    List.drop_append_of_le_length (Numeric.whole w).1, scanFraction_append _ h,
    List.drop_append_of_le_length (Numeric.fraction _).1, scanExponent_append _ h]

/-! ## Tokens -/

theorem whole_of_starts {c : Char} {cs : List Char} {lexeme : Lexeme} {count : Nat}
    (h : Starts c cs lexeme count) : lexeme.isBroken = false := by
  cases h with
  | @mark c lexeme h =>
      simp only [marks, List.mem_cons, List.not_mem_nil, or_false, Prod.mk.injEq] at h
      rcases h with ⟨-, rfl⟩ | ⟨-, rfl⟩ | ⟨-, rfl⟩ | ⟨-, rfl⟩ | ⟨-, rfl⟩ | ⟨-, rfl⟩ <;> rfl
  | _ => rfl

theorem forall_of_starts {P : Char → Prop} (hmarks : ∀ p ∈ marks, P p.1)
    (hwords : ∀ p ∈ words, ∀ x ∈ p.1, P x) (hnumbers : ∀ x, isNumeric x = true → P x) {c : Char}
    {w rest : List Char} {lexeme : Lexeme} (h : Starts c (w ++ rest) lexeme (w.length + 1))
    (hquote : c ≠ '"') : ∀ x ∈ c :: w, P x := by
  generalize hcs : w ++ rest = cs at h
  generalize hcount : w.length + 1 = count at h
  cases h with
  | mark h =>
      obtain rfl := List.eq_nil_of_length_eq_zero (Nat.succ_inj.mp hcount)
      simpa using hmarks _ h
  | word h =>
      obtain ⟨rfl, -⟩ := List.append_inj hcs (Nat.succ_inj.mp hcount)
      exact hwords _ h
  | text => exact absurd rfl hquote
  | number hc h =>
      subst hcs hcount
      have hnumeric := (numeric_of_scanNumber h).2
      rw [List.take_succ_cons, List.take_left' rfl] at hnumeric
      exact fun x hx => hnumbers x (hnumeric x hx)
  | negative hc h =>
      obtain rfl := Nat.succ_inj.mp hcount
      have hnumeric := (numeric_of_scanNumber h).2
      rw [← hcs, List.take_left' rfl] at hnumeric
      exact List.forall_mem_cons.mpr ⟨hnumbers '-' rfl, fun x hx => hnumbers x (hnumeric x hx)⟩

theorem append_of_isPrefixOf {w cs : List Char} (h : w.isPrefixOf cs = true) :
    ∃ rest, cs = w ++ rest :=
  (List.isPrefixOf_iff_prefix.mp h).imp fun _ h => h.symm

theorem scan_of_starts {c : Char} {cs : List Char} {lexeme : Lexeme} {count : Nat}
    (h : Starts c cs lexeme count) (position : Nat) : scan position c cs = (lexeme, count) := by
  cases h with
  | @mark c lexeme h =>
      simp only [marks, List.mem_cons, List.not_mem_nil, or_false, Prod.mk.injEq] at h
      rcases h with ⟨rfl, rfl⟩ | ⟨rfl, rfl⟩ | ⟨rfl, rfl⟩ | ⟨rfl, rfl⟩ | ⟨rfl, rfl⟩ | ⟨rfl, rfl⟩ <;> rfl
  | @word c w d h rest =>
      simp only [words, List.mem_cons, List.not_mem_nil, or_false, Prod.mk.injEq] at h
      rcases h with ⟨hw, rfl⟩ | ⟨hw, rfl⟩ | ⟨hw, rfl⟩ <;> cases hw <;> rfl
  | @text w units h rest =>
      simp only [scan, scanText_of_spells h]
  | @number c cs d count hc h =>
      rw [scan]
      · rw [if_pos hc, h]
      all_goals
        rintro rfl
        exact absurd hc (by decide)
  | @negative c cs d count hc h =>
      simp only [scan, hc, if_true, h]

theorem starts_word {c : Char} {w cs : List Char} {d : Document} (hword : (c :: w, d) ∈ words)
    {fault : ReadFault} {lexeme : Lexeme} {count : Nat}
    (h : (if w.isPrefixOf cs then (scalar d, w.length + 1) else (broken fault, 1)) = (lexeme, count))
    (hwhole : lexeme.isBroken = false) : Starts c cs lexeme count := by
  split at h
  · rename_i hfront
    obtain ⟨rest, rfl⟩ := append_of_isPrefixOf hfront
    cases h
    exact .word hword rest
  · cases h
    cases hwhole

theorem broken_ite {p : Prop} [Decidable p] {fault fault' : ReadFault} {n : Nat} {lexeme : Lexeme}
    {count : Nat} (h : (if p then (broken fault, n) else (broken fault', 1)) = (lexeme, count)) :
    lexeme.isBroken = true := by
  split at h <;> cases h <;> rfl

theorem scalar_of_scanNumber {negative : Bool} {cs : List Char} {lexeme : Lexeme} {count : Nat}
    (h : scanNumber negative cs = (lexeme, count)) (hwhole : lexeme.isBroken = false) :
    ∃ d, lexeme = scalar d := by
  rw [scanNumber_eq, numberOf] at h
  split at h
  · split at h
    · cases h
      cases hwhole
    · exact ⟨_, (congrArg Prod.fst h).symm⟩
  · exact ⟨_, (congrArg Prod.fst h).symm⟩

theorem starts_of_scan {position : Nat} {c : Char} {cs : List Char} {lexeme : Lexeme} {count : Nat}
    (h : scan position c cs = (lexeme, count)) (hwhole : lexeme.isBroken = false) :
    Starts c cs lexeme count := by
  simp only [scan] at h
  -- one case for each character that starts a token
  split at h
  case h_7 | h_8 | h_9 => exact starts_word (by simp [words]) h hwhole
  case h_10 | h_11 => exact absurd (broken_ite h) (by rw [hwhole]; decide)
  case h_12 =>
    split at h
    · rename_i units count hscan
      obtain ⟨w, rest, rfl, rfl, hw⟩ := spells_of_scanText hscan
      cases h
      exact .text hw rest
    · cases h
      cases hwhole
  case h_13 =>
    split at h
    · split at h
      · rename_i c cs hc
        cases hnumber : scanNumber true (c :: cs) with | mk number length =>
        rw [hnumber] at h
        cases h
        obtain ⟨d, rfl⟩ := scalar_of_scanNumber hnumber hwhole
        exact .negative hc hnumber
      · exact absurd (broken_ite h) (by rw [hwhole]; decide)
    · cases h
      cases hwhole
  case h_14 =>
    split at h
    · rename_i hc
      obtain ⟨d, rfl⟩ := scalar_of_scanNumber h hwhole
      exact .number hc h
    · cases h
      cases hwhole
  all_goals
    cases h
    exact .mark (by simp [marks]) cs

theorem split_of_starts {c : Char} {cs : List Char} {lexeme : Lexeme} {count : Nat}
    (h : Starts c cs lexeme count) : ∃ w rest, cs = w ++ rest ∧ count = w.length + 1 := by
  have hsplit : ∀ n, n ≤ cs.length → ∃ w rest, cs = w ++ rest ∧ n + 1 = w.length + 1 := fun n hn =>
    ⟨cs.take n, cs.drop n, (List.take_append_drop n cs).symm, by rw [List.length_take_of_le hn]⟩
  cases h with
  | mark => exact ⟨[], cs, rfl, rfl⟩
  | word _ rest => exact ⟨_, rest, rfl, rfl⟩
  | text _ rest => exact ⟨_, rest, rfl, rfl⟩
  | number hc h =>
      obtain ⟨n, rfl⟩ := Nat.exists_eq_succ_of_ne_zero (Nat.ne_of_gt (pos_of_scanNumber hc h))
      exact hsplit n (Nat.le_of_succ_le_succ (numeric_of_scanNumber h).1)
  | negative hc h => exact hsplit _ (numeric_of_scanNumber h).1

/-- A token is the same in front of every text that may follow it. -/
theorem starts_append {c : Char} {w rest : List Char} {lexeme : Lexeme}
    (h : Starts c (w ++ rest) lexeme (w.length + 1)) (rest' : List Char)
    (hscalar : ∀ d, lexeme = .scalar d → Closes rest ∧ Closes rest') :
    Starts c (w ++ rest') lexeme (w.length + 1) := by
  generalize hcs : w ++ rest = cs at h
  generalize hcount : w.length + 1 = count at h
  cases h with
  | mark h =>
      obtain rfl := List.eq_nil_of_length_eq_zero (Nat.succ_inj.mp hcount)
      exact .mark h _
  | word h =>
      obtain ⟨rfl, -⟩ := List.append_inj hcs (Nat.succ_inj.mp hcount)
      exact hcount ▸ .word h rest'
  | text h =>
      obtain ⟨rfl, -⟩ := List.append_inj hcs (Nat.succ_inj.mp hcount)
      exact hcount ▸ .text h rest'
  | number hc h =>
      obtain ⟨hrest, hrest'⟩ := hscalar _ rfl
      rw [← hcs, ← List.cons_append, scanNumber_append _ _ hrest] at h
      refine .number hc ?_
      rw [← List.cons_append, scanNumber_append _ _ hrest', h]
  | @negative d cs _ _ hc h =>
      obtain ⟨hrest, hrest'⟩ := hscalar _ rfl
      cases w with
      | nil => exact absurd (Nat.succ_inj.mp hcount).symm (Nat.ne_of_gt (pos_of_scanNumber hc h))
      | cons e w =>
          obtain ⟨rfl, rfl⟩ := List.cons.inj hcs
          replace h := (scanNumber_append true (e :: w) hrest).symm.trans h
          obtain rfl := Nat.succ_inj.mp hcount
          exact .negative hc ((scanNumber_append true (e :: w) hrest').trans h)

theorem closes_nil : Closes [] := fun _ h => nomatch h

theorem spelled_mark {c : Char} {lexeme : Lexeme} (h : (c, lexeme) ∈ marks) : Spelled [c] lexeme :=
  ⟨c, [], rfl, .mark h []⟩

theorem spelled_word {w : List Char} {d : Document} (h : (w, d) ∈ words) : Spelled w (.scalar d) := by
  cases w with
  | nil => simp [words] at h
  | cons c w =>
      have hstart := Starts.word h []
      rw [List.append_nil] at hstart
      exact ⟨c, w, rfl, hstart⟩

theorem starts_of_spelled {text : List Char} {lexeme : Lexeme} (h : Spelled text lexeme)
    {rest : List Char} (hrest : ∀ d, lexeme = .scalar d → Closes rest) :
    ∃ c cs, text = c :: cs ∧ Starts c (cs ++ rest) lexeme (cs.length + 1) := by
  obtain ⟨c, cs, rfl, hstart⟩ := h
  refine ⟨c, cs, rfl, @starts_append c cs [] lexeme ?_ rest fun d hd => ⟨closes_nil, hrest d hd⟩⟩
  rwa [List.append_nil]

/-! ## Steps -/

theorem step_place {s next : State} {lexeme : Lexeme} {position : Nat}
    (h : step s ⟨position, lexeme⟩ = .ok next) (position' : Nat) :
    step s ⟨position', lexeme⟩ = .ok next := by
  obtain ⟨frames, awaiting⟩ := s
  cases awaiting with
  | comma d =>
      cases frames with
      | nil => cases h
      | cons frame frames => cases frame <;> cases lexeme <;> first | exact h | cases h
  | _ => cases lexeme <;> first | exact h | cases h

theorem whole_of_step {s next : State} {t : Token} (h : step s t = .ok next) :
    t.lexeme.isBroken = false := by
  obtain ⟨frames, awaiting⟩ := s
  obtain ⟨start, lexeme⟩ := t
  cases awaiting with
  | comma d =>
      cases frames with
      | nil => cases h
      | cons frame frames => cases frame <;> cases lexeme <;> first | rfl | cases h
  | _ => cases lexeme <;> first | rfl | cases h

theorem finish_place {s : State} {d : Document} {length : Nat} (h : finish length s = .ok d)
    (length' : Nat) : finish length' s = .ok d := by
  obtain ⟨frames, awaiting⟩ := s
  cases awaiting with
  | comma d' => cases frames <;> simp_all [finish]
  | _ => cases h

/-! ## Texts -/

theorem not_space_of_starts {c : Char} {cs : List Char} {lexeme : Lexeme} {count : Nat}
    (h : Starts c cs lexeme count) : isSpace c = false := by
  cases hc : isSpace c with
  | false => rfl
  | true =>
      have hspace : c = ' ' ∨ c = '\t' ∨ c = '\n' ∨ c = '\r' := by
        simpa [isSpace, or_assoc] using hc
      have hscan := scan_of_starts h 0
      have hwhole := whole_of_starts h
      rcases hspace with rfl | rfl | rfl | rfl <;> cases hscan <;> cases hwhole

theorem reads_nil {s : State} {d : Document} : Reads s [] d ↔ finish 0 s = .ok d :=
  ⟨fun h => by cases h with | finish h => exact h, .finish⟩

theorem reads_space {s : State} {c : Char} {cs : List Char} {d : Document} (hc : isSpace c = true) :
    Reads s (c :: cs) d ↔ Reads s cs d := by
  refine ⟨fun h => ?_, .space hc⟩
  cases h with
  | space _ h => exact h
  | token hstart => exact absurd hc (by rw [not_space_of_starts hstart]; decide)

theorem reads_token {s : State} {c : Char} {cs : List Char} {lexeme : Lexeme} {count : Nat}
    {d : Document} (hstart : Starts c cs lexeme count) :
    Reads s (c :: cs) d ↔
      ∃ next, step s ⟨0, lexeme⟩ = .ok next ∧ Reads next (cs.drop (count - 1)) d := by
  refine ⟨fun h => ?_, fun ⟨next, hstep, h⟩ => .token hstart hstep h⟩
  cases h with
  | space hc => exact absurd hc (by rw [not_space_of_starts hstart]; decide)
  | token hstart' hstep h =>
      obtain ⟨rfl, rfl⟩ :=
        Prod.mk.inj ((scan_of_starts hstart 0).symm.trans (scan_of_starts hstart' 0))
      exact ⟨_, hstep, h⟩

theorem awaiting_of_scalar {s next : State} {position : Nat} {d : Document}
    (h : step s ⟨position, .scalar d⟩ = .ok next) : next.awaiting = .comma d := by
  obtain ⟨frames, awaiting⟩ := s
  cases awaiting with
  | value | firstItem => cases h; rfl
  | comma d =>
      cases frames with
      | nil => cases h
      | cons frame frames => cases frame <;> cases h
  | _ => cases h

theorem closes_of_reads {s : State} {cs : List Char} {d result : Document}
    (hvalue : s.awaiting = .comma d) (h : Reads s cs result) : Closes cs := by
  cases h with
  | finish => intro c hc; cases hc
  | space hc =>
      rintro _ ⟨⟩
      simp [isClosing, hc]
  | @token _ next c cs lexeme count _ hstart hstep =>
      rintro _ ⟨⟩
      obtain ⟨frames, awaiting⟩ := s
      cases hvalue
      have hlexeme : lexeme = .comma ∨ lexeme = .closeList ∨ lexeme = .closeObject := by
        cases frames with
        | nil => cases hstep
        | cons frame frames =>
            cases frame <;> cases lexeme <;>
              first | exact .inl rfl | exact .inr (.inl rfl) | exact .inr (.inr rfl) | cases hstep
      rcases hlexeme with rfl | rfl | rfl <;> cases hstart with
      | mark hmark =>
          simp [marks] at hmark
          subst hmark
          rfl

/-- Cutting a text into tokens and stepping through them is reading it. -/
theorem steps_eq_ok {s : State} {position length : Nat} {cs : List Char} {d : Document} :
    (Token.cut position cs).foldlM step s >>= finish length = .ok d ↔ Reads s cs d := by
  fun_induction Token.cut position cs generalizing s with
  | case1 => exact ⟨fun h => .finish (finish_place h 0), fun h => finish_place (reads_nil.mp h) length⟩
  | case2 position c cs hc ih => rw [ih, reads_space hc]
  | case3 position c cs hc lexeme count hscan hbroken =>
      refine ⟨fun h => ?_, fun h => ?_⟩
      · obtain ⟨next, hsteps, -⟩ := bind_eq_ok.mp h
        rw [List.foldlM_cons] at hsteps
        obtain ⟨next, hstep, -⟩ := bind_eq_ok.mp hsteps
        exact absurd hbroken (by rw [whole_of_step hstep]; decide)
      · cases h with
        | space hc' => exact absurd hc' hc
        | token hstart =>
            obtain ⟨rfl, rfl⟩ := Prod.mk.inj ((scan_of_starts hstart position).symm.trans hscan)
            exact absurd hbroken (by rw [whole_of_starts hstart]; decide)
  | case4 position c cs hc lexeme count hscan hwhole ih =>
      have hstart := starts_of_scan hscan (Bool.eq_false_iff.mpr hwhole)
      rw [reads_token hstart, List.foldlM_cons, bind_assoc, bind_eq_ok]
      refine exists_congr fun next => and_congr ⟨fun h => step_place h 0, fun h => step_place h position⟩ ?_
      exact ih

theorem read_eq_ok {cs : List Char} {d : Document} :
    Document.read cs = .ok d ↔ Reads start cs d := by
  rw [Document.read]
  split
  · rename_i hmark
    refine ⟨fun h => (nomatch h), fun h => ?_⟩
    cases h with
    | finish h => cases h
    | space hc => cases hmark; cases hc
    | token hstart =>
        cases hmark
        have hscan := scan_of_starts hstart 0
        have hwhole := whole_of_starts hstart
        cases hscan
        cases hwhole
  · exact steps_eq_ok

theorem ofText_eq_ok {allowComments : Bool} {cs : List Char} {d : Document} :
    Source.ofText allowComments cs = .ok d ↔ cs.all Text.isBlank ≠ true ∧
      Reads start (if allowComments then Comments.blank cs else cs) d := by
  rw [Source.ofText, ← read_eq_ok]
  by_cases hblank : cs.all Text.isBlank = true
  · simp [hblank]
  · cases hread : Document.read (if allowComments then Comments.blank cs else cs) <;> simp [hblank, hread]

end Proofs.Reading

end ReviewDiagnostics
