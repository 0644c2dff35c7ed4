import ReviewDiagnostics.Document.Printer
import ReviewDiagnostics.Proofs.Reading

/-!
# Reading written texts

Whatever the escapes, a written text spells the text that it was written for.  Each character is spelled by
code units of its own: by the one that it is, or by a pair of surrogates.
-/

namespace ReviewDiagnostics.Proofs.WrittenText

open Lexeme Document

variable {w : List Char} {units : List Nat}

/-! ## Code units -/

/-- The two surrogates that a character beyond the basic plane is escaped with. -/
def surrogates (n : Nat) : List Nat :=
  [0xd800 + (n - 0x10000) / 0x400, 0xdc00 + (n - 0x10000) % 0x400]

/-- The code units that a written character spells. -/
def charUnits (ascii : Bool) (c : Char) : List Nat :=
  if ascii && decide (0x10000 ≤ c.toNat) then surrogates c.toNat else [c.toNat]

theorem toNat_cases (c : Char) :
    c.toNat < 0xd800 ∨ 0xe000 ≤ c.toNat ∧ c.toNat < 0x110000 :=
  c.valid.imp id fun h => ⟨h.1, h.2⟩

theorem joinUnits_cons (c : Char) (units : List Nat) :
    joinUnits (c.toNat :: units) = c :: joinUnits units := by
  have hc := toNat_cases c
  cases units with
  | nil => exact congrArg (fun x => [x]) (Char.ofNat_toNat c)
  | cons u units => rw [joinUnits, if_neg (by omega), Char.ofNat_toNat]

private theorem joinUnits_surrogates {c : Char} (hc : 0x10000 ≤ c.toNat) (units : List Nat) :
    joinUnits (surrogates c.toNat ++ units) = c :: joinUnits units := by
  have hvalid := toNat_cases c
  have hvalue : 0x10000 + (0xd800 + (c.toNat - 0x10000) / 0x400 - 0xd800) * 0x400 +
      (0xdc00 + (c.toNat - 0x10000) % 0x400 - 0xdc00) = c.toNat := by omega
  rw [surrogates, List.cons_append, List.cons_append, List.nil_append, joinUnits, if_pos (by omega),
    hvalue, Char.ofNat_toNat]

private theorem joinUnits_charUnits (ascii : Bool) (c : Char) (units : List Nat) :
    joinUnits (charUnits ascii c ++ units) = c :: joinUnits units := by
  rw [charUnits]
  split
  · rename_i h
    exact joinUnits_surrogates (of_decide_eq_true (Bool.and_eq_true_iff.mp h).2) units
  · exact joinUnits_cons c units

theorem joinUnits_flatMap (ascii : Bool) (cs : List Char) :
    joinUnits (cs.flatMap (charUnits ascii)) = cs := by
  induction cs with
  | nil => rfl
  | cons c cs ih => rw [List.flatMap_cons, joinUnits_charUnits, ih]

theorem charUnits_of_lt (ascii : Bool) {c : Char} (h : c.toNat < 0x10000) :
    charUnits ascii c = [c.toNat] :=
  if_neg (by simp [Nat.not_le.mpr h])

/-! ## Escapes -/

private theorem hexValue?_digitChar : ∀ n < 16, hexValue? n.digitChar = some n := by
  decide

private theorem hexQuad?_hex {n : Nat} (hn : n < 0x10000) : ∃ a b c d, Text.hex 4 n = [a, b, c, d] ∧
    hexQuad? a b c d = some n := by
  refine ⟨(n / 16 / 16 / 16 % 16).digitChar, (n / 16 / 16 % 16).digitChar, (n / 16 % 16).digitChar,
    (n % 16).digitChar, rfl, ?_⟩
  have hdigit := fun m : Nat => hexValue?_digitChar (m % 16) (Nat.mod_lt m (by decide))
  have hvalue : ((n / 16 / 16 / 16 % 16 * 16 + n / 16 / 16 % 16) * 16 + n / 16 % 16) * 16 + n % 16 = n := by
    omega
  simp only [hexQuad?, hdigit, Option.bind_eq_bind, Option.bind_some]
  exact congrArg some hvalue

theorem spells_escape {n : Nat} (hn : n < 0x10000) (h : Spells w units) :
    Spells (escape n ++ w) (n :: units) := by
  obtain ⟨a, b, c, d, hhex, hquad⟩ := hexQuad?_hex hn
  rw [escape, hhex]
  exact .number hquad h

theorem spells_surrogates {c : Char} (hc : 0x10000 ≤ c.toNat) (h : Spells w units) :
    Spells (escape (0xd800 + (c.toNat - 0x10000) / 0x400) ++
      escape (0xdc00 + (c.toNat - 0x10000) % 0x400) ++ w) (surrogates c.toNat ++ units) := by
  have hvalid := toNat_cases c
  rw [List.append_assoc]
  exact spells_escape (by omega) (spells_escape (by omega) h)

theorem spells_letter (ascii : Bool) {c x : Char} (hx : unescape? x = some c) (hc : c.toNat < 0x10000)
    (h : Spells w units) : Spells ('\\' :: x :: w) (charUnits ascii c ++ units) := by
  rw [charUnits_of_lt ascii hc]
  exact .letter hx h

/-! ## Texts -/

theorem spells_writtenChar (ascii : Bool) (c : Char) (h : Spells w units) :
    Spells (writtenChar ascii c ++ w) (charUnits ascii c ++ units) := by
  fun_cases writtenChar ascii c with
  | case1 hc => rcases hc with rfl | rfl <;> exact spells_letter ascii rfl (by decide) h
  | case7 =>
      rw [charUnits_of_lt ascii (by omega)]
      exact spells_escape (by omega) h
  | case8 hmarks _ _ _ _ _ hprinted hplain =>
      obtain ⟨hquote, hslash⟩ := not_or.mp hmarks
      have hunits : charUnits ascii c = [c.toNat] := by
        cases ascii with
        | false => rfl
        | true => exact charUnits_of_lt true (Nat.lt_trans (of_decide_eq_true hplain) (by decide))
      rw [hunits]
      exact .plain hquote hslash (Nat.not_lt.mp hprinted) h
  | case9 =>
      rw [charUnits_of_lt ascii (by omega)]
      exact spells_escape (by omega) h
  | case10 _ _ _ _ _ _ _ hplain hlarge =>
      have hunits : charUnits ascii c = surrogates c.toNat := by
        cases ascii with
        | false => exact absurd rfl hplain
        | true => exact if_pos (decide_eq_true (Nat.not_lt.mp hlarge))
      rw [hunits]
      exact spells_surrogates (Nat.not_lt.mp hlarge) h
  | _ =>
      rename_i hc
      subst hc
      exact spells_letter ascii rfl (by decide) h

theorem spells_writtenText (ascii : Bool) (s : String) :
    Spells (s.toList.flatMap (writtenChar ascii) ++ ['"']) (s.toList.flatMap (charUnits ascii)) := by
  induction s.toList with
  | nil => exact .close
  | cons c cs ih =>
      rw [List.flatMap_cons, List.flatMap_cons, List.append_assoc]
      exact spells_writtenChar ascii c ih

/-- A written text is a token for the text that it was written for. -/
theorem spelled_writtenText (ascii : Bool) (s : String) : Spelled (writtenText ascii s) (.text s) := by
  have h := Starts.text (spells_writtenText ascii s) []
  rw [joinUnits_flatMap, String.ofList_toList, List.append_nil] at h
  exact ⟨_, _, rfl, h⟩

end ReviewDiagnostics.Proofs.WrittenText
