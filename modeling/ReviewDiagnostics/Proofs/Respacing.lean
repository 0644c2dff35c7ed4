import ReviewDiagnostics.Proofs.ReadBack

/-!
# Other white space

What a text is read as does not depend on how much white space stands between its tokens, and of which kind
it is.  Inside of quotes the end of a line is a fault, so that there it makes no difference either how it is
written, nor what stands behind it: such a text is not read at all.
-/

namespace ReviewDiagnostics

namespace Lexeme

def isLineEnd (c : Char) : Bool := c = '\n' || c = '\r'

/-- White space, and some of it. -/
def IsGap (g : List Char) : Prop := g ≠ [] ∧ ∀ c ∈ g, isSpace c = true

/-- Two texts that differ in the white space between tokens only, until the end of a line stands in quotes in
both of them; the texts start inside of quotes or outside. -/
inductive Respaced : Bool → List Char → List Char → Prop
  | done (quoted : Bool) : Respaced quoted [] []
  | gap {g g' t u : List Char} (hg : IsGap g) (hg' : IsGap g') (h : Respaced false t u) :
      Respaced false (g ++ t) (g' ++ u)
  | plain {c : Char} {t u : List Char} (hquote : c ≠ '"') (h : Respaced false t u) :
      Respaced false (c :: t) (c :: u)
  | opening {t u : List Char} (h : Respaced true t u) : Respaced false ('"' :: t) ('"' :: u)
  | closing {t u : List Char} (h : Respaced false t u) : Respaced true ('"' :: t) ('"' :: u)
  | inside {c : Char} {t u : List Char} (hquote : c ≠ '"') (hslash : c ≠ '\\') (h : Respaced true t u) :
      Respaced true (c :: t) (c :: u)
  | escape {c : Char} {t u : List Char} (h : Respaced true t u) :
      Respaced true ('\\' :: c :: t) ('\\' :: c :: u)
  | lone : Respaced true ['\\'] ['\\']
  | broken {c c' : Char} (hc : isLineEnd c = true) (hc' : isLineEnd c' = true) (t u : List Char) :
      Respaced true (c :: t) (c' :: u)
  | brokenEscape {c c' : Char} (hc : isLineEnd c = true) (hc' : isLineEnd c' = true) (t u : List Char) :
      Respaced true ('\\' :: c :: t) ('\\' :: c' :: u)

end Lexeme

namespace Proofs.Respacing

open CommentedText Lexeme ReadBack Reader Reading

variable {g t u w rest : List Char} {c : Char} {quoted : Bool} {s : State} {d : Document}

theorem respaced_symm (h : Respaced quoted t u) : Respaced quoted u t := by
  induction h with
  | done quoted => exact .done quoted
  | gap hg hg' _ ih => exact .gap hg' hg ih
  | plain hquote _ ih => exact .plain hquote ih
  | opening _ ih => exact .opening ih
  | closing _ ih => exact .closing ih
  | inside hquote hslash _ ih => exact .inside hquote hslash ih
  | escape _ ih => exact .escape ih
  | lone => exact .lone
  | broken hc hc' => exact .broken hc' hc _ _
  | brokenEscape hc hc' => exact .brokenEscape hc' hc _ _

/-! ## Quoted texts -/

theorem isLineEnd_eq_false_of_printed (h : 0x20 ≤ c.toNat) : isLineEnd c = false := by
  unfold isLineEnd
  rw [Bool.or_eq_false_iff, decide_eq_false_iff_not, decide_eq_false_iff_not]
  constructor <;> (rintro rfl; revert h; decide)

theorem isLineEnd_eq_false_of_hexValue {n : Nat} (h : hexValue? c = some n) : isLineEnd c = false := by
  unfold isLineEnd
  rw [Bool.or_eq_false_iff, decide_eq_false_iff_not, decide_eq_false_iff_not]
  constructor <;> (rintro rfl; cases h)

theorem isLineEnd_eq_false_of_unescape {e : Char} (h : unescape? c = some e) : isLineEnd c = false := by
  unfold isLineEnd
  rw [Bool.or_eq_false_iff, decide_eq_false_iff_not, decide_eq_false_iff_not]
  constructor <;> (rintro rfl; cases h)

theorem exists_of_inside (hw : ∀ c ∈ w, (c ≠ '"' ∧ c ≠ '\\') ∧ isLineEnd c = false)
    (h : Respaced true (w ++ t) u) : ∃ rest, u = w ++ rest ∧ Respaced true t rest := by
  induction w generalizing u with
  | nil => exact ⟨u, rfl, h⟩
  | cons c w ih =>
      obtain ⟨⟨⟨hquote, hslash⟩, hline⟩, hw⟩ := List.forall_mem_cons.mp hw
      rw [List.cons_append] at h
      generalize hct : c :: (w ++ t) = ct at h
      cases h with
      | done => cases hct
      | closing => exact absurd (List.cons.inj hct).1 hquote
      | inside _ _ hbehind =>
          obtain ⟨rfl, rfl⟩ := List.cons.inj hct
          obtain ⟨rest, heq, hrest⟩ := ih hw hbehind
          exact ⟨rest, congrArg (c :: ·) heq, hrest⟩
      | escape | lone | brokenEscape => exact absurd (List.cons.inj hct).1 hslash
      | broken hc =>
          rw [← (List.cons.inj hct).1, hline] at hc
          cases hc

theorem exists_of_escape (h : Respaced true ('\\' :: c :: t) u) (hline : isLineEnd c = false) :
    ∃ rest, u = '\\' :: c :: rest ∧ Respaced true t rest := by
  cases h with
  | inside _ hslash => exact absurd rfl hslash
  | escape h => exact ⟨_, rfl, h⟩
  | broken hc => cases hc
  | brokenEscape hc => exact absurd hc (by rw [hline]; decide)

theorem exists_of_spells {units : List Nat} (hw : Spells w units) (h : Respaced true (w ++ t) u) :
    ∃ rest, u = w ++ rest ∧ Respaced false t rest := by
  induction hw generalizing u with
  | close =>
      cases h with
      | closing h => exact ⟨_, rfl, h⟩
      | inside hquote => exact absurd rfl hquote
      | broken hc => cases hc
  | @number a b c d n w units hn hw ih =>
      have hdigits : ∀ x ∈ [a, b, c, d], (x ≠ '"' ∧ x ≠ '\\') ∧ isLineEnd x = false := by
        intro x hx
        obtain ⟨m, hm⟩ := exists_hexValue hn x hx
        exact ⟨hexValue_ne hm, isLineEnd_eq_false_of_hexValue hm⟩
      obtain ⟨u₁, rfl, hquad⟩ := exists_of_escape h (by decide)
      obtain ⟨u₂, rfl, hbehind⟩ := @exists_of_inside (w ++ t) u₁ [a, b, c, d] hdigits hquad
      obtain ⟨rest, rfl, hrest⟩ := ih hbehind
      exact ⟨rest, rfl, hrest⟩
  | @letter c e w units he hw ih =>
      obtain ⟨u₁, rfl, hbehind⟩ := exists_of_escape h (isLineEnd_eq_false_of_unescape he)
      obtain ⟨rest, rfl, hrest⟩ := ih hbehind
      exact ⟨rest, rfl, hrest⟩
  | @plain c w units hquote hslash hprinted hw ih =>
      have hc : ∀ x ∈ [c], (x ≠ '"' ∧ x ≠ '\\') ∧ isLineEnd x = false := by
        simp [hquote, hslash, isLineEnd_eq_false_of_printed hprinted]
      obtain ⟨u₁, rfl, hbehind⟩ := @exists_of_inside (w ++ t) u [c] hc h
      obtain ⟨rest, rfl, hrest⟩ := ih hbehind
      exact ⟨rest, rfl, hrest⟩

/-! ## Tokens outside of quotes -/

private theorem isSpace_cases (h : isSpace c = true) : c = ' ' ∨ c = '\t' ∨ c = '\n' ∨ c = '\r' := by
  simpa [isSpace, or_assoc] using h

private theorem not_isSpace_of_numeric (h : isNumeric c = true) : isSpace c = false := by
  rw [Bool.eq_false_iff]
  intro hspace
  rcases isSpace_cases hspace with rfl | rfl | rfl | rfl <;> cases h

theorem not_isSpace_of_starts {lexeme : Lexeme} (h : Starts c (w ++ rest) lexeme (w.length + 1))
    (hquote : c ≠ '"') : ∀ x ∈ c :: w, isSpace x = false :=
  forall_of_starts (by simp [marks, isSpace]) (by simp [words, isSpace])
    (fun _ => not_isSpace_of_numeric) h hquote

theorem exists_of_cons (hspace : isSpace c = false) (h : Respaced false (c :: t) u) :
    ∃ rest, u = c :: rest ∧ Respaced (c = '"') t rest := by
  generalize hct : c :: t = ct at h
  cases h with
  | done => cases hct
  | gap hg =>
      obtain ⟨x, g, rfl⟩ := List.exists_cons_of_ne_nil hg.1
      obtain ⟨rfl, -⟩ := List.cons.inj hct
      exact absurd (hg.2 c List.mem_cons_self) (by rw [hspace]; decide)
  | plain hquote h =>
      obtain ⟨rfl, rfl⟩ := List.cons.inj hct
      exact ⟨_, rfl, by rwa [decide_eq_false hquote]⟩
  | opening h =>
      obtain ⟨rfl, rfl⟩ := List.cons.inj hct
      exact ⟨_, rfl, h⟩

private theorem exists_of_plain (hw : ∀ c ∈ w, c ≠ '"' ∧ isSpace c = false) (h : Respaced false (w ++ t) u) :
    ∃ rest, u = w ++ rest ∧ Respaced false t rest := by
  induction w generalizing u with
  | nil => exact ⟨u, rfl, h⟩
  | cons c w ih =>
      obtain ⟨⟨hquote, hspace⟩, hw⟩ := List.forall_mem_cons.mp hw
      obtain ⟨u, rfl, hbehind⟩ := exists_of_cons hspace h
      rw [decide_eq_false hquote] at hbehind
      obtain ⟨rest, rfl, hrest⟩ := ih hw hbehind
      exact ⟨rest, rfl, hrest⟩

theorem exists_of_starts {lexeme : Lexeme} (h : Starts c (w ++ t) lexeme (w.length + 1))
    (hu : Respaced false (c :: (w ++ t)) u) : ∃ rest, u = c :: (w ++ rest) ∧ Respaced false t rest := by
  by_cases hquote : c = '"'
  · subst hquote
    obtain ⟨u, rfl, hquoted⟩ := exists_of_cons rfl hu
    generalize hcs : w ++ t = cs at h
    generalize hcount : w.length + 1 = count at h
    cases h with
    | text hw =>
        obtain ⟨rfl, rfl⟩ := List.append_inj hcs (Nat.succ_inj.mp hcount)
        obtain ⟨rest, rfl, hrest⟩ := exists_of_spells hw hquoted
        exact ⟨rest, rfl, hrest⟩
    | mark h => simp [marks] at h
    | word h => simp [words] at h
    | number hc => cases hc
  · have hplain : ∀ x ∈ c :: w, x ≠ '"' ∧ isSpace x = false := fun x hx =>
      ⟨(plain_of_starts h hquote x hx).1, not_isSpace_of_starts h hquote x hx⟩
    exact exists_of_plain hplain hu

/-! ## Reading -/

theorem closes_of_respaced (h : Respaced false t u) (ht : Closes t) : Closes u := by
  cases h with
  | done => exact ht
  | gap hg hg' =>
      obtain ⟨c, g', rfl⟩ := List.exists_cons_of_ne_nil hg'.1
      rintro _ ⟨⟩
      simp [isClosing, hg'.2 c List.mem_cons_self]
  | plain | opening =>
      rintro _ ⟨⟩
      exact ht _ rfl

private theorem eq_nil_of_respaced (h : Respaced false [] u) : u = [] := by
  generalize ht : [] = t at h
  cases h with
  | done => rfl
  | gap hg => exact absurd (List.append_eq_nil_iff.mp ht.symm).1 hg.1
  | plain | opening => cases ht

/-- Texts that differ in white space are read alike. -/
theorem reads_of_respaced (ht : Reads s t d) (h : Respaced false t u) : Reads s u d := by
  induction ht generalizing u with
  | finish hfinish =>
      rw [eq_nil_of_respaced h]
      exact .finish hfinish
  | @space s c t d hc ht ih =>
      generalize hct : c :: t = ct at h
      cases h with
      | done => cases hct
      | @gap g g' t' u' hg hg' h =>
          obtain ⟨x, g, rfl⟩ := List.exists_cons_of_ne_nil hg.1
          obtain ⟨rfl, rfl⟩ := List.cons.inj hct
          by_cases hmore : g = []
          · subst hmore
            exact CommentedText.reads_gap hg'.2 (ih h)
          · exact ih (.gap ⟨hmore, fun x hx => hg.2 x (List.mem_cons_of_mem _ hx)⟩ hg' h)
      | plain _ h =>
          obtain ⟨rfl, rfl⟩ := List.cons.inj hct
          exact .space hc (ih h)
      | opening =>
          obtain ⟨rfl, -⟩ := List.cons.inj hct
          cases hc
  | @token s next c t lexeme count d hstart hstep ht ih =>
      obtain ⟨w, rest, rfl, rfl⟩ := split_of_starts hstart
      obtain ⟨rest', rfl, hrest⟩ := exists_of_starts hstart h
      rw [Nat.add_sub_cancel, List.drop_left' rfl] at ht ih
      refine .token (starts_append hstart _ ?_) hstep ?_
      · rintro d rfl
        have hclose := closes_of_reads (awaiting_of_scalar hstep) ht
        exact ⟨hclose, closes_of_respaced hrest hclose⟩
      · rw [Nat.add_sub_cancel, List.drop_left' rfl]
        exact ih hrest

theorem reads_iff_of_respaced (h : Respaced false t u) : Reads s t d ↔ Reads s u d :=
  ⟨fun ht => reads_of_respaced ht h, fun hu => reads_of_respaced hu (respaced_symm h)⟩

end Proofs.Respacing

end ReviewDiagnostics
