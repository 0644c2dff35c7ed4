import ReviewDiagnostics.Proofs.CommentedText

/-!
# Blanked texts

Every text, whether it is a document or not, is cut into quoted texts, comments and other characters in one
way.  Blanking goes from one stretch to the next: it turns comments into white space of the same length and
the same lines, and leaves all else as it is.  What it gives has no comments, so that nothing is left to blank.
-/

namespace ReviewDiagnostics

namespace Comments

/-- A stretch of a text, with its marks. -/
inductive Stretch where
  /-- A character outside of quotes and comments. -/
  | plain (c : Char)
  | quoted (w : List Char)
  | line (w : List Char)
  | block (w : List Char)

namespace Stretch

def text : Stretch → List Char
  | plain c => [c]
  | quoted w | line w | block w => w

/-- What becomes of a character of a stretch. -/
def shade : Stretch → Char → Char
  | plain _, c | quoted _, c => c
  | line _, c | block _, c => if c = '\n' then c else ' '

/-- What blanking makes of a stretch. -/
def blanked (s : Stretch) : List Char := s.text.map s.shade

/-- The stretches of a blanked stretch. -/
def settled : Stretch → List Stretch
  | plain c => [plain c]
  | quoted w => [quoted w]
  | line w | block w => (gap w).map plain

end Stretch

/-- The characters of a quoted text behind its opening quote, and whether it is closed.  A quote and a
backslash are part of it behind a backslash. -/
inductive Quotes : List Char → Bool → Prop
  | close : Quotes ['"'] true
  | ends : Quotes [] false
  | lone : Quotes ['\\'] false
  | escape {c : Char} {w : List Char} {closed : Bool} (h : Quotes w closed) : Quotes ('\\' :: c :: w) closed
  | plain {c : Char} {w : List Char} {closed : Bool} (hquote : c ≠ '"') (hslash : c ≠ '\\')
      (h : Quotes w closed) : Quotes (c :: w) closed

/-- A stretch ends where the rest of a text begins.  A line comment ends before the end of its line, a block
with the first mark that closes it; quotes and blocks that are not closed go on to the end of the text. -/
inductive Stretch.Fits : Stretch → List Char → Prop
  | plain {c : Char} {t : List Char} (hquote : c ≠ '"')
      (hmark : c = '/' → t.head? ≠ some '/' ∧ t.head? ≠ some '*') : Fits (.plain c) t
  | quoted {w t : List Char} {closed : Bool} (hw : Quotes w closed) (hend : closed = false → t = []) :
      Fits (.quoted ('"' :: w)) t
  | line {w t : List Char} (hw : '\n' ∉ w) (hend : ∀ c, t.head? = some c → c = '\n') :
      Fits (.line ('/' :: '/' :: w)) t
  | block {w : List Char} (hw : ¬ ['*', '/'] <:+: w) (t : List Char) :
      Fits (.block ('/' :: '*' :: (w ++ ['*', '/']))) t
  | openBlock {w : List Char} (hw : ¬ ['*', '/'] <:+: w) : Fits (.block ('/' :: '*' :: w)) []

/-- The stretches that a text consists of. -/
inductive Cuts : List Char → List Stretch → Prop
  | done : Cuts [] []
  | next {s : Stretch} {t : List Char} {ss : List Stretch} (hs : s.Fits t) (h : Cuts t ss) :
      Cuts (s.text ++ t) (s :: ss)

/-- A character of a text stands in quotes, or is one of them. -/
def InQuotes (t : List Char) (i : Nat) : Prop :=
  ∃ before w after, Cuts t (before ++ .quoted w :: after) ∧
    (before.flatMap Stretch.text).length ≤ i ∧ i < (before.flatMap Stretch.text).length + w.length

end Comments

namespace Proofs.BlankedText

open Comments CommentedText

variable {t t' u w w' : List Char} {s s' : Stretch} {ss ss' : List Stretch} {closed closed' : Bool}
  {c x : Char} {i : Nat}

/-! ## Every text is cut into stretches -/

theorem exists_quotes (t : List Char) :
    ∃ w rest closed, t = w ++ rest ∧ Quotes w closed ∧ (closed = false → rest = []) := by
  match t with
  | [] => exact ⟨[], [], false, rfl, .ends, fun _ => rfl⟩
  | c :: t =>
      by_cases hquote : c = '"'
      · subst hquote
        exact ⟨['"'], t, true, rfl, .close, Bool.noConfusion⟩
      · by_cases hslash : c = '\\'
        · subst hslash
          match t with
          | [] => exact ⟨['\\'], [], false, rfl, .lone, fun _ => rfl⟩
          | x :: t =>
              obtain ⟨w, rest, closed, rfl, hw, hend⟩ := exists_quotes t
              exact ⟨'\\' :: x :: w, rest, closed, rfl, .escape hw, hend⟩
        · obtain ⟨w, rest, closed, rfl, hw, hend⟩ := exists_quotes t
          exact ⟨c :: w, rest, closed, rfl, .plain hquote hslash hw, hend⟩

theorem exists_line (t : List Char) :
    ∃ w rest, t = w ++ rest ∧ '\n' ∉ w ∧ ∀ c, rest.head? = some c → c = '\n' := by
  induction t with
  | nil => exact ⟨[], [], rfl, by simp, by simp⟩
  | cons c t ih =>
      by_cases hc : c = '\n'
      · exact ⟨[], c :: t, rfl, by simp, fun x hx => by rw [← Option.some.inj hx, hc]⟩
      · obtain ⟨w, rest, rfl, hw, hend⟩ := ih
        exact ⟨c :: w, rest, rfl, by simp [hw, Ne.symm hc], hend⟩

private theorem closed_or_open (t : List Char) :
    (∃ w rest, t = w ++ '*' :: '/' :: rest ∧ ¬ ['*', '/'] <:+: w) ∨ ¬ ['*', '/'] <:+: t := by
  induction t with
  | nil => exact .inr (by simp)
  | cons c t ih =>
      by_cases hclose : ['*', '/'] <+: c :: t
      · obtain ⟨rest, hrest⟩ := hclose
        exact .inl ⟨[], rest, hrest.symm, by simp⟩
      · rcases ih with ⟨w, rest, rfl, hw⟩ | hopen
        · refine .inl ⟨c :: w, rest, rfl, ?_⟩
          rw [List.infix_cons_iff, not_or]
          exact ⟨fun h => hclose (h.trans (List.prefix_append (c :: w) _)), hw⟩
        · rw [List.infix_cons_iff]
          exact .inr (not_or.mpr ⟨hclose, hopen⟩)

theorem exists_cuts (t : List Char) : ∃ ss, Cuts t ss := by
  match t with
  | [] => exact ⟨[], .done⟩
  | c :: t =>
      by_cases hquote : c = '"'
      · subst hquote
        obtain ⟨w, rest, closed, rfl, hw, hend⟩ := exists_quotes t
        obtain ⟨ss, hss⟩ := exists_cuts rest
        exact ⟨_, .next (.quoted hw hend) hss⟩
      · by_cases hline : c = '/' ∧ t.head? = some '/'
        · obtain ⟨rfl, hhead⟩ := hline
          obtain ⟨t, rfl⟩ := List.head?_eq_some_iff.mp hhead
          obtain ⟨w, rest, rfl, hw, hend⟩ := exists_line t
          obtain ⟨ss, hss⟩ := exists_cuts rest
          exact ⟨_, .next (.line hw hend) hss⟩
        · by_cases hblock : c = '/' ∧ t.head? = some '*'
          · obtain ⟨rfl, hhead⟩ := hblock
            obtain ⟨t, rfl⟩ := List.head?_eq_some_iff.mp hhead
            rcases closed_or_open t with ⟨w, rest, rfl, hw⟩ | hopen
            · obtain ⟨ss, hss⟩ := exists_cuts rest
              have hcuts := Cuts.next (.block hw rest) hss
              simp only [Stretch.text, List.cons_append, List.append_assoc, List.nil_append] at hcuts
              exact ⟨_, hcuts⟩
            · have hcuts := Cuts.next (.openBlock hopen) .done
              rw [List.append_nil] at hcuts
              exact ⟨_, hcuts⟩
          · obtain ⟨ss, hss⟩ := exists_cuts t
            exact ⟨_, .next (.plain hquote fun hc => ⟨fun h => hline ⟨hc, h⟩, fun h => hblock ⟨hc, h⟩⟩) hss⟩
termination_by t.length
decreasing_by all_goals simp_all <;> omega

/-! ## There is one way to cut -/

theorem quotes_unique (h : Quotes w closed) (h' : Quotes w' closed') (hend : closed = false → t = [])
    (hend' : closed' = false → t' = []) (heq : w ++ t = w' ++ t') : w = w' := by
  induction h generalizing w' with
  | close =>
      cases h' with
      | close => rfl
      | ends | lone =>
          rw [hend' rfl] at heq
          cases heq
      | escape => cases heq
      | plain hquote => exact absurd (List.cons.inj heq).1.symm hquote
  | ends =>
      rw [hend rfl] at heq
      exact (List.append_eq_nil_iff.mp heq.symm).1.symm
  | lone =>
      rw [hend rfl] at heq
      cases h' with
      | lone => rfl
      | ends =>
          rw [hend' rfl] at heq
          cases heq
      | plain _ hslash => exact absurd (List.cons.inj heq).1.symm hslash
      | _ => cases heq
  | @escape c w closed h ih =>
      cases h' with
      | escape h' =>
          simp only [List.cons_append, List.cons.injEq, true_and] at heq
          rw [heq.1, ih h' hend heq.2]
      | ends | lone =>
          rw [hend' rfl] at heq
          cases heq
      | close => cases heq
      | plain _ hslash => exact absurd (List.cons.inj heq).1.symm hslash
  | @plain c w closed hquote hslash h ih =>
      cases h' with
      | plain _ _ h' =>
          simp only [List.cons_append, List.cons.injEq] at heq
          rw [heq.1, ih h' hend heq.2]
      | ends =>
          rw [hend' rfl] at heq
          cases heq
      | close => exact absurd (List.cons.inj heq).1 hquote
      | lone | escape => exact absurd (List.cons.inj heq).1 hslash

theorem line_unique (hw : '\n' ∉ w) (hw' : '\n' ∉ w') (hend : ∀ c, t.head? = some c → c = '\n')
    (hend' : ∀ c, t'.head? = some c → c = '\n') (heq : w ++ t = w' ++ t') : w = w' := by
  have hline : ∀ {w t : List Char}, '\n' ∉ w → (∀ c, t.head? = some c → c = '\n') →
      (w ++ t).takeWhile (· ≠ '\n') = w := by
    intro w t hw hend
    have hrest : t.takeWhile (fun c => decide (c ≠ '\n')) = [] := by
      cases t with
      | nil => rfl
      | cons c t => simp [hend c rfl]
    rw [List.takeWhile_append_of_pos, hrest, List.append_nil]
    intro c hc
    simpa using fun heq : c = '\n' => hw (heq ▸ hc)
  rw [← hline hw hend, heq, hline hw' hend']

theorem block_unique (hw' : ¬ ['*', '/'] <:+: w') (heq : w ++ '*' :: '/' :: t = w' ++ '*' :: '/' :: t')
    (hle : w.length ≤ w'.length) : w = w' := by
  obtain ⟨a, rfl⟩ : w <+: w' := List.prefix_of_prefix_length_le ⟨_, heq⟩ ⟨_, rfl⟩ hle
  rw [List.append_assoc, List.append_cancel_left_eq] at heq
  match a with
  | [] => rw [List.append_nil]
  | [x] => cases heq
  | x :: y :: a =>
      simp only [List.cons_append, List.cons.injEq] at heq
      obtain ⟨rfl, rfl, -⟩ := heq
      exact absurd ⟨w, a, by simp⟩ hw'

theorem not_infix_of_open (hw' : ¬ ['*', '/'] <:+: w') : w ++ '*' :: '/' :: t ≠ w' := by
  rintro rfl
  exact hw' ⟨w, t, by simp⟩

theorem eq_plain (hquote : c ≠ '"') (hmark : c = '/' → t.head? ≠ some '/' ∧ t.head? ≠ some '*')
    (h : s.Fits t') (heq : c :: t = s.text ++ t') : s = .plain c := by
  cases h with
  | plain => rw [(List.cons.inj heq).1]
  | quoted => exact absurd (List.cons.inj heq).1 hquote
  | line | block | openBlock =>
      simp only [Stretch.text, List.cons_append, List.cons.injEq] at heq
      obtain ⟨rfl, rfl⟩ := heq
      simp at hmark

private theorem fits_unique (h : s.Fits t) (h' : s'.Fits t') (heq : s.text ++ t = s'.text ++ t') :
    s = s' := by
  -- The first two characters tell the kind of a stretch, and the kind tells where it ends.
  cases h' with
  | plain hquote hmark => exact eq_plain hquote hmark h heq.symm
  | quoted hw' hend' =>
      cases h with
      | plain hquote hmark => exact (eq_plain hquote hmark (.quoted hw' hend') heq).symm
      | quoted hw hend =>
          simp only [Stretch.text, List.cons_append, List.cons.injEq, true_and] at heq
          rw [quotes_unique hw hw' hend hend' heq]
      | line | block | openBlock => simp [Stretch.text] at heq
  | line hw' hend' =>
      cases h with
      | plain hquote hmark => exact (eq_plain hquote hmark (.line hw' hend') heq).symm
      | line hw hend =>
          simp only [Stretch.text, List.cons_append, List.cons.injEq, true_and] at heq
          rw [line_unique hw hw' hend hend' heq]
      | quoted | block | openBlock => simp [Stretch.text] at heq
  | @block w' hw' =>
      cases h with
      | plain hquote hmark => exact (eq_plain hquote hmark (.block hw' t') heq).symm
      | @block w hw =>
          simp only [Stretch.text, List.cons_append, List.append_assoc, List.nil_append, List.cons.injEq,
            true_and] at heq
          rcases Nat.le_total w.length w'.length with hle | hle
          · rw [block_unique hw' heq hle]
          · rw [block_unique hw heq.symm hle]
      | openBlock hw =>
          simp only [Stretch.text, List.cons_append, List.append_assoc, List.nil_append, List.cons.injEq,
            true_and, List.append_nil] at heq
          exact absurd heq.symm (not_infix_of_open hw)
      | quoted | line => simp [Stretch.text] at heq
  | openBlock hw' =>
      cases h with
      | plain hquote hmark => exact (eq_plain hquote hmark (.openBlock hw') heq).symm
      | block _ =>
          simp only [Stretch.text, List.cons_append, List.append_assoc, List.nil_append, List.cons.injEq,
            true_and, List.append_nil] at heq
          exact absurd heq (not_infix_of_open hw')
      | openBlock =>
          simp only [Stretch.text, List.append_nil] at heq
          rw [heq]
      | quoted | line => simp [Stretch.text] at heq

theorem cuts_unique (h : Cuts t ss) (h' : Cuts t ss') : ss = ss' := by
  induction h generalizing ss' with
  | done =>
      generalize ht : [] = t at h'
      cases h' with
      | done => rfl
      | next hs h' => cases hs <;> cases ht
  | @next s t ss hs h ih =>
      generalize ht : s.text ++ t = u at h'
      cases h' with
      | done => cases hs <;> cases ht
      | @next s' t' ss' hs' h' =>
          obtain rfl := fits_unique hs hs' ht
          obtain rfl := List.append_cancel_left ht
          rw [ih h']

theorem text_of_cuts (h : Cuts t ss) : ss.flatMap Stretch.text = t := by
  induction h with
  | done => rfl
  | next _ _ ih => rw [List.flatMap_cons, ih]

/-! ## Blanking goes from one stretch to the next -/

theorem blank_quotes (h : Quotes w closed) (hend : closed = false → t = []) :
    blankFrom .quoted (w ++ t) = w ++ blankFrom .outside t := by
  induction h with
  | close => rfl
  | ends | lone =>
      obtain rfl := hend rfl
      rfl
  | @escape c w closed h ih => exact congrArg ('\\' :: c :: ·) (ih hend)
  | @plain c w closed hquote hslash h ih =>
      rw [List.cons_append, blankFrom, if_neg hslash, if_neg hquote, ih hend]
      rfl

theorem blanked_quoted (w : List Char) : (Stretch.quoted w).blanked = w :=
  List.map_id' w

/-- Blanking is at the end of a stretch where the stretch ends. -/
theorem blank_stretch (h : s.Fits t) : blankFrom .outside (s.text ++ t) = s.blanked ++ blankFrom .outside t := by
  cases h with
  | @plain c _ hquote hmark =>
      change blankFrom .outside (c :: t) = c :: blankFrom .outside t
      rw [blankFrom, if_neg hquote, if_neg fun hline => (hmark hline.1).1 hline.2,
        if_neg fun hblock => (hmark hblock.1).2 hblock.2]
  | @quoted w _ closed hw hend =>
      rw [blanked_quoted]
      exact congrArg ('"' :: ·) (blank_quotes hw hend)
  | @line w _ hw hend =>
      have hline : blankFrom .line (w ++ t) = gap w ++ blankFrom .outside t := blank_line hw hend
      simp only [Stretch.text, List.cons_append, blankFrom, hline]
      rfl
  | @block w hw =>
      have hblock : blankFrom .block (w ++ '*' :: '/' :: t) =
          gap w ++ ' ' :: ' ' :: blankFrom .outside t := blank_block hw (by simp)
      simp only [Stretch.text, List.cons_append, List.append_assoc, List.nil_append, blankFrom, hblock]
      simp [Stretch.blanked, Stretch.text, Stretch.shade, gap]
  | @openBlock w hw =>
      have hblock : blankFrom .block (w ++ []) = gap w ++ [] := blank_block hw (by simp)
      simp only [Stretch.text, List.cons_append, blankFrom, hblock]
      rfl

theorem blank_of_cuts (h : Cuts t ss) : blank t = ss.flatMap Stretch.blanked := by
  unfold blank
  induction h with
  | done => rfl
  | next hs h ih => rw [blank_stretch hs, ih, List.flatMap_cons]

/-! ## What becomes of a character -/

/-- A character stays as it is, or becomes a space; the end of a line stays. -/
def Stays (c x : Char) : Prop := x = c ∨ (x = ' ' ∧ c ≠ '\n')

theorem stays_shade (s : Stretch) (c : Char) : Stays c (s.shade c) := by
  cases s with
  | plain | quoted => exact .inl rfl
  | line | block =>
      by_cases hc : c = '\n'
      · exact .inl (if_pos hc)
      · exact .inr ⟨if_neg hc, hc⟩

/-- The characters of stretches, each with what becomes of it. -/
def shades (ss : List Stretch) : List (Char × Char) :=
  ss.flatMap fun s => s.text.map fun c => (c, s.shade c)

theorem map_fst_shades (ss : List Stretch) : (shades ss).map (·.1) = ss.flatMap Stretch.text := by
  simp [shades, List.map_flatMap, Function.comp_def]

theorem map_snd_shades (ss : List Stretch) : (shades ss).map (·.2) = ss.flatMap Stretch.blanked := by
  simp [shades, List.map_flatMap, Function.comp_def]
  rfl

private theorem stays_of_mem_shades {p : Char × Char} (h : p ∈ shades ss) : Stays p.1 p.2 := by
  obtain ⟨s, -, hp⟩ := List.mem_flatMap.mp h
  obtain ⟨c, -, rfl⟩ := List.mem_map.mp hp
  exact stays_shade s c

theorem exists_blank_getElem? (h : t[i]? = some c) : ∃ x, (blank t)[i]? = some x ∧ Stays c x := by
  obtain ⟨ss, hss⟩ := exists_cuts t
  rw [← text_of_cuts hss, ← map_fst_shades, List.getElem?_map] at h
  obtain ⟨p, hp, rfl⟩ := Option.map_eq_some_iff.mp h
  refine ⟨p.2, ?_, stays_of_mem_shades (List.mem_of_getElem? hp)⟩
  rw [blank_of_cuts hss, ← map_snd_shades, List.getElem?_map, hp]
  rfl

private theorem length_flatMap_blanked (ss : List Stretch) :
    (ss.flatMap Stretch.blanked).length = (ss.flatMap Stretch.text).length := by
  rw [← map_fst_shades, ← map_snd_shades, List.length_map, List.length_map]

theorem blank_getElem?_of_inQuotes (h : InQuotes t i) : (blank t)[i]? = t[i]? := by
  obtain ⟨before, w, after, hcuts, hlow, hhigh⟩ := h
  have hlength := length_flatMap_blanked before
  calc (blank t)[i]? = w[i - (before.flatMap Stretch.text).length]? := by
        rw [blank_of_cuts hcuts, List.flatMap_append, List.flatMap_cons, blanked_quoted,
          List.getElem?_append_right (by omega), hlength, List.getElem?_append_left (by omega)]
    _ = t[i]? := by
        rw [← text_of_cuts hcuts, List.flatMap_append, List.flatMap_cons, Stretch.text,
          List.getElem?_append_right hlow, List.getElem?_append_left (by omega)]

/-! ## Blanking again -/

theorem cuts_cons (hquote : c ≠ '"') (hmark : c = '/' → t.head? ≠ some '/' ∧ t.head? ≠ some '*')
    (h : Cuts t ss) : Cuts (c :: t) (.plain c :: ss) :=
  .next (.plain hquote hmark) h

theorem cuts_gap (w : List Char) (h : Cuts t ss) : Cuts (gap w ++ t) ((gap w).map .plain ++ ss) := by
  unfold gap
  induction w with
  | nil => exact h
  | cons c w ih =>
      rw [List.map_cons]
      by_cases hc : c = '\n'
      · rw [if_pos hc]
        exact cuts_cons (by simp [hc]) (by simp [hc]) ih
      · rw [if_neg hc]
        exact cuts_cons (by decide) (by simp) ih

theorem blank_head?_ne (hc : c ≠ ' ') (h : t.head? ≠ some c) : (blank t).head? ≠ some c := by
  intro hhead
  cases t with
  | nil => cases hhead
  | cons y t =>
      rw [List.head?_eq_getElem?] at hhead
      obtain ⟨x, hx, hstays⟩ := @exists_blank_getElem? (y :: t) y 0 rfl
      obtain rfl := Option.some.inj (hhead.symm.trans hx)
      rcases hstays with rfl | ⟨rfl, -⟩
      · exact h rfl
      · exact hc rfl

theorem cuts_blank (h : Cuts t ss) : Cuts (blank t) (ss.flatMap Stretch.settled) := by
  induction h with
  | done => exact .done
  | @next s t ss hs h ih =>
      have hblank : blank (s.text ++ t) = s.blanked ++ blank t := blank_stretch hs
      rw [hblank, List.flatMap_cons]
      cases hs with
      | @plain c _ hquote hmark =>
          refine .next (.plain hquote fun hc => ⟨?_, ?_⟩) ih
          · exact blank_head?_ne (by decide) (hmark hc).1
          · exact blank_head?_ne (by decide) (hmark hc).2
      | quoted hw hend =>
          rw [blanked_quoted]
          exact .next (.quoted hw fun hopen => by rw [hend hopen]; rfl) ih
      | line | block | openBlock => exact cuts_gap _ ih

private theorem blanked_settled (s : Stretch) : s.settled.flatMap Stretch.blanked = s.blanked := by
  cases s with
  | plain | quoted => rw [Stretch.settled, List.flatMap_singleton]
  | line w | block w =>
      rw [Stretch.settled, List.flatMap_map]
      exact List.flatMap_singleton' _

/-- **Blanking keeps every position, and is done in one go.**  A text is cut into stretches in one way, and
blanking goes from one to the next.  It gives a text of the same length with the ends of lines at the same
places, each character is the one that was there or a space, those in quotes are what they were, and nothing
is left to blank. -/
theorem blanking_keeps_positions (t : List Char) :
    (∃ ss, Cuts t ss ∧ (∀ ss', Cuts t ss' → ss' = ss) ∧ blank t = ss.flatMap Stretch.blanked) ∧
      (blank t).length = t.length ∧
      (∀ (i : Nat) (c : Char), t[i]? = some c →
        ∃ x, (blank t)[i]? = some x ∧ (x = c ∨ x = ' ') ∧ (x = '\n' ↔ c = '\n')) ∧
      (∀ i, InQuotes t i → (blank t)[i]? = t[i]?) ∧
      blank (blank t) = blank t := by
  obtain ⟨ss, hss⟩ := exists_cuts t
  refine ⟨⟨ss, hss, fun ss' h => cuts_unique h hss, blank_of_cuts hss⟩, length_blankFrom _ t,
    fun i c hc => ?_, fun i => blank_getElem?_of_inQuotes, ?_⟩
  · obtain ⟨x, hx, rfl | ⟨rfl, hline⟩⟩ := exists_blank_getElem? hc
    · exact ⟨x, hx, .inl rfl, Iff.rfl⟩
    · exact ⟨' ', hx, .inr rfl, by simp [hline]⟩
  · rw [blank_of_cuts (cuts_blank hss), blank_of_cuts hss, List.flatMap_assoc]
    simp only [blanked_settled]

/-- Slashes behind a quote, and a block that is not closed. -/
theorem blanking_keeps_slashes_in_quotes :
    let t := "\"//\\\"\"/*\n\"".toList
    InQuotes t 1 ∧ (blank t)[1]? = some '/' ∧ blank t = "\"//\\\"\"  \n ".toList ∧
      blank (blank t) = blank t := by
  intro t
  have hquotes : Quotes "//\\\"\"".toList true :=
    .plain (by decide) (by decide) (.plain (by decide) (by decide) (.escape .close))
  have hblock : ¬ ['*', '/'] <:+: ['\n', '"'] := by decide
  have hcuts : Cuts t [.quoted "\"//\\\"\"".toList, .block "/*\n\"".toList] :=
    .next (.quoted hquotes (by decide)) (.next (.openBlock hblock) .done)
  have hin : InQuotes t 1 := ⟨[], _, _, hcuts, Nat.zero_le _, by decide⟩
  obtain ⟨-, -, -, hkept, hagain⟩ := blanking_keeps_positions t
  exact ⟨hin, (hkept 1 hin).trans rfl, rfl, hagain⟩

end Proofs.BlankedText

end ReviewDiagnostics
