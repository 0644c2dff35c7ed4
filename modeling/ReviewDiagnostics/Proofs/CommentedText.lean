import ReviewDiagnostics.Proofs.Reading

/-!
# Comments between tokens

A document does not change when comments are put between its tokens.  A comment is blanked to white space,
and the blanker is in step with the reader: every token leaves it outside of texts and comments.
-/

namespace ReviewDiagnostics

namespace Comments

/-- A complete comment: two slashes up to the end of the line, which belongs to it, or a block with
its marks. -/
inductive IsComment : List Char → Prop
  | line {body : List Char} (h : '\n' ∉ body) : IsComment ('/' :: '/' :: (body ++ ['\n']))
  | block {body : List Char} (h : ¬ ['*', '/'] <:+: body) :
      IsComment ('/' :: '*' :: (body ++ ['*', '/']))

/-- The second text is the first one with any number of comments between its tokens. -/
inductive Commented : List Char → List Char → Prop
  | done : Commented [] []
  | space {c : Char} {t u : List Char} (hc : Lexeme.isSpace c = true) (h : Commented t u) :
      Commented (c :: t) (c :: u)
  | token {c : Char} {t u : List Char} {lexeme : Lexeme} {count : Nat} (hc : Lexeme.isSpace c = false)
      (hscan : Lexeme.scan 0 c t = (lexeme, count)) (h : Commented (t.drop (count - 1)) u) :
      Commented (c :: t) (c :: (t.take (count - 1) ++ u))
  | comment {piece t u : List Char} (hpiece : IsComment piece) (h : Commented t u) :
      Commented t (piece ++ u)

/-- What blanking makes of a comment. -/
def gap (piece : List Char) : List Char :=
  piece.map fun c => if c = '\n' then c else ' '

end Comments

namespace Proofs.CommentedText

open Comments Lexeme Reader Reading

/-! ## Blanking comments -/

theorem isSpace_of_mem_gap {piece : List Char} {c : Char} (h : c ∈ gap piece) : isSpace c = true := by
  obtain ⟨x, -, rfl⟩ := List.mem_map.mp h
  split
  · rename_i hx
    subst hx
    rfl
  · rfl

theorem blank_line {body t : List Char} (h : '\n' ∉ body) (ht : ∀ c, t.head? = some c → c = '\n') :
    blankFrom .line (body ++ t) = gap body ++ blankFrom .outside t := by
  induction body with
  | nil =>
      cases t with
      | nil => rfl
      | cons c t =>
          obtain rfl := ht c rfl
          rfl
  | cons c body ih =>
      have hc : c ≠ '\n' := fun hc => h (hc ▸ List.mem_cons_self)
      rw [List.cons_append, blankFrom, if_neg hc, ih fun hbody => h (List.mem_cons_of_mem _ hbody)]
      simp [gap, hc]

theorem blank_block {body t : List Char} (h : ¬ ['*', '/'] <:+: body) (ht : t.head? ≠ some '/') :
    blankFrom .block (body ++ t) = gap body ++ blankFrom .block t := by
  induction body with
  | nil => rfl
  | cons c body ih =>
      have hopen : ¬ (c = '*' ∧ (body ++ t).head? = some '/') := by
        rintro ⟨rfl, hhead⟩
        cases body with
        | nil => exact ht hhead
        | cons x body =>
            cases hhead
            exact h ⟨[], body, rfl⟩
      have hbody : ¬ ['*', '/'] <:+: body := fun hbody => h (hbody.trans (List.suffix_cons c body).isInfix)
      rw [List.cons_append, blankFrom, if_neg hopen, ih hbody]
      rfl

theorem blank_comment {piece : List Char} (h : IsComment piece) (u : List Char) :
    blankFrom .outside (piece ++ u) = gap piece ++ blankFrom .outside u := by
  cases h with
  | @line body h =>
      have hline : blankFrom .line (body ++ '\n' :: u) = gap body ++ '\n' :: blankFrom .outside u :=
        blank_line h (by simp)
      rw [List.cons_append, List.cons_append, List.append_assoc, List.singleton_append]
      simp only [blankFrom, hline]
      simp [gap]
  | @block body h =>
      have hblock : blankFrom .block (body ++ '*' :: '/' :: u) =
          gap body ++ ' ' :: ' ' :: blankFrom .outside u := blank_block h (by simp)
      rw [List.cons_append, List.cons_append, List.append_assoc, List.cons_append, List.singleton_append]
      simp only [blankFrom, hblock]
      simp [gap]

/-! ## Blanking tokens -/

theorem blank_plain {w : List Char} (h : ∀ c ∈ w, c ≠ '"' ∧ c ≠ '/') (u : List Char) :
    blankFrom .outside (w ++ u) = w ++ blankFrom .outside u := by
  induction w with
  | nil => rfl
  | cons c w ih =>
      obtain ⟨hquote, hslash⟩ := h c List.mem_cons_self
      rw [List.cons_append, blankFrom, if_neg hquote, if_neg (fun h => hslash h.1),
        if_neg (fun h => hslash h.1), ih fun x hx => h x (List.mem_cons_of_mem _ hx)]
      rfl

theorem hexValue_ne {c : Char} {n : Nat} (h : hexValue? c = some n) : c ≠ '"' ∧ c ≠ '\\' := by
  constructor <;> (rintro rfl; cases h)

theorem exists_hexValue {a b c d : Char} {n : Nat} (h : hexQuad? a b c d = some n) :
    ∀ x ∈ [a, b, c, d], ∃ n, hexValue? x = some n := by
  obtain ⟨_, ha, h⟩ := Option.bind_eq_some_iff.mp h
  obtain ⟨_, hb, h⟩ := Option.bind_eq_some_iff.mp h
  obtain ⟨_, hc, h⟩ := Option.bind_eq_some_iff.mp h
  obtain ⟨_, hd, -⟩ := Option.bind_eq_some_iff.mp h
  simp [ha, hb, hc, hd]

theorem hexQuad_ne {a b c d : Char} {n : Nat} (h : hexQuad? a b c d = some n) :
    ∀ x ∈ [a, b, c, d], x ≠ '"' ∧ x ≠ '\\' := by
  intro x hx
  obtain ⟨n, hn⟩ := exists_hexValue h x hx
  exact hexValue_ne hn

theorem blank_quoted {w : List Char} (h : ∀ c ∈ w, c ≠ '"' ∧ c ≠ '\\') (u : List Char) :
    blankFrom .quoted (w ++ u) = w ++ blankFrom .quoted u := by
  induction w with
  | nil => rfl
  | cons c w ih =>
      obtain ⟨hquote, hslash⟩ := h c List.mem_cons_self
      rw [List.cons_append, blankFrom, if_neg hslash, if_neg hquote,
        ih fun x hx => h x (List.mem_cons_of_mem _ hx)]
      rfl

theorem blank_spelled {w : List Char} {units : List Nat} (h : Spells w units) (u : List Char) :
    blankFrom .quoted (w ++ u) = w ++ blankFrom .outside u := by
  induction h with
  | close => rfl
  | @number a b c d n w units hn h ih =>
      have hquad := blank_quoted (hexQuad_ne hn) (w ++ u)
      rw [ih] at hquad
      exact congrArg ('\\' :: 'u' :: ·) hquad
  | @letter c e w units he h ih => exact congrArg ('\\' :: c :: ·) ih
  | @plain c w units hquote hslash _ h ih =>
      have hplain := blank_quoted (w := [c]) (by simp [hquote, hslash]) (w ++ u)
      rwa [ih] at hplain

theorem plain_of_starts {c : Char} {w rest : List Char} {lexeme : Lexeme}
    (h : Starts c (w ++ rest) lexeme (w.length + 1)) (htext : c ≠ '"') :
    ∀ x ∈ c :: w, x ≠ '"' ∧ x ≠ '/' := by
  refine forall_of_starts (by simp [marks]) (by simp [words]) (fun x hx => ?_) h htext
  constructor <;> (rintro rfl; cases hx)

/-- The blanker leaves tokens as they are. -/
theorem blank_token {c : Char} {w rest : List Char} {lexeme : Lexeme}
    (h : Starts c (w ++ rest) lexeme (w.length + 1)) (u : List Char) :
    blankFrom .outside (c :: (w ++ u)) = c :: (w ++ blankFrom .outside u) := by
  by_cases hquote : c = '"'
  · subst hquote
    generalize hcs : w ++ rest = cs at h
    generalize hcount : w.length + 1 = count at h
    cases h with
    | text h =>
        obtain ⟨rfl, -⟩ := List.append_inj hcs (Nat.succ_inj.mp hcount)
        exact congrArg ('"' :: ·) (blank_spelled h u)
    | mark h => simp [marks] at h
    | word h => simp [words] at h
    | number hc => cases hc
  · exact blank_plain (plain_of_starts h hquote) u

/-! ## Reading blanked texts -/

theorem blank_space {c : Char} (hc : isSpace c = true) (u : List Char) :
    blankFrom .outside (c :: u) = c :: blankFrom .outside u :=
  blank_plain (w := [c]) (by
    simp only [List.mem_singleton, forall_eq]
    constructor <;> (rintro rfl; cases hc)) u

theorem closes_blank {t u : List Char} (h : Commented t u) (ht : Closes t) :
    Closes (blankFrom .outside u) := by
  cases h with
  | done => exact ht
  | space hc =>
      rw [blank_space hc]
      exact ht
  | @token c t u lexeme count hc hscan h =>
      have hclosing : isClosing c = true := ht c rfl
      rw [← List.singleton_append, blank_plain]
      · exact fun x hx => by cases hx; exact hclosing
      · simp only [List.mem_singleton, forall_eq]
        constructor <;> (rintro rfl; cases hclosing)
  | @comment piece t u hpiece h =>
      rw [blank_comment hpiece]
      cases hpiece <;> rintro _ ⟨⟩ <;> rfl

theorem reads_gap {s : State} {g cs : List Char} {d : Document} (hg : ∀ c ∈ g, isSpace c = true)
    (h : Reads s cs d) : Reads s (g ++ cs) d := by
  induction g with
  | nil => exact h
  | cons c g ih =>
      exact .space (hg c List.mem_cons_self) (ih fun x hx => hg x (List.mem_cons_of_mem _ hx))

/-- What is read from a text is read from it with comments, once they are blanked. -/
theorem reads_blank {t u : List Char} (hu : Commented t u) {s : State} {d : Document}
    (h : Reads s t d) : Reads s (blankFrom .outside u) d := by
  induction hu generalizing s with
  | done => exact h
  | @space c t u hc hu ih =>
      rw [blank_space hc]
      exact .space hc (ih ((reads_space hc).mp h))
  | @token c t u lexeme count hc hscan hu ih =>
      cases h with
      | space hc' => exact absurd hc' (by rw [hc]; decide)
      | token hstart hstep hrest =>
          obtain ⟨rfl, rfl⟩ := Prod.mk.inj ((scan_of_starts hstart 0).symm.trans hscan)
          obtain ⟨w, rest, rfl, rfl⟩ := split_of_starts hstart
          rw [Nat.add_sub_cancel, List.drop_left' rfl] at hrest hu
          rw [Nat.add_sub_cancel, List.take_left' rfl, blank_token hstart]
          rw [Nat.add_sub_cancel, List.drop_left' rfl] at ih
          refine .token (starts_append hstart _ ?_) hstep ?_
          · rintro d rfl
            have hclose := closes_of_reads (awaiting_of_scalar hstep) hrest
            exact ⟨hclose, closes_blank hu hclose⟩
          · rw [Nat.add_sub_cancel, List.drop_left' rfl]
            exact ih hrest
  | @comment piece t u hpiece hu ih =>
      rw [blank_comment hpiece]
      exact reads_gap (fun c => isSpace_of_mem_gap) (ih h)

private theorem mem_of_commented {t u : List Char} (h : Commented t u) {c : Char} (hc : c ∈ t) : c ∈ u := by
  induction h with
  | done => exact hc
  | space _ _ ih =>
      obtain rfl | hc := List.mem_cons.mp hc
      · exact List.mem_cons_self
      · exact List.mem_cons_of_mem _ (ih hc)
  | @token x t u lexeme count _ _ _ ih =>
      obtain rfl | hc := List.mem_cons.mp hc
      · exact List.mem_cons_self
      · rw [← List.take_append_drop (count - 1) t, List.mem_append] at hc
        exact List.mem_cons_of_mem _ (List.mem_append.mpr (hc.imp_right ih))
  | comment _ _ ih => exact List.mem_append_right _ (ih hc)

/-- **Comments are transparent.**  A text that is read without support for comments gives the same
document when any number of comments stands between its tokens and comments are supported. -/
theorem ofText_commented {t u : List Char} {d : Document} (h : Source.ofText false t = .ok d)
    (hu : Commented t u) : Source.ofText true u = .ok d := by
  obtain ⟨hblank, hreads⟩ := ofText_eq_ok.mp h
  refine ofText_eq_ok.mpr ⟨fun hall => hblank ?_, reads_blank hu hreads⟩
  exact List.all_eq_true.mpr fun c hc => List.all_eq_true.mp hall c (mem_of_commented hu hc)

/-- A comment of each kind, with a backslash and a quote in them, and a text that looks like the start of
one. -/
theorem ofText_commented_list :
    Source.ofText false "[1, \"/*\"]".toList = .ok (.array [.int 1, .string "/*"]) ∧
      Commented "[1, \"/*\"]".toList "// \\\n[1/*\"*/, \"/*\"]".toList ∧
      Source.ofText true "// \\\n[1/*\"*/, \"/*\"]".toList = .ok (.array [.int 1, .string "/*"]) := by
  have hread : Source.ofText false "[1, \"/*\"]".toList = .ok (.array [.int 1, .string "/*"]) := by
    refine ofText_eq_ok.mpr ⟨by simp [Text.isBlank], ?_⟩
    change Reads start ['[', '1', ',', ' ', '"', '/', '*', '"', ']'] _
    have hspells : Spells ['/', '*', '"'] ['/'.toNat, '*'.toNat] :=
      .plain (by simp) (by simp) (by simp) (.plain (by simp) (by simp) (by simp) .close)
    refine .token (@Starts.mark '[' openList (by simp [marks]) _) rfl ?_
    refine .token (.number rfl rfl) rfl ?_
    refine .token (@Starts.mark ',' comma (by simp [marks]) _) rfl (.space rfl ?_)
    refine .token (.text hspells [']']) rfl ?_
    exact .token (@Starts.mark ']' closeList (by simp [marks]) _) rfl (.finish rfl)
  have hcommented : Commented "[1, \"/*\"]".toList "// \\\n[1/*\"*/, \"/*\"]".toList := by
    refine .comment (@IsComment.line [' ', '\\'] (by decide)) ?_
    refine @Commented.token _ _ _ openList 1 rfl rfl ?_
    refine @Commented.token _ _ "/*\"*/, \"/*\"]".toList (scalar (.int 1)) 1 rfl rfl ?_
    refine .comment (@IsComment.block ['"'] (by decide)) ?_
    refine @Commented.token _ _ _ comma 1 rfl rfl (.space rfl ?_)
    refine @Commented.token _ _ [']'] (text "/*") 4 rfl rfl ?_
    exact @Commented.token _ _ _ closeList 1 rfl rfl .done
  exact ⟨hread, hcommented, ofText_commented hread hcommented⟩

end Proofs.CommentedText

end ReviewDiagnostics
