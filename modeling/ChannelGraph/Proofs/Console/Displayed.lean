import ChannelGraph.Proofs.Console.Styled

/-!
# Lines that are taken for texts

A message is text in a style, perhaps with more behind it. It is taken for a text if its characters
outside tags are those of the text and if it shows what the text shows when it is printed without
markup (`Markup.Displays`). Both are asked for, since names of emoji are replaced and control
characters are left out with markup and without, and this hides what else is changed. The text
itself is shown where it has neither (`Markup.Displays.plain_eq_iff`).

A line is taken for its text exactly if that is inert and does not end in a backslash, which would
turn the closing tag into text (`Markup.displays_iff`). An escaped text behind a style is taken for
itself exactly if it would be alone, whatever it is, and this leaves the same question to the part
in the style (`Markup.displays_inStyle_escape_iff`). In both cases the characters that mean
something in markup are counted, and no part of a line can make up for what is lost in another one
(`Markup.isInert_of_displays`).
-/

namespace ChannelGraph

namespace Console

/-! ### Names of emoji -/

/-- No name of an emoji goes on behind a blank. -/
theorem replaceFrom_append {c : Char} (hc : Text.isBlank c) (code : Option (List Char))
    (cs ds : List Char) :
    replaceFrom code (cs ++ c :: ds) = replaceFrom code cs ++ replaceFrom none (c :: ds) := by
  have hcolon : c ≠ ':' := by rintro rfl; cases hc
  fun_induction replaceFrom code cs with
  | case1 => rfl
  | case2 code => simp [replaceFrom, hc, hcolon]
  | case3 cs ih => simp [replaceFrom, ih]
  | case4 c cs hne ih => simp [replaceFrom, ih, hne]
  | case5 code cs ih => simp [replaceFrom, ih]
  | case6 code c cs hne hblank ih => simp [replaceFrom, ih, hne, hblank]
  | case7 code c cs hne hblank ih => simp [replaceFrom, ih, hne, hblank]

theorem shownText_append {c : Char} (hc : Text.isBlank c) (cs ds : List Char) :
    shownText (cs ++ c :: ds) = shownText cs ++ shownText (c :: ds) := by
  rw [shownText, withEmoji, replaceFrom_append hc, List.filter_append]
  rfl

end Console

namespace Markup

open Console

variable {style t : String} {cs inner rest behind : List Char} {m : Markup}

/-! ### Displayed texts -/

/-- Markup is taken for a text: it consists of the characters of the text and of tags, and it shows
what the text shows without any markup. That need not be the text itself (`Displays.plain_eq_iff`):
names of emoji are replaced and some control characters are left out with or without markup. -/
structure Displays (m : Markup) (t : String) : Prop where
  /-- The characters that are no tags. -/
  chars : charsOf (piecesFrom [] 0 m.source.toList) = t.toList
  /-- What is read. -/
  plain : m.plain = .ok (String.ofList (shownText t.toList))
  /-- What is printed. -/
  lines : (Block.markup m).lines = (Block.verbatim t).lines

/-- Markup that is taken for a text shows this very text exactly if the text has no names of emoji
to be replaced and no characters to be left out. -/
theorem Displays.plain_eq_iff (h : m.Displays t) :
    m.plain = .ok t ↔ shownText t.toList = t.toList := by
  rw [h.plain, Except.ok.injEq, ← String.toList_inj, String.toList_ofList]

/-- Markup that can be read wherever it stands and is taken for a text shows what the text shows. -/
theorem Displays.eq_shownText (h : m.Displays t)
    (hreads : Reads (piecesFrom [] 0 m.source.toList) cs) : cs = shownText t.toList := by
  obtain ⟨spans, hread, -⟩ := exists_read_of_reads hreads
  have hplain := h.plain
  rw [Markup.plain, hread] at hplain
  exact String.ofList_injective (Except.ok.inj hplain)

/-- What cannot be told shows no text. -/
theorem not_displays_of_lines_eq {f : Fault} (h : (Block.markup m).lines = .error f)
    (hf : f ≠ .uncut) (t : String) : ¬m.Displays t :=
  fun hdisplays ↦ hf (eq_uncut_of_screenLines (hdisplays.lines.symm.trans h))

theorem displays_of_reads (hchars : charsOf (piecesFrom [] 0 m.source.toList) = t.toList)
    (h : Reads (piecesFrom [] 0 m.source.toList) (shownText t.toList)) : m.Displays t := by
  obtain ⟨spans, hread, -⟩ := exists_read_of_reads h
  refine ⟨hchars, ?_, lines_of_reads h⟩
  rw [plain, hread]
  rfl

/-! ### Text behind a style -/

/-- Where a line is taken for a text, its part in a style is inert and does not end in a backslash,
if what stands behind adds nothing that means something in markup. -/
theorem isInert_of_displays (h : IsPlainStyle style)
    (hsource : m.source.toList = inStyle style inner ++ rest) (ht : t.toList = inner ++ behind)
    (hweight : weight 2 (charsOf (piecesFrom [] 0 rest)) ≤ weight 2 behind) (hm : m.Displays t) :
    IsInert inner ∧ inner.getLast? ≠ some '\\' ∧ charsOf (piecesFrom [] 0 rest) = behind := by
  have hchars := hm.chars
  rw [hsource, h.charsOf_inStyle, ht] at hchars
  -- Neither part can make up for what is lost in the other one.
  have hinner : weight 2 inner ≤ weight 2 (charsOf (piecesFrom [] 0 (inner ++ closing style))) := by
    have hsum := congrArg (weight 2) hchars
    rw [weight_append, weight_append] at hsum
    omega
  obtain ⟨hinert, hlast⟩ := h.isInert_of_weight_closing_le hinner
  rw [h.charsOf_closing hinert hlast] at hchars
  exact ⟨hinert, hlast, List.append_cancel_left hchars⟩

theorem displays_of_isInert (h : IsPlainStyle style)
    (hsource : m.source.toList = inStyle style inner ++ rest) (ht : t.toList = inner ++ behind)
    (hblank : ∀ c ∈ behind.head?, Text.isBlank c) (hinert : IsInert inner)
    (hlast : inner.getLast? ≠ some '\\') (hchars : charsOf (piecesFrom [] 0 rest) = behind)
    (hreads : Reads (piecesFrom [] 0 rest) (shownText behind)) : m.Displays t := by
  have hshown : shownText inner ++ shownText behind = shownText (inner ++ behind) := by
    cases behind with
    | nil => simp [shownText, withEmoji, replaceFrom]
    | cons c behind => exact (shownText_append (hblank c rfl) inner behind).symm
  refine displays_of_reads ?_ ?_
  · rw [hsource, h.charsOf_inStyle, h.charsOf_closing hinert hlast, hchars, ht]
  · have hline := h.reads_inStyle (List.forall_mem_nil _) hinert hlast hreads
    rw [hsource, ht, ← hshown]
    simpa [shownText, withEmoji, replaceFrom] using hline

/-- A text in a style and one behind it are taken for themselves exactly if both are inert and the
first does not end in a backslash. -/
theorem displays_iff (h : IsPlainStyle style)
    (hsource : m.source.toList = inStyle style inner ++ rest) (ht : t.toList = inner ++ rest)
    (hblank : ∀ c ∈ rest.head?, Text.isBlank c) :
    m.Displays t ↔ IsInert inner ∧ inner.getLast? ≠ some '\\' ∧ IsInert rest := by
  constructor
  · intro hm
    have hrest := weight_charsOf_le 2 [] 0 rest
    rw [weight_nil, Nat.mul_zero, Nat.zero_add] at hrest
    obtain ⟨hinert, hlast, hchars⟩ := isInert_of_displays h hsource ht hrest hm
    exact ⟨hinert, hlast, charsOf_piecesFrom_eq_iff.1 hchars⟩
  · rintro ⟨hinert, hlast, hrest⟩
    have hreads : Reads (piecesFrom [] 0 rest) (shownText rest) := by
      rw [hrest.piecesFrom_eq]
      simpa using Reads.texts [rest]
    exact displays_of_isInert h hsource ht hblank hinert hlast
      (charsOf_piecesFrom_eq_iff.2 hrest) hreads

/-! ### Escaped text behind a style -/

/-- Markup without tags is taken for a text if its pieces make up the text and show what it shows.
The second does not follow from the first, as the name of an emoji may begin in one piece and end in
another. -/
theorem displays_iff_of_texts {texts : List (List Char)}
    (h : piecesFrom [] 0 m.source.toList = texts.map Piece.text) :
    m.Displays t ↔ texts.flatten = t.toList ∧ texts.flatMap shownText = shownText t.toList := by
  have hreads : Reads (piecesFrom [] 0 m.source.toList) (texts.flatMap shownText) :=
    h ▸ Reads.texts texts
  constructor
  · intro hm
    refine ⟨?_, hm.eq_shownText hreads⟩
    rw [← hm.chars, h, charsOf_map_text]
  · rintro ⟨hchars, hshown⟩
    refine displays_of_reads ?_ (hshown ▸ hreads)
    rw [h, charsOf_map_text, hchars]

/-- An inert text is taken for itself when it is escaped, unless it ends in a backslash alone. -/
theorem displays_ofText {s : String} (h : IsInert s.toList) (hend : ¬EndsAlone s.toList) :
    (ofText s).Displays s := by
  have hsource : (ofText s).source = s := escape_eq_self h.tagFree hend
  have htexts : piecesFrom [] 0 (ofText s).source.toList = [s.toList].map Piece.text := by
    rw [hsource, h.piecesFrom_eq]
    rfl
  exact (displays_iff_of_texts htexts).2 (by simp)

/-- What is passed first stands at the beginning of the first piece. -/
theorem exists_piecesFrom_eq_cons (slashes : Nat) (cs : List Char) :
    ∃ text ps, ∀ passed, piecesFrom passed slashes cs = .text (passed.reverse ++ text) :: ps := by
  induction cs generalizing slashes with
  | nil => exact ⟨_, _, fun passed ↦ piecesFrom_nil passed slashes⟩
  | cons c cs ih =>
    by_cases hslash : c = '\\'
    · obtain ⟨text, ps, hps⟩ := ih (slashes + 1)
      exact ⟨text, ps, fun passed ↦ by rw [hslash, piecesFrom_slash, hps]⟩
    obtain ⟨text, ps, hps⟩ := ih 0
    by_cases hopen : c = '['
    · subst hopen
      cases hbody : tagBody? cs with
      | some body => exact ⟨[], _, fun passed ↦ by rw [piecesFrom_tag hbody, List.append_nil]⟩
      | none =>
        refine ⟨backslashes (slashes - 1) ++ '[' :: text, ps, fun passed ↦ ?_⟩
        rw [piecesFrom_bracket hbody, hps]
        simp [backslashes]
    · refine ⟨backslashes slashes ++ c :: text, ps, fun passed ↦ ?_⟩
      rw [piecesFrom_other hslash hopen, hps]
      simp [backslashes]

/-- A blank in front of an escaped text goes into its first piece. -/
theorem exists_texts_blank_escape (s : String) :
    ∃ text texts, piecesFrom [] 0 (escape s).toList = (text :: texts).map Piece.text ∧
      piecesFrom [] 0 (' ' :: (escape s).toList) = ((' ' :: text) :: texts).map Piece.text := by
  obtain ⟨texts, htexts⟩ := isText_append_escape (List.forall_mem_nil _) s
  obtain ⟨text, ps, hps⟩ := exists_piecesFrom_eq_cons 0 (escape s).toList
  rw [List.nil_append, hps] at htexts
  obtain ⟨-, texts, -, -, rfl⟩ := List.map_eq_cons_iff.1 htexts.symm
  exact ⟨text, texts, hps [], (piecesFrom_other (by decide) (by decide)).trans (hps [' '])⟩

theorem shownText_blank (cs : List Char) : shownText (' ' :: cs) = ' ' :: shownText cs := by
  simp [shownText, withEmoji, replaceFrom, isDropped]

/-- A text that ends in a backslash alone is shown with two of them when it is escaped at the end of
a line. -/
theorem not_endsAlone_of_charsOf_eq_blank {s : String} {front front' : List Char}
    (h : front' ++ charsOf (piecesFrom [] 0 (' ' :: (escape s).toList)) =
      front ++ ' ' :: s.toList) : ¬EndsAlone s.toList := by
  intro hend
  rw [toList_escape_of_endsAlone hend] at h
  obtain ⟨init, hs, hinit⟩ := hend
  have hsource : ' ' :: (escapeFrom 0 s.toList ++ ['\\']) =
      ' ' :: escapeFrom 0 init ++ backslashes 2 := by
    rw [hs, escapeFrom_concat_slash, List.append_assoc]
    rfl
  have hshown : front' ++ (charsOf (piecesFrom [] 0 (' ' :: escapeFrom 0 init)) ++ backslashes 2) =
      front' ++ charsOf (piecesFrom [] 0 (' ' :: escapeFrom 0 init)) ++ ['\\'] ++ ['\\'] := by
    simp [backslashes]
  rw [hsource, charsOf_append_backslashes, hshown, hs, ← List.cons_append, ← List.append_assoc] at h
  -- In front of the last backslash there is another one on the left, but none on the right.
  have hlast := congrArg List.getLast? (List.append_cancel_right h)
  rw [List.getLast?_concat, List.getLast?_append, List.getLast?_cons] at hlast
  cases hblank : init.getLast? with
  | none => simp [hblank] at hlast
  | some c => exact hinit (by simpa [hblank] using hlast.symm)

/-- A line with an escaped text behind its style is taken for itself exactly if the part in the
style is inert and does not end in a backslash, and the escaped text alone shows what was
escaped. -/
theorem displays_inStyle_escape_iff (h : IsPlainStyle style) {s : String}
    (hsource : m.source.toList = inStyle style inner ++ ' ' :: (escape s).toList)
    (ht : t.toList = inner ++ ' ' :: s.toList) :
    m.Displays t ↔ IsInert inner ∧ inner.getLast? ≠ some '\\' ∧ (ofText s).Displays s := by
  obtain ⟨text, texts, htexts, hblank⟩ := exists_texts_blank_escape s
  have hreads := Reads.texts ((' ' :: text) :: texts)
  rw [← hblank, List.flatMap_cons, shownText_blank, List.cons_append, ← List.flatMap_cons] at hreads
  have hchars : charsOf (piecesFrom [] 0 (' ' :: (escape s).toList)) =
      ' ' :: (text :: texts).flatten := by
    rw [hblank, charsOf_map_text]
    rfl
  have hs : (ofText s).Displays s ↔ _ := displays_iff_of_texts htexts
  rw [hs]
  constructor
  · intro hm
    -- a backslash alone at the end would be doubled in the line
    have hend : ¬EndsAlone s.toList := by
      have hline := hm.chars
      rw [hsource, h.charsOf_inStyle, ht] at hline
      exact not_endsAlone_of_charsOf_eq_blank hline
    have hweight : weight 2 (charsOf (piecesFrom [] 0 (' ' :: (escape s).toList))) ≤
        weight 2 (' ' :: s.toList) := by
      have hfront : ∀ c ∈ [' '], c ≠ '\\' ∧ c ≠ '[' := by simp
      rw [toList_escape_of_not_endsAlone hend, ← List.singleton_append,
        ← escapeFrom_append_of_forall hfront]
      exact weight_charsOf_escapeFrom_le 2 _
    -- nothing is gained behind the style, so nothing is lost in it
    obtain ⟨hinert, hlast, hbehind⟩ := isInert_of_displays h hsource ht hweight hm
    have hline := h.reads_inStyle (List.forall_mem_nil _) hinert hlast hreads
    rw [List.nil_append, ← hsource] at hline
    have hshown := hm.eq_shownText hline
    rw [ht, shownText_append (by rfl), shownText_blank] at hshown
    refine ⟨hinert, hlast, ?_, ?_⟩
    · exact (List.cons.inj (hchars.symm.trans hbehind)).2
    · exact (List.cons.inj (List.append_cancel_left hshown)).2
  · rintro ⟨hinert, hlast, hflat, hshown⟩
    rw [hshown, ← shownText_blank] at hreads
    rw [hflat] at hchars
    exact displays_of_isInert h hsource ht (by simp; decide) hinert hlast hchars hreads

end Markup

end ChannelGraph
