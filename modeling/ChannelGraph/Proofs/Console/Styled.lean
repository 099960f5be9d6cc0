import ChannelGraph.Proofs.Console.Escaped

/-!
# Text in a style

A message is text in a style, perhaps with more in front of it and behind. In front of the closing
tag a text keeps all that means something in markup only if it is inert and does not end in a
backslash, which would turn the tag into text (`IsPlainStyle.isInert_of_weight_closing_le`). Then it
is shown in the style as it is shown alone (`IsPlainStyle.reads_inStyle`).

To be read at all less is needed. Text can be read wherever it stands (`Reads`), and so can text in
a style, whether its closing tag is a tag or text (`IsPlainStyle.isReadable_inStyle`). Of whatever
is made up of these nothing is refused but a line that begins with joiners and has too few graphemes
to be cut (`IsReadable.eq_uncut`). A tag in the text that closes the style leaves nothing to close
behind the text, and this is refused (`lines_eq_unmatched`).
-/

namespace ChannelGraph

namespace Markup

open Console

variable {style : String} {cs rest inner : List Char}

/-! ### Pieces around a style -/

/-- The closing tag of a style. -/
def closing (style : String) : List Char :=
  '[' :: ('/' :: style.toList ++ [']'])

/-- Text in a style. -/
def inStyle (style : String) (cs : List Char) : List Char :=
  '[' :: (style.toList ++ ']' :: (cs ++ closing style))

/-- A closing tag begins with a bracket, so it closes none in front of it. -/
theorem upToClose?_closing (style : String) (cs : List Char) :
    upToClose? (closing style ++ cs) = none :=
  upToClose?_bracket 0 _

namespace IsPlainStyle

/-- The tag that opens a style is a tag if no backslash stands in front of it. -/
theorem piecesFrom_opening (h : IsPlainStyle style) (passed cs : List Char) :
    piecesFrom passed 0 ('[' :: (style.toList ++ ']' :: cs)) =
      [.text passed.reverse, .text [], .tag style.toList] ++ piecesFrom [] 0 cs := by
  rw [piecesFrom_tag (h.tagBody?_eq cs)]
  simp [tagPiece, backslashes]

/-- The tag that closes a style is a tag or text, by the number of backslashes in front of it. -/
theorem piecesFrom_closing (h : IsPlainStyle style) (passed : List Char) (slashes : Nat)
    (cs : List Char) :
    piecesFrom passed slashes (closing style ++ cs) =
      [.text passed.reverse, .text (backslashes (slashes / 2)),
        tagPiece slashes ('/' :: style.toList)] ++ piecesFrom [] 0 cs := by
  have hbody : tagBody? ('/' :: style.toList ++ [']'] ++ cs) = some ('/' :: style.toList) := by
    rw [List.append_assoc]
    exact h.tagBody?_slash_eq cs
  rw [closing, List.cons_append, piecesFrom_tag hbody]
  simp

/-- The pieces of an inert text in front of a closing tag. -/
theorem piecesFrom_append_closing (h : IsPlainStyle style) (hcs : IsInert cs)
    (hlast : cs.getLast? ≠ some '\\') (rest : List Char) :
    piecesFrom [] 0 (cs ++ (closing style ++ rest)) =
      [.text cs, .text [], .tag ('/' :: style.toList)] ++ piecesFrom [] 0 rest := by
  rw [hcs.piecesFrom_append hlast (upToClose?_closing style rest), h.piecesFrom_closing,
    List.reverse_reverse]
  rfl

/-- Nothing in the body of a closing tag means anything in markup. -/
theorem weight_slash_toList (h : IsPlainStyle style) (n : Nat) :
    weight n ('/' :: style.toList) = 0 := by
  have hslash : '\\' ∉ style.toList := fun hmem ↦ h.ne_of_mem hmem (by decide) rfl
  have hopen : '[' ∉ style.toList := fun hmem ↦ h.ne_of_mem hmem (by decide) rfl
  rw [weight_other n (by decide) (by decide), weight, List.count_eq_zero_of_not_mem hslash,
    List.count_eq_zero_of_not_mem hopen, Nat.mul_zero]

/-- A closing tag leaves half of what the backslashes in front of it weigh. -/
theorem weight_closing (h : IsPlainStyle style) (passed : List Char) (slashes : Nat) :
    weight 2 (charsOf [.text passed.reverse, .text (backslashes (slashes / 2)),
      tagPiece slashes ('/' :: style.toList)]) = weight 2 passed + slashes := by
  have htag : weight 2 (tagPiece slashes ('/' :: style.toList)).chars = slashes % 2 := by
    by_cases heven : slashes % 2 = 0
    · rw [tagPiece, if_pos heven, Piece.chars, weight_nil, heven]
    · rw [tagPiece, if_neg heven, Piece.chars, List.cons_append, weight_bracket, weight_append,
        h.weight_slash_toList, weight_other 2 (by decide) (by decide), weight_nil]
      omega
  simp only [charsOf, List.flatMap_cons, List.flatMap_nil, weight_append, weight_nil, htag]
  simp only [Piece.chars, weight_reverse, weight_backslashes]
  omega

/-- What is left of a text in front of a closing tag weighs what the pieces before it do, what was
passed, and half of what the backslashes weigh. -/
theorem weight_charsOf_closing (h : IsPlainStyle style) (ps : List Piece) (passed : List Char)
    (slashes : Nat) :
    weight 2 (charsOf (ps ++ piecesFrom passed slashes (closing style))) =
      weight 2 (charsOf ps) + (weight 2 passed + slashes) := by
  have hclosing := h.piecesFrom_closing passed slashes []
  rw [List.append_nil, piecesFrom_nil] at hclosing
  rw [hclosing, charsOf_append, charsOf_append, weight_append, weight_append, h.weight_closing]
  rfl

/-- Only an inert text without a backslash at the end keeps all that means something in markup in
front of a closing tag. -/
theorem isInert_of_weight_closing_le (h : IsPlainStyle style)
    (hweight : weight 2 cs ≤ weight 2 (charsOf (piecesFrom [] 0 (cs ++ closing style)))) :
    IsInert cs ∧ cs.getLast? ≠ some '\\' := by
  refine ⟨?_, fun hlast ↦ ?_⟩
  · obtain ⟨ps, passed, slashes, -, hrest, hcs⟩ := exists_piecesFrom_eq cs
    have hle := weight_charsOf_le 2 [] 0 cs
    rw [hrest (closing style) (upToClose?_bracket 0 _), h.weight_charsOf_closing] at hweight
    refine isInert_of_weight_le Nat.two_pos ?_
    rw [hcs, weight_nil] at hle
    rw [hcs]
    omega
  · -- The last backslash stands in front of the closing tag, which leaves only half of it.
    obtain ⟨init, rfl⟩ := List.getLast?_eq_some_iff.1 hlast
    obtain ⟨ps, passed, slashes, -, hrest, hinit⟩ := exists_piecesFrom_eq init
    have hle := weight_charsOf_le 2 [] 0 init
    rw [List.append_assoc, List.singleton_append,
      hrest ('\\' :: closing style) (upToClose?_bracket 1 _), piecesFrom_slash,
      h.weight_charsOf_closing, weight_append, weight_slash] at hweight
    rw [hinit, weight_nil] at hle
    omega

/-- An inert text without a backslash at the end is left whole by a closing tag. -/
theorem charsOf_closing (h : IsPlainStyle style) (hcs : IsInert cs)
    (hlast : cs.getLast? ≠ some '\\') :
    charsOf (piecesFrom [] 0 (cs ++ closing style)) = cs := by
  have hpieces := h.piecesFrom_append_closing hcs hlast []
  rw [List.append_nil, piecesFrom_nil] at hpieces
  rw [hpieces]
  exact List.append_nil cs

/-- Behind another character a closing tag is no text. -/
theorem charsOf_other_closing (h : IsPlainStyle style) {c : Char} (hslash : c ≠ '\\')
    (hopen : c ≠ '[') (hc : upToClose? [c] = none) (cs : List Char) :
    charsOf (piecesFrom [] 0 (cs ++ [c] ++ closing style)) =
      charsOf (piecesFrom [] 0 (cs ++ [c])) := by
  obtain ⟨ps, passed, slashes, hps⟩ := exists_piecesFrom_append [] 0 cs
  have hclosing := h.piecesFrom_closing (c :: backslashes slashes ++ passed) 0 []
  have hrest : upToClose? ([c] ++ closing style) = none :=
    (upToClose?_append (upToClose?_bracket 0 _) [c]).trans hc
  rw [List.append_nil, piecesFrom_nil] at hclosing
  rw [List.append_assoc, hps _ hrest, hps _ hc, List.singleton_append,
    piecesFrom_other hslash hopen, piecesFrom_other hslash hopen, hclosing, piecesFrom_nil]
  simp [charsOf, Piece.chars, backslashes, tagPiece]

/-- What is shown of text in a style and of what is behind it adds up. -/
theorem charsOf_inStyle (h : IsPlainStyle style) (inner rest : List Char) :
    charsOf (piecesFrom [] 0 (inStyle style inner ++ rest)) =
      charsOf (piecesFrom [] 0 (inner ++ closing style)) ++ charsOf (piecesFrom [] 0 rest) := by
  obtain ⟨ps, passed, slashes, -, hps, -⟩ := exists_piecesFrom_eq inner
  have hclosing := h.piecesFrom_closing passed slashes []
  rw [List.append_nil, piecesFrom_nil] at hclosing
  rw [inStyle]
  simp only [List.cons_append, List.append_assoc]
  rw [h.piecesFrom_opening, hps _ (upToClose?_closing style rest), h.piecesFrom_closing,
    hps (closing style) (upToClose?_bracket 0 _), hclosing]
  simp [charsOf, Piece.chars, backslashes]

end IsPlainStyle

/-! ### Reading -/

/-- None of the styles so far can be refused later. -/
structure Progress.IsSafe (r : Progress) : Prop where
  /-- Not those of open tags. -/
  opened : ∀ tag ∈ r.opened, ∀ stop, Style.lacksNumber (tag.span stop).style = false
  /-- Nor those that are settled. -/
  spans : ∀ span ∈ r.spans, Style.lacksNumber span.style = false

/-- Wherever they stand, some pieces can be read and show some characters. -/
def Reads (ps : List Piece) (cs : List Char) : Prop :=
  ∀ r : Progress, r.IsSafe →
    ∃ r' : Progress, ps.foldlM Progress.pass r = .ok r' ∧ r'.IsSafe ∧ r'.text = r.text ++ cs

namespace Reads

variable {ps qs : List Piece} {ds : List Char}

/-- Pieces that can be read one after the other show their characters one after the other. -/
theorem append (hps : Reads ps cs) (hqs : Reads qs ds) : Reads (ps ++ qs) (cs ++ ds) := by
  intro r hr
  obtain ⟨r', hfold, hsafe, htext⟩ := hps r hr
  obtain ⟨r'', hfold', hsafe', htext'⟩ := hqs r' hsafe
  refine ⟨r'', (foldlM_pass_append hfold qs).trans hfold', hsafe', ?_⟩
  rw [htext', htext, List.append_assoc]

/-- Pieces of text can always be read; each shows its characters by itself. -/
theorem texts (texts : List (List Char)) :
    Reads (texts.map Piece.text) (texts.flatMap shownText) :=
  fun r hr ↦ ⟨_, foldlM_pass_texts texts r, ⟨hr.opened, hr.spans⟩, rfl⟩

end Reads

theorem reads_nil : Reads (piecesFrom [] 0 []) [] := by
  rw [piecesFrom_nil]
  exact Reads.texts [[]]

namespace IsPlainStyle

/-- Opening a style of one word leaves nothing that can be refused later. -/
theorem isSafe_open (h : IsPlainStyle style) {r : Progress} (hr : r.IsSafe) (start : Nat) :
    Progress.IsSafe { r with opened := ⟨style, none, start⟩ :: r.opened } := by
  refine ⟨List.forall_mem_cons.2 ⟨fun stop ↦ ?_, hr.opened⟩, hr.spans⟩
  simpa [OpenTag.span] using h.readable

/-- The tag of a style shows nothing. -/
theorem reads_tag (h : IsPlainStyle style) : Reads [.tag style.toList] [] := by
  refine fun r hr ↦ ⟨_, ?_, h.isSafe_open hr r.text.length, (List.append_nil _).symm⟩
  rw [List.foldlM_cons, h.pass_tag]
  rfl

/-- A style that is opened and closed around some text. -/
theorem foldlM_pass_tags (h : IsPlainStyle style) (texts : List (List Char)) (r : Progress) :
    List.foldlM Progress.pass r
        (.tag style.toList :: texts.map Piece.text ++ [.tag ('/' :: style.toList)]) =
      .ok { r with
        text := r.text ++ texts.flatMap shownText
        spans := ⟨r.text.length, (r.text ++ texts.flatMap shownText).length, style.toList⟩ ::
          r.spans } := by
  rw [List.cons_append, List.foldlM_cons, h.pass_tag]
  refine (foldlM_pass_append (foldlM_pass_texts texts _) _).trans ?_
  rw [List.foldlM_cons, h.pass_slash rfl]
  rfl

/-- Texts between the tags of a style show what they show without it. -/
theorem reads_tags (h : IsPlainStyle style) (texts : List (List Char)) :
    Reads (.tag style.toList :: texts.map Piece.text ++ [.tag ('/' :: style.toList)])
      (texts.flatMap shownText) :=
  fun r hr ↦ ⟨_, h.foldlM_pass_tags texts r,
    ⟨hr.opened, List.forall_mem_cons.2 ⟨h.readable, hr.spans⟩⟩, rfl⟩

end IsPlainStyle

/-- All pieces of a text are text. -/
def IsText (cs : List Char) : Prop :=
  ∃ texts : List (List Char), piecesFrom [] 0 cs = texts.map Piece.text

/-- Markup that can be read wherever it stands. -/
def IsReadable (cs : List Char) : Prop :=
  ∃ t, Reads (piecesFrom [] 0 cs) t

/-- Text can be read wherever it stands. -/
theorem IsText.isReadable (h : IsText cs) : IsReadable cs := by
  obtain ⟨texts, htexts⟩ := h
  exact ⟨_, htexts ▸ Reads.texts texts⟩

namespace IsPlainStyle

/-- Text in a style can be read in front of what can, whatever it ends in. -/
theorem isReadable_inStyle (h : IsPlainStyle style) (front : List Char)
    (hfront : ∀ c ∈ front, c ≠ '\\' ∧ c ≠ '[') (hinner : IsText inner) (hrest : IsReadable rest) :
    IsReadable (front ++ (inStyle style inner ++ rest)) := by
  obtain ⟨texts, htexts⟩ := hinner
  obtain ⟨ds, hreads⟩ := hrest
  obtain ⟨ps, passed, slashes, hcs, hps, -⟩ := exists_piecesFrom_eq inner
  obtain ⟨texts', last, -, rfl, -⟩ := List.map_eq_append_iff.1 (htexts.symm.trans hcs)
  have hpieces : piecesFrom [] 0 (front ++ (inStyle style inner ++ rest)) =
      [front, []].map Piece.text ++ (.tag style.toList ::
        (texts' ++ [passed.reverse, backslashes (slashes / 2)]).map Piece.text ++
          [tagPiece slashes ('/' :: style.toList)]) ++ piecesFrom [] 0 rest := by
    rw [piecesFrom_append_of_forall hfront, inStyle]
    simp only [List.cons_append, List.append_assoc]
    rw [h.piecesFrom_opening, hps _ (upToClose?_closing style rest), h.piecesFrom_closing]
    simp
  rw [IsReadable, hpieces]
  by_cases heven : slashes % 2 = 0
  · rw [tagPiece, if_pos heven]
    exact ⟨_, ((Reads.texts _).append (h.reads_tags _)).append hreads⟩
  · -- Behind an odd number of backslashes the closing tag is text, and the style stays open.
    have htail : .tag style.toList ::
        (texts' ++ [passed.reverse, backslashes (slashes / 2)]).map Piece.text ++
          [.text ('[' :: ('/' :: style.toList) ++ [']'])] =
        [.tag style.toList] ++ (texts' ++ [passed.reverse, backslashes (slashes / 2),
          '[' :: ('/' :: style.toList) ++ [']']]).map Piece.text := by simp
    rw [tagPiece, if_neg heven, htail]
    exact ⟨_, ((Reads.texts _).append (h.reads_tag.append (Reads.texts _))).append hreads⟩

/-- An inert text in a style is shown as it is shown alone, unless it ends in a backslash. -/
theorem reads_inStyle (h : IsPlainStyle style) {front : List Char}
    (hfront : ∀ c ∈ front, c ≠ '\\' ∧ c ≠ '[') (hinner : IsInert inner)
    (hlast : inner.getLast? ≠ some '\\') {ds : List Char}
    (hrest : Reads (piecesFrom [] 0 rest) ds) :
    Reads (piecesFrom [] 0 (front ++ (inStyle style inner ++ rest)))
      (shownText front ++ (shownText inner ++ ds)) := by
  have hpieces : piecesFrom [] 0 (front ++ (inStyle style inner ++ rest)) =
      [front, []].map Piece.text ++ (.tag style.toList :: [inner, []].map Piece.text ++
        [.tag ('/' :: style.toList)]) ++ piecesFrom [] 0 rest := by
    rw [piecesFrom_append_of_forall hfront, inStyle]
    simp only [List.cons_append, List.append_assoc]
    rw [h.piecesFrom_opening, h.piecesFrom_append_closing hinner hlast]
    simp
  have hreads := ((Reads.texts [front, []]).append (h.reads_tags [inner, []])).append hrest
  rw [hpieces]
  simpa [shownText, withEmoji, replaceFrom] using hreads

/-- A closing tag in the text closes the style, and the one behind the text has nothing to
close. -/
theorem foldlM_pass_closed (h : IsPlainStyle style) {front back : List Char}
    (hfront : ∀ c ∈ front, c ≠ '\\' ∧ c ≠ '[') (hback : ∀ c ∈ back, c ≠ '\\' ∧ c ≠ '[') (n : Nat) :
    List.foldlM Progress.pass {} (piecesFrom [] 0
        (inStyle style (front ++ (backslashes (2 * n) ++ (closing style ++ back))))) =
      .error (.unmatched style) := by
  have hpieces : piecesFrom [] 0
      (inStyle style (front ++ (backslashes (2 * n) ++ (closing style ++ back)))) =
        [[], []].map Piece.text ++ ((.tag style.toList :: [front, backslashes n].map Piece.text ++
          [.tag ('/' :: style.toList)]) ++ ([back, []].map Piece.text ++
            [.tag ('/' :: style.toList), .text []])) := by
    have hclosing := h.piecesFrom_closing (back.reverse ++ []) 0 []
    rw [List.append_nil (closing style), piecesFrom_nil] at hclosing
    rw [inStyle]
    simp only [List.append_assoc]
    rw [h.piecesFrom_opening, piecesFrom_append_of_forall hfront, piecesFrom_backslashes,
      h.piecesFrom_closing, piecesFrom_append_of_forall hback, hclosing]
    simp [tagPiece, backslashes]
  rw [hpieces, foldlM_pass_append (foldlM_pass_texts _ _),
    foldlM_pass_append (h.foldlM_pass_tags _ _), foldlM_pass_append (foldlM_pass_texts _ _),
    List.foldlM_cons, h.pass_slash_of_nil rfl]
  rfl

end IsPlainStyle

/-! ### Texts -/

/-- A text without tags is text as it is. -/
theorem IsTagFree.isText (h : IsTagFree cs) : IsText cs := by
  obtain ⟨text, htext⟩ := h.exists_piecesFrom_eq [] 0
  exact ⟨[text], htext⟩

theorem IsTagFree.backslashes_append (h : IsTagFree cs) (n : Nat) :
    IsTagFree (backslashes n ++ cs) := by
  induction n with
  | zero => exact h
  | succ n ih => exact ih.slash

/-- An escaped text behind characters that mean nothing and in front of some that close none of its
brackets is all text. -/
theorem isText_escape {front : List Char} (hfront : ∀ c ∈ front, c ≠ '\\' ∧ c ≠ '[') (s : String)
    (hrest : IsTagFree rest) (hclose : upToClose? rest = none) :
    IsText (front ++ ((escape s).toList ++ rest)) := by
  obtain ⟨n, hescape⟩ := exists_toList_escape s
  obtain ⟨texts, passed, slashes, htexts, -⟩ :=
    exists_piecesFrom_escapeFrom (upToClose?_backslashes hclose n) [] 0 (front ++ s.toList)
  obtain ⟨text, htext⟩ := (hrest.backslashes_append n).exists_piecesFrom_eq passed slashes
  refine ⟨texts ++ [text], ?_⟩
  rw [hescape, List.append_assoc, ← List.append_assoc front, ← escapeFrom_append_of_forall hfront,
    htexts, htext, List.map_append]
  rfl

/-- Escaped text is text at the end of a line. -/
theorem isText_append_escape {front : List Char} (hfront : ∀ c ∈ front, c ≠ '\\' ∧ c ≠ '[')
    (t : String) : IsText (front ++ (escape t).toList) := by
  have h := isText_escape hfront t isTagFree_nil rfl
  rwa [List.append_nil] at h

theorem isReadable_nil : IsReadable [] :=
  ⟨[], reads_nil⟩

/-! ### Markup as a whole -/

theorem toList_source_append (a b : Markup) :
    (a ++ b).source.toList = a.source.toList ++ b.source.toList :=
  String.toList_append

/-- Markup in a style is its characters between the tags of the style. -/
theorem toList_source_styled (style : String) (m : Markup) :
    (styled style m).source.toList = inStyle style m.source.toList := by
  simp [styled, inStyle, closing, String.toList_append]

variable {m : Markup}

/-- Text in a style can be read. -/
theorem isReadable_of_inStyle (h : IsPlainStyle style)
    (hsource : m.source.toList = inStyle style inner) (hinner : IsText inner) :
    IsReadable m.source.toList := by
  have hreadable := h.isReadable_inStyle [] nofun hinner isReadable_nil
  rwa [List.append_nil, List.nil_append, ← hsource] at hreadable

/-- Text in a style can be read in front of text. -/
theorem isReadable_of_inStyle_append (h : IsPlainStyle style) {back : List Char}
    (hsource : m.source.toList = inStyle style inner ++ back)
    (hinner : IsText inner) (hback : IsText back) : IsReadable m.source.toList := by
  rw [hsource]
  exact h.isReadable_inStyle [] nofun hinner hback.isReadable

/-- Whatever is escaped can be told in a style. -/
theorem isReadable_styled_ofText (h : IsPlainStyle style) {front : String}
    (hfront : ∀ c ∈ front.toList, c ≠ '\\' ∧ c ≠ '[') (t : String) :
    IsReadable (styled style (⟨front⟩ ++ .ofText t)).source.toList := by
  refine isReadable_of_inStyle h ?_ (isText_append_escape hfront t)
  rw [toList_source_styled, toList_source_append]
  rfl

/-- Whatever is escaped can be told. -/
theorem isReadable_ofText {front : String} (hfront : ∀ c ∈ front.toList, c ≠ '\\' ∧ c ≠ '[')
    (t : String) : IsReadable ((⟨front⟩ : Markup) ++ ofText t).source.toList := by
  rw [toList_source_append]
  exact (isText_append_escape hfront t).isReadable

/-- Whatever can be read anywhere is no fault as markup. -/
theorem exists_read_of_reads (h : Reads (piecesFrom [] 0 m.source.toList) cs) :
    ∃ spans, m.read = .ok (cs, spans) ∧ ∀ span ∈ spans, Style.lacksNumber span.style = false := by
  obtain ⟨r, hfold, hsafe, htext⟩ := h {} ⟨nofun, nofun⟩
  refine ⟨r.allSpans, ?_, fun span hspan ↦ ?_⟩
  · rw [read, hfold]
    exact congrArg (fun text ↦ Except.ok (text, r.allSpans)) htext
  · rcases List.mem_append.1 hspan with hopen | hspan
    · obtain ⟨tag, htag, rfl⟩ := List.mem_map.1 hopen
      exact hsafe.opened tag htag _
    · exact hsafe.spans span hspan

/-- What can be read is printed as the lines of what it shows. -/
theorem lines_of_reads (h : Reads (piecesFrom [] 0 m.source.toList) cs) :
    (Block.markup m).lines = screenLines (wrap screenWidth .fold cs) := by
  obtain ⟨spans, hread, hspans⟩ := exists_read_of_reads h
  have hany : spans.any (fun s ↦ isKept cs (wrap screenWidth .fold cs).length s &&
      Style.lacksNumber s.style) = false := by
    simpa using fun s hs _ ↦ hspans s hs
  simp [Block.lines, markupLines, hread, hany, Except.bind]

/-- Of markup that can be read nothing but a line that cannot be cut is refused. -/
theorem IsReadable.eq_uncut (h : IsReadable m.source.toList) {f : Fault}
    (hlines : (Block.markup m).lines = .error f) : f = .uncut := by
  obtain ⟨cs, hreads⟩ := h
  exact eq_uncut_of_screenLines ((lines_of_reads hreads).symm.trans hlines)

/-- Text in a style cannot be told if a tag in it closes the style. -/
theorem lines_eq_unmatched (h : IsPlainStyle style) (front back : List Char)
    (hfront : ∀ c ∈ front, c ≠ '\\' ∧ c ≠ '[') (hback : ∀ c ∈ back, c ≠ '\\' ∧ c ≠ '[') (n : Nat)
    (hsource : m.source.toList =
      inStyle style (front ++ (backslashes (2 * n) ++ (closing style ++ back)))) :
    (Block.markup m).lines = .error (.unmatched style) := by
  rw [Block.lines, markupLines, read, hsource, h.foldlM_pass_closed hfront hback]
  rfl

end Markup

end ChannelGraph
