import ChannelGraph.Proofs.Console.Displayed
import ChannelGraph.Text.Quoted

/-!
# Quoted text in markup

A name that is told between quotes is escaped first and quoted then. Quoting writes no brackets but
those of the text, and it opens and closes them at the same places (`tagBody?_quotedBody`), so a
text that is inert stays so between quotes (`isInert_quotedBody`). But it writes two backslashes for
one. Escaping makes their number in front of a tag odd; quoting makes it even again, and what was
meant as text is a tag (`weight_charsOf_quotedBody_lt`). A backslash that escaping adds at the end
is doubled as well (`not_endsAlone_of_charsOf_eq`). So the quoted name is shown exactly if escaping
has changed nothing and the name is inert (`displays_quoted_iff`).
-/

namespace ChannelGraph

namespace Text

variable {q c d : Char}

/-! ### Characters between quotes -/

/-- A character that is no backslash and no bracket. -/
structure IsPlain (c : Char) : Prop where
  /-- It is no backslash. -/
  slash : c ≠ '\\'
  /-- It is no opening bracket. -/
  opening : c ≠ '['
  /-- It is no closing bracket. -/
  closing : c ≠ ']'

/-- The digits of an escape mean nothing in markup. -/
theorem isPlain_of_mem_hexDigits {width n : Nat} (h : d ∈ hexDigits width n) : IsPlain d := by
  have hall : ∀ m ∈ List.range 16, hexDigit m ≠ '\\' ∧ hexDigit m ≠ '[' ∧ hexDigit m ≠ ']' := by
    decide
  induction width generalizing n with
  | zero => cases h
  | succ width ih =>
    rcases List.mem_append.1 h with h | h
    · exact ih h
    · obtain ⟨hslash, hopen, hclose⟩ := hall (n % 16) (List.mem_range.2 (Nat.mod_lt _ (by decide)))
      rw [List.mem_singleton.1 h]
      exact ⟨hslash, hopen, hclose⟩

/-- A character other than the backslash is written as it is, or as plain characters behind a
backslash. -/
theorem escapeChar_cases (hq : IsPlain q) (hslash : c ≠ '\\') :
    escapeChar q c = [c] ∨
      ∃ d ds, escapeChar q c = '\\' :: d :: ds ∧ ∀ e ∈ d :: ds, IsPlain e := by
  rw [escapeChar]
  split
  · rename_i hc
    rcases hc with rfl | hc
    · exact .inr ⟨c, [], rfl, by simpa using hq⟩
    · exact absurd hc hslash
  split
  · exact .inr ⟨'n', [], rfl, by simpa using ⟨by decide, by decide, by decide⟩⟩
  split
  · exact .inr ⟨'r', [], rfl, by simpa using ⟨by decide, by decide, by decide⟩⟩
  split
  · exact .inr ⟨'t', [], rfl, by simpa using ⟨by decide, by decide, by decide⟩⟩
  split
  · exact .inl rfl
  have hdigits (width : Nat) {d : Char} (hd : IsPlain d) :
      ∀ e ∈ d :: hexDigits width c.toNat, IsPlain e :=
    List.forall_mem_cons.2 ⟨hd, fun _ ↦ isPlain_of_mem_hexDigits⟩
  split
  · exact .inr ⟨'x', _, rfl, hdigits 2 ⟨by decide, by decide, by decide⟩⟩
  split
  · exact .inr ⟨'u', _, rfl, hdigits 4 ⟨by decide, by decide, by decide⟩⟩
  · exact .inr ⟨'U', _, rfl, hdigits 8 ⟨by decide, by decide, by decide⟩⟩

theorem escapeChar_slash (q : Char) : escapeChar q '\\' = ['\\', '\\'] := by
  simp [escapeChar]

/-- Below the first unprintable character behind the space all characters are written as they are,
but for quotes and backslashes. -/
theorem escapeChar_of_toNat_lt (hq : c ≠ q) (hslash : c ≠ '\\') (h : 0x20 ≤ c.toNat)
    (hlt : c.toNat < 0x7F) : escapeChar q c = [c] := by
  have hprintable : isPrintable c := by simp [isPrintable, hlt, h]
  have hne (d : Char) (hd : d.toNat < 0x20) : c ≠ d := by rintro rfl; omega
  simp [escapeChar, hq, hslash, hprintable, hne '\n' (by decide), hne '\r' (by decide),
    hne '\t' (by decide)]

/-- The quotes. -/
def IsQuote (q : Char) : Prop :=
  q = '\'' ∨ q = '"'

theorem IsQuote.isPlain (h : IsQuote q) : IsPlain q := by
  rcases h with rfl | rfl <;> exact ⟨by decide, by decide, by decide⟩

theorem isQuote_quoteFor (cs : List Char) : IsQuote (quoteFor cs) := by
  rw [quoteFor]
  split
  · exact .inr rfl
  · exact .inl rfl

end Text

namespace Markup

open Text

variable {q c : Char} {cs rest body passed : List Char} {slashes : Nat}

/-- What may start a tag is written as it is. -/
theorem escapeChar_of_startsTag (hq : IsQuote q) (hc : startsTag c) : escapeChar q c = [c] := by
  have hslash : c ≠ '\\' := by rintro rfl; cases hc
  have hquote : c ≠ q := by
    rintro rfl
    rcases hq with rfl | rfl <;> cases hc
  have hcode : 0x20 ≤ c.toNat ∧ c.toNat < 0x7F := by
    simp only [startsTag, Bool.or_eq_true, Bool.and_eq_true, decide_eq_true_eq, beq_iff_eq] at hc
    rcases hc with ((⟨ha, hz⟩ | rfl) | rfl) | rfl
    · have hlow : 'a'.toNat ≤ c.toNat := ha
      have hhigh : c.toNat ≤ 'z'.toNat := hz
      exact ⟨(by decide : 0x20 ≤ 'a'.toNat).trans hlow, hhigh.trans_lt (by decide)⟩
    all_goals decide
  exact escapeChar_of_toNat_lt hquote hslash hcode.1 hcode.2

/-- A bracket is written as it is. -/
theorem escapeChar_bracket (hq : IsQuote q) (hc : c = '[' ∨ c = ']') : escapeChar q c = [c] := by
  have hquote : c ≠ q := by
    rcases hc with rfl | rfl <;> rcases hq with rfl | rfl <;> decide
  rcases hc with rfl | rfl <;>
    exact escapeChar_of_toNat_lt hquote (by decide) (by decide) (by decide)

/-- No other character is written with a bracket. -/
theorem ne_bracket_of_mem_escapeChar (hq : IsQuote q) (hopen : c ≠ '[') (hclose : c ≠ ']') :
    ∀ e ∈ escapeChar q c, e ≠ ']' ∧ e ≠ '[' := by
  by_cases hslash : c = '\\'
  · rw [hslash, escapeChar_slash]
    simp
  · rcases escapeChar_cases hq.isPlain hslash with h | ⟨d, ds, h, hplain⟩
    · rw [h]
      simpa using ⟨hclose, hopen⟩
    · rw [h]
      exact List.forall_mem_cons.2
        ⟨by decide, fun e he ↦ ⟨(hplain e he).closing, (hplain e he).opening⟩⟩

/-! ### Brackets between quotes -/

/-- A text as it is written between quotes. -/
def quotedBody (q : Char) (cs : List Char) : List Char :=
  cs.flatMap (escapeChar q)

theorem quotedBody_append (q : Char) (cs ds : List Char) :
    quotedBody q (cs ++ ds) = quotedBody q cs ++ quotedBody q ds :=
  List.flatMap_append

theorem quotedBody_cons_append (q c : Char) (cs rest : List Char) :
    quotedBody q (c :: cs) ++ rest = escapeChar q c ++ (quotedBody q cs ++ rest) := by
  rw [quotedBody, List.flatMap_cons, List.append_assoc]
  rfl

/-- The next closing bracket stays the same. -/
theorem upToClose?_quotedBody (hq : IsQuote q) (h : upToClose? rest = none) (cs : List Char) :
    upToClose? (quotedBody q cs ++ rest) = (upToClose? cs).map (quotedBody q) := by
  induction cs with
  | nil => exact h
  | cons c cs ih =>
    rw [quotedBody_cons_append, upToClose?]
    by_cases hclose : c = ']'
    · rw [escapeChar_bracket hq (.inr hclose), if_pos hclose, hclose]
      rfl
    · by_cases hopen : c = '['
      · rw [escapeChar_bracket hq (.inl hopen), if_neg hclose, if_pos hopen, hopen]
        rfl
      · rw [upToClose?_append_of_forall (ne_bracket_of_mem_escapeChar hq hopen hclose), ih,
          if_neg hclose, if_neg hopen, Option.map_map, Option.map_map]
        rfl

/-- A bracket opens a tag between quotes exactly if it does so in the text. -/
theorem tagBody?_quotedBody (hq : IsQuote q) (h : upToClose? rest = none) (cs : List Char) :
    tagBody? (quotedBody q cs ++ rest) = (tagBody? cs).map (quotedBody q) := by
  cases cs with
  | nil => exact tagBody?_eq_none h
  | cons c cs =>
    rw [quotedBody_cons_append, tagBody?]
    by_cases hstart : startsTag c
    · rw [escapeChar_of_startsTag hq hstart, if_pos hstart, List.singleton_append, tagBody?,
        if_pos hstart, upToClose?_quotedBody hq h, Option.map_map, Option.map_map]
      simp [Function.comp_def, quotedBody, escapeChar_of_startsTag hq hstart]
    · -- Neither the character nor a backslash in front of it can start a tag.
      rw [if_neg hstart, Option.map_none]
      by_cases hslash : c = '\\'
      · rw [hslash, escapeChar_slash]
        rfl
      · rcases escapeChar_cases hq.isPlain hslash with h | ⟨d, ds, h, -⟩
        · rw [h, List.singleton_append, tagBody?, if_neg hstart]
        · rw [h]
          rfl

/-- Quoting puts no bracket in front, and takes none away there. -/
theorem head?_quotedBody (hq : IsQuote q) (cs : List Char) :
    (quotedBody q cs ++ [q]).head? = some '[' ↔ cs.head? = some '[' := by
  cases cs with
  | nil => rcases hq with rfl | rfl <;> decide
  | cons c cs =>
    rw [quotedBody_cons_append, List.head?_cons]
    by_cases hslash : c = '\\'
    · simp [hslash, escapeChar_slash]
    · rcases escapeChar_cases hq.isPlain hslash with h | ⟨d, ds, h, -⟩
      · rw [h]
        rfl
      · have hopen : c ≠ '[' := by
          rintro rfl
          rw [escapeChar_bracket hq (.inl rfl)] at h
          cases h
        simp [h, hopen]

theorem upToClose?_quote (hq : IsQuote q) : upToClose? [q] = none := by
  rcases hq with rfl | rfl <;> rfl

/-- Between quotes no tag comes up. -/
theorem isTagFree_quotedBody (hq : IsQuote q) (h : IsTagFree cs) :
    IsTagFree (quotedBody q cs ++ [q]) := by
  induction cs with
  | nil => exact isTagFree_of_not_mem fun hmem ↦
      hq.isPlain.opening (List.mem_singleton.1 hmem).symm
  | cons c cs ih =>
    obtain ⟨hc, hcs⟩ := isTagFree_cons.1 h
    rw [quotedBody_cons_append]
    by_cases hopen : c = '['
    · rw [escapeChar_bracket hq (.inl hopen), List.singleton_append, isTagFree_cons,
        tagBody?_quotedBody hq (upToClose?_quote hq), hc hopen]
      exact ⟨fun _ ↦ rfl, ih hcs⟩
    · have hmem : '[' ∉ escapeChar q c := by
        by_cases hclose : c = ']'
        · rw [escapeChar_bracket hq (.inr hclose), hclose]
          decide
        · exact fun hmem ↦ (ne_bracket_of_mem_escapeChar hq hopen hclose _ hmem).2 rfl
      exact isTagFree_append_of_not_mem hmem (ih hcs)

/-- Between quotes a text is inert exactly if it is inert alone. -/
theorem isInert_quotedBody (hq : IsQuote q) (cs : List Char) :
    IsInert (quotedBody q cs ++ [q]) ↔ IsInert cs := by
  induction cs with
  | nil =>
    refine iff_of_true (isInert_of_not_mem ?_) isInert_nil
    rcases hq with rfl | rfl <;> decide
  | cons c cs ih =>
    have hcons : IsInert (c :: cs) ↔ _ := isInert_cons
    rw [quotedBody_cons_append, hcons]
    -- a backslash is doubled, and other characters are kept or become plain ones behind a backslash
    by_cases hslash : c = '\\'
    · rw [hslash, escapeChar_slash, List.cons_append, isInert_cons, List.singleton_append,
        isInert_cons, ih]
      simp only [ne_eq, head?_quotedBody hq]
      simp
    · rcases escapeChar_cases hq.isPlain hslash with h | ⟨d, ds, h, hplain⟩
      · rw [h, List.singleton_append, isInert_cons, tagBody?_quotedBody hq (upToClose?_quote hq),
          Option.map_eq_none_iff, ih]
        simp [hslash]
      · have hopen : c ≠ '[' := by
          rintro rfl
          rw [escapeChar_bracket hq (.inl rfl)] at h
          cases h
        rw [h, List.cons_append, isInert_cons,
          isInert_append_of_forall fun e he ↦ ⟨(hplain e he).slash, (hplain e he).opening⟩, ih]
        simp [hslash, hopen, (hplain d List.mem_cons_self).opening]

/-! ### Escaping before quoting -/

theorem quotedBody_cons (q c : Char) (cs : List Char) :
    quotedBody q (c :: cs) = escapeChar q c ++ quotedBody q cs :=
  List.flatMap_cons

/-- Every backslash is written as two. -/
theorem quotedBody_backslashes (q : Char) (n : Nat) :
    quotedBody q (backslashes n) = backslashes (2 * n) := by
  induction n with
  | zero => rfl
  | succ n ih =>
    have hcons : backslashes (n + 1) = '\\' :: backslashes n := List.replicate_succ
    have hcons' : backslashes (2 * (n + 1)) = '\\' :: '\\' :: backslashes (2 * n) := rfl
    rw [hcons, quotedBody_cons, escapeChar_slash, ih, hcons']
    rfl

/-- Quoting neither adds nor takes away brackets. -/
theorem weight_quotedBody (hq : IsQuote q) (cs : List Char) :
    weight 0 (quotedBody q cs) = weight 0 cs := by
  have hchar (c : Char) : weight 0 (escapeChar q c) = weight 0 [c] := by
    by_cases hbracket : c = '[' ∨ c = ']'
    · rw [escapeChar_bracket hq hbracket]
    · obtain ⟨hopen, hclose⟩ := not_or.1 hbracket
      have hmem : '[' ∉ escapeChar q c := fun h ↦
        (ne_bracket_of_mem_escapeChar hq hopen hclose _ h).2 rfl
      simp [weight, List.count_eq_zero_of_not_mem hmem, hopen]
  induction cs with
  | nil => rfl
  | cons c cs ih => rw [quotedBody_cons, weight_append, hchar, ih, ← weight_append,
      List.singleton_append]

/-- Escaping neither adds nor takes away brackets. -/
theorem weight_escapeFrom (slashes : Nat) (cs : List Char) :
    weight 0 (escapeFrom slashes cs) = weight 0 cs := by
  fun_induction escapeFrom slashes cs with
  | case1 => rfl
  | case2 slashes cs ih => rw [weight_slash, weight_slash, ih]
  | case3 slashes c cs _ htag ih =>
    rw [htag.1, weight_append, ← backslashes, weight_backslashes, weight_bracket, weight_bracket,
      ih, Nat.zero_mul, Nat.zero_add]
  | case4 slashes c cs _ _ ih =>
    have hcons (cs : List Char) : weight 0 (c :: cs) = weight 0 [c] + weight 0 cs :=
      weight_append 0 [c] cs
    rw [hcons, ih, ← hcons]

/-- What stands for another character between quotes is passed. -/
theorem exists_piecesFrom_escapeChar (hq : IsQuote q) (hslash : c ≠ '\\') (hopen : c ≠ '[')
    (passed : List Char) (slashes : Nat) :
    ∃ passed', weight 0 passed' = weight 0 passed ∧
      ∀ rest, piecesFrom passed slashes (escapeChar q c ++ rest) = piecesFrom passed' 0 rest := by
  rcases escapeChar_cases hq.isPlain hslash with h | ⟨d, ds, h, hplain⟩
  · refine ⟨c :: backslashes slashes ++ passed, ?_, fun rest ↦ ?_⟩
    · rw [List.cons_append, weight_other 0 hslash hopen, weight_append, weight_backslashes]
      omega
    · rw [h, List.singleton_append, piecesFrom_other hslash hopen]
  · obtain ⟨hd, hds⟩ := List.forall_mem_cons.1 hplain
    have hfront : ∀ e ∈ ds, e ≠ '\\' ∧ e ≠ '[' := fun e he ↦ ⟨(hds e he).slash, (hds e he).opening⟩
    refine ⟨ds.reverse ++ (d :: backslashes (slashes + 1) ++ passed), ?_, fun rest ↦ ?_⟩
    · rw [weight_append, weight_reverse, weight_eq_zero_of_forall hfront, List.cons_append,
        weight_other 0 hd.slash hd.opening, weight_append, weight_backslashes]
      omega
    · rw [h, List.cons_append, piecesFrom_slash, List.cons_append,
        piecesFrom_other hd.slash hd.opening, piecesFrom_append_of_forall hfront]

/-- Quoting doubles the backslashes that escaping puts in front of a tag, so that the tag is one
again. -/
theorem weight_charsOf_quotedBody_lt (hq : IsQuote q) (hrest : upToClose? rest = none)
    (h : ¬IsTagFree cs) (passed : List Char) (slashes : Nat) :
    weight 0 (charsOf (piecesFrom passed (2 * slashes)
        (quotedBody q (escapeFrom slashes cs) ++ rest))) <
      weight 0 passed + (weight 0 cs + weight 0 rest) := by
  have hweight (cs : List Char) :
      weight 0 (quotedBody q (escapeFrom 0 cs) ++ rest) = weight 0 cs + weight 0 rest := by
    rw [weight_append, weight_quotedBody hq, weight_escapeFrom]
  have htagBody (cs : List Char) : tagBody? (quotedBody q (escapeFrom 0 cs) ++ rest) =
      (tagBody? cs).map (quotedBody q) := by
    have hescape := tagBody?_escapeFrom_append (rfl : upToClose? [] = none) cs
    rw [List.append_nil] at hescape
    rw [tagBody?_quotedBody hq hrest, hescape]
  fun_induction escapeFrom slashes cs generalizing passed with
  | case1 => exact absurd isTagFree_nil h
  | case2 slashes cs ih =>
    have hcs : ¬IsTagFree cs := fun hcs ↦ h hcs.slash
    rw [quotedBody_cons_append, escapeChar_slash, List.cons_append, piecesFrom_slash,
      List.singleton_append, piecesFrom_slash, weight_slash, Nat.zero_add]
    exact ih hcs passed
  | case3 slashes c cs _ htag ih =>
    obtain ⟨rfl, hsome⟩ := htag
    obtain ⟨body, hbody⟩ := Option.isSome_iff_exists.1 hsome
    have hlive := htagBody cs
    rw [hbody, Option.map_some] at hlive
    -- Escaping puts in one backslash more than there are. Twice an odd number is even.
    rw [← backslashes, quotedBody_append, quotedBody_backslashes, List.append_assoc,
      quotedBody_cons_append, escapeChar_bracket hq (.inl rfl), List.singleton_append,
      piecesFrom_backslashes]
    have hlt := weight_charsOf_lt hlive (by omega : (2 * slashes + 2 * (slashes + 1)) % 2 = 0) 0
      passed
    rw [weight_bracket, hweight] at hlt
    rw [weight_bracket]
    omega
  | case4 slashes c cs hslash hnotag ih =>
    by_cases hopen : c = '['
    · subst hopen
      have hnone : tagBody? cs = none := by
        by_contra hsome
        exact hnotag ⟨rfl, Option.isSome_iff_ne_none.2 hsome⟩
      have hcs : ¬IsTagFree cs := fun hcs ↦ h (isTagFree_cons.2 ⟨fun _ ↦ hnone, hcs⟩)
      have hlt := ih hcs ('[' :: backslashes (2 * slashes - 1) ++ passed)
      rw [quotedBody_cons_append, escapeChar_bracket hq (.inl rfl), List.singleton_append,
        piecesFrom_bracket (by rw [htagBody, hnone]; rfl)]
      rw [Nat.mul_zero, List.cons_append, weight_bracket, weight_append, weight_backslashes] at hlt
      rw [List.cons_append, weight_bracket]
      omega
    · have hcs : ¬IsTagFree cs := fun hcs ↦ h (isTagFree_cons.2 ⟨fun hc ↦ absurd hc hopen, hcs⟩)
      obtain ⟨passed', hpassed, hpieces⟩ :=
        exists_piecesFrom_escapeChar hq hslash hopen passed (2 * slashes)
      rw [quotedBody_cons_append, hpieces, weight_other 0 hslash hopen, ← hpassed]
      exact ih hcs passed'

/-- Escaping adds backslashes and nothing else. -/
theorem mem_escapeFrom (hslash : c ≠ '\\') (slashes : Nat) :
    c ∈ escapeFrom slashes cs ↔ c ∈ cs := by
  fun_induction escapeFrom slashes cs with
  | case1 => rfl
  | case2 slashes cs ih => rw [List.mem_cons, List.mem_cons, ih]
  | case3 slashes d cs _ _ ih =>
    simp [ih, hslash]
  | case4 slashes d cs _ _ ih => rw [List.mem_cons, List.mem_cons, ih]

theorem mem_escape {s : String} (hslash : c ≠ '\\') : c ∈ (escape s).toList ↔ c ∈ s.toList := by
  obtain ⟨n, hescape⟩ := exists_toList_escape s
  simp [hescape, mem_escapeFrom hslash, backslashes, hslash]

/-- Escaping does not change which quotes are put around a text. -/
theorem quoteFor_escape (s : String) : quoteFor (escape s).toList = quoteFor s.toList := by
  simp [quoteFor, mem_escape]

theorem toList_quoted (s : String) :
    (quoted s).toList = quoteFor s.toList :: (quotedBody (quoteFor s.toList) s.toList ++
      [quoteFor s.toList]) := by
  simp [quoted, quotedBody]

/-- A text that is escaped and then quoted does not show what the text itself shows between quotes,
if a bracket opens a tag in it. -/
theorem isTagFree_of_charsOf_eq (hq : IsQuote q) {front : List Char}
    (hfront : ∀ c ∈ front, c ≠ '\\' ∧ c ≠ '[') {s : String}
    (h : charsOf (piecesFrom [] 0 (front ++ q :: (quotedBody q (escape s).toList ++ [q]))) =
      front ++ q :: (quotedBody q s.toList ++ [q])) : IsTagFree s.toList := by
  by_contra hs
  obtain ⟨n, hescape⟩ := exists_toList_escape s
  have hslash := hq.isPlain.slash
  have hopen := hq.isPlain.opening
  have hpassed : weight 0 (q :: front.reverse) = 0 := by
    rw [weight_other 0 hslash hopen, weight_reverse, weight_eq_zero_of_forall hfront]
  have hquoted : weight 0 (front ++ q :: (quotedBody q s.toList ++ [q])) = weight 0 s.toList := by
    rw [weight_append, weight_eq_zero_of_forall hfront, weight_other 0 hslash hopen, weight_append,
      weight_quotedBody hq, weight_other 0 hslash hopen, weight_nil, Nat.zero_add, Nat.add_zero]
  have hlt := weight_charsOf_quotedBody_lt hq
    (upToClose?_backslashes (upToClose?_quote hq) (2 * n)) hs (q :: front.reverse) 0
  have heq := congrArg (weight 0) h
  rw [piecesFrom_append_of_forall hfront, piecesFrom_other hslash hopen, hescape, quotedBody_append,
    quotedBody_backslashes, List.append_nil, List.append_assoc, hquoted] at heq
  rw [Nat.mul_zero, hpassed, weight_append, weight_backslashes, weight_other 0 hslash hopen,
    weight_nil, Nat.zero_mul, Nat.zero_add] at hlt
  exact hlt.ne heq

/-- A text that does not end in a backslash does not do so between quotes, as escapes end in plain
characters. -/
theorem getLast?_quotedBody (hq : IsQuote q) (h : cs.getLast? ≠ some '\\') :
    (quotedBody q cs).getLast? ≠ some '\\' := by
  rcases List.eq_nil_or_concat cs with rfl | ⟨init, c, rfl⟩
  · nofun
  · have hc : c ≠ '\\' := by
      rintro rfl
      simp at h
    rw [List.concat_eq_append, quotedBody_append]
    rcases escapeChar_cases hq.isPlain hc with h | ⟨d, ds, h, hplain⟩
    · simp [quotedBody, h, hc]
    · obtain ⟨last, hlast⟩ : ∃ last, (d :: ds).getLast? = some last :=
        Option.isSome_iff_exists.1 (by simp)
      have hplain := hplain last (List.mem_of_getLast? hlast)
      simp [quotedBody, h, List.getLast?_cons, hlast, hplain.slash] at hlast ⊢

/-- A text between quotes that keeps all its characters does not end in a backslash alone, since
escaping adds another one. -/
theorem not_endsAlone_of_charsOf_eq (hq : IsQuote q) {front : List Char}
    (h : charsOf (piecesFrom [] 0 (front ++ q :: (quotedBody q (cs ++ ['\\']) ++ [q]))) =
      front ++ q :: (quotedBody q cs ++ [q])) : ¬EndsAlone cs := by
  rintro ⟨init, rfl, hinit⟩
  obtain ⟨ps, passed, slashes, hps⟩ :=
    exists_piecesFrom_append [] 0 (front ++ q :: quotedBody q init)
  have hsource : front ++ q :: (quotedBody q (init ++ ['\\'] ++ ['\\']) ++ [q]) =
      front ++ q :: quotedBody q init ++ (backslashes 4 ++ [q]) := by
    simp [quotedBody, escapeChar_slash, backslashes]
  have hslashes : (backslashes (slashes + 4)).reverse =
      backslashes (slashes + 2) ++ ['\\', '\\'] := by
    rw [backslashes, List.reverse_replicate]
    exact List.replicate_add (slashes + 2) 2 '\\'
  have hleft : charsOf (piecesFrom [] 0
      (front ++ q :: quotedBody q init ++ (backslashes 4 ++ [q]))) =
      (charsOf ps ++ passed.reverse ++ backslashes (slashes + 2)) ++ ['\\', '\\', q] := by
    rw [hps _ (upToClose?_backslashes (upToClose?_quote hq) 4), piecesFrom_backslashes,
      piecesFrom_other hq.isPlain.slash hq.isPlain.opening, piecesFrom_nil, charsOf_append]
    simp [charsOf, Piece.chars, hslashes]
    rfl
  have hright : front ++ q :: (quotedBody q (init ++ ['\\']) ++ [q]) =
      (front ++ q :: quotedBody q init) ++ ['\\', '\\', q] := by
    simp [quotedBody, escapeChar_slash]
  rw [hsource, hleft, hright] at h
  -- In front of the last quote there are more backslashes than there should be.
  have hlast : (front ++ q :: quotedBody q init).getLast? = some '\\' := by
    rw [← List.append_cancel_right h]
    simp [backslashes, List.replicate_succ']
  rw [List.getLast?_append, List.getLast?_cons] at hlast
  cases hbody : (quotedBody q init).getLast? with
  | none =>
    rw [hbody] at hlast
    exact hq.isPlain.slash (Option.some.inj hlast)
  | some d =>
    rw [hbody] at hlast
    exact getLast?_quotedBody hq hinit (hbody.trans hlast)

/-- A quoted text is inert exactly if it is inert alone. -/
theorem isInert_quoted (s : String) : IsInert (quoted s).toList ↔ IsInert s.toList := by
  have hq := isQuote_quoteFor s.toList
  rw [toList_quoted, ← List.singleton_append, isInert_append_of_forall, isInert_quotedBody hq]
  simpa using ⟨hq.isPlain.slash, hq.isPlain.opening⟩

/-- A quoted text without tags has none. -/
theorem isTagFree_quoted {s : String} (h : IsTagFree s.toList) : IsTagFree (quoted s).toList := by
  have hq := isQuote_quoteFor s.toList
  rw [toList_quoted]
  exact isTagFree_cons.2
    ⟨fun hopen ↦ absurd hopen hq.isPlain.opening, isTagFree_quotedBody hq h⟩

/-- A text without tags has none when it is escaped. -/
theorem isTagFree_escape {s : String} (h : IsTagFree s.toList) : IsTagFree (escape s).toList := by
  obtain ⟨n, hescape⟩ := exists_toList_escape s
  have hslashes : '[' ∉ backslashes n := fun hmem ↦
    absurd (List.eq_of_mem_replicate hmem) (by decide)
  rw [hescape, escapeFrom_of_isTagFree h]
  exact h.append (isTagFree_of_not_mem hslashes) (upToClose?_slashes n)

/-- A name that is escaped and then quoted shows the quoted name exactly if it is inert and does not
end in a single backslash. -/
theorem displays_quoted_iff {style : String} (h : IsPlainStyle style) {front : List Char}
    (hfront : ∀ c ∈ front, c ≠ '\\' ∧ c ≠ '[') {m : Markup} {s t : String}
    (hsource : m.source.toList = inStyle style (front ++ (quoted (escape s)).toList))
    (ht : t.toList = front ++ (quoted s).toList) :
    m.Displays t ↔ IsInert s.toList ∧ ¬EndsAlone s.toList := by
  have hq := isQuote_quoteFor s.toList
  have hlast : (front ++ (quoted s).toList).getLast? ≠ some '\\' := by
    rw [toList_quoted, ← List.cons_append, ← List.append_assoc, List.getLast?_concat]
    exact fun h ↦ hq.isPlain.slash (Option.some.inj h)
  -- Where nothing is escaped, it is only asked whether the quoted name is inert.
  have hself (hescape : escape s = s) : m.Displays t ↔ IsInert s.toList := by
    rw [hescape, ← List.append_nil (inStyle _ _)] at hsource
    rw [displays_iff h hsource (by rw [ht, List.append_nil]) nofun,
      isInert_append_of_forall hfront, isInert_quoted]
    exact ⟨fun h ↦ h.1, fun h ↦ ⟨h, hlast, isInert_nil⟩⟩
  constructor
  · intro hm
    have hchars := hm.chars
    rw [hsource, ← List.append_nil (inStyle _ _), h.charsOf_inStyle, piecesFrom_nil, ht,
      toList_quoted, toList_quoted, quoteFor_escape, ← List.cons_append, ← List.append_assoc,
      h.charsOf_other_closing hq.isPlain.slash hq.isPlain.opening (upToClose?_quote hq),
      List.append_assoc, List.cons_append] at hchars
    replace hchars := (List.append_nil _).symm.trans hchars
    have htagFree := isTagFree_of_charsOf_eq hq hfront hchars
    have hend : ¬EndsAlone s.toList := by
      intro hend
      rw [escape, escapeFrom_of_isTagFree htagFree, guardEnd_of_endsAlone hend,
        String.toList_ofList] at hchars
      exact not_endsAlone_of_charsOf_eq hq hchars hend
    exact ⟨(hself (escape_eq_self htagFree hend)).1 hm, hend⟩
  · rintro ⟨hinert, hend⟩
    exact (hself (escape_eq_self hinert.tagFree hend)).2 hinert

end Markup

end ChannelGraph
