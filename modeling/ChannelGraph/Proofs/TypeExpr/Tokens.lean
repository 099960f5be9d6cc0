import ChannelGraph.Proofs.Lists
import ChannelGraph.TypeExpr.Token
import Mathlib.Data.List.Basic
import Mathlib.Data.List.DropRight
import Mathlib.Data.List.Infix
import Mathlib.Data.List.TakeWhile

/-!
# Tokens that are written and read again

A token is read from its text, whatever comes behind it, unless the characters there would become
part of the token (`Token.EndsBefore`). So the tokens of a text can be written one after the other
in the customary spacing and read again (`Token.lexes_join`), with one exception: the spacing sets
no space behind dots, and three dots are one mark, so dots that run together are grouped anew
(`Token.regroup`). Where none do, the tokens stay as they are (`Token.DotsApart.regroup_eq`).

Texts are put together from pieces. `Token.Lexes` says which tokens a piece contributes, in front of
any text that begins with a closing bracket or with a space.
-/

namespace ChannelGraph

namespace Token

variable {s s' : String} {t : Token} {ts us : List Token} {c : Char} {cs r rest body : List Char}

/-! ### Single tokens -/

/-- The characters do not continue the token when they stand behind it. -/
def EndsBefore : Token → List Char → Prop
  | ident _, r => ∀ c ∈ r.head?, isIdentChar c = false
  | number _, r => ∀ c ∈ r.head?, c.isDigit = false
  | quoted _, _ => True
  | mark m, r => m = .dot → ¬['.', '.'] <+: r

/-- A token that is read from its text, in front of all characters that do not continue it. -/
def Solid (t : Token) : Prop :=
  ∀ r, t.EndsBefore r → ofChars? (t.text.toList ++ r) = some (t, r)

/-- A quoted text ends at its closing quote, whatever follows. -/
theorem closeString_append (h : closeString cs = some (body, rest)) (r : List Char) :
    closeString (body ++ r) = some (body, r) := by
  fun_induction closeString cs generalizing body rest with
  | case1 => cases h
  | case2 cs => cases h; simp [closeString]
  | case3 => cases h
  | case4 c cs hc ih =>
    obtain ⟨q, hq, heq⟩ := Option.map_eq_some_iff.1 h
    cases heq
    simp [closeString, hc, ih hq]
  | case5 => cases h
  | case6 c cs hquote hpair hc ih =>
    obtain ⟨q, hq, heq⟩ := Option.map_eq_some_iff.1 h
    cases heq
    simp [closeString, hc, ih hq]

/-- A quoted text and the rest make up the characters. -/
theorem eq_append_of_closeString (h : closeString cs = some (body, rest)) : cs = body ++ rest := by
  fun_induction closeString cs generalizing body rest with
  | case1 => cases h
  | case2 cs => cases h; rfl
  | case3 => cases h
  | case4 c cs hc ih =>
    obtain ⟨q, hq, heq⟩ := Option.map_eq_some_iff.1 h
    cases heq
    exact congrArg ('\\' :: c :: ·) (ih hq)
  | case5 => cases h
  | case6 c cs hquote hpair hc ih =>
    obtain ⟨q, hq, heq⟩ := Option.map_eq_some_iff.1 h
    cases heq
    exact congrArg (c :: ·) (ih hq)

/-- A raw text ends at its closing quote, whatever follows. -/
theorem closeRawString_append (h : closeRawString cs = some (body, rest)) (r : List Char) :
    closeRawString (body ++ r) = some (body, r) := by
  fun_induction closeRawString cs generalizing body rest with
  | case1 => cases h
  | case2 cs => cases h; simp [closeRawString]
  | case3 c cs hc ih =>
    obtain ⟨q, hq, heq⟩ := Option.map_eq_some_iff.1 h
    cases heq
    simp [closeRawString, hc, ih hq]

/-- A raw text and the rest make up the characters. -/
theorem eq_append_of_closeRawString (h : closeRawString cs = some (body, rest)) :
    cs = body ++ rest := by
  fun_induction closeRawString cs generalizing body rest with
  | case1 => cases h
  | case2 cs => cases h; rfl
  | case3 c cs hc ih =>
    obtain ⟨q, hq, heq⟩ := Option.map_eq_some_iff.1 h
    cases heq
    exact congrArg (c :: ·) (ih hq)

/-- A dot is a mark of its own unless two more follow. -/
theorem ofChars?_dot (h : ¬['.', '.'] <+: r) : Mark.ofChars? ('.' :: r) = some (.dot, r) := by
  match r with
  | [] => rfl
  | [c] => simp [Mark.ofChars?]
  | c :: d :: r =>
    unfold Mark.ofChars?
    split <;> simp_all

/-- Marks are read back from their texts, where what follows lets them end. -/
theorem solid_mark (m : Mark) : (mark m).Solid := by
  intro r hr
  cases m with
  | dot =>
    show (Mark.ofChars? ('.' :: r)).map _ = _
    rw [ofChars?_dot (hr rfl)]
    rfl
  | _ => rfl

/-- Every token that is read is solid. -/
theorem solid_of_ofChars? (h : ofChars? cs = some (t, rest)) : t.Solid := by
  -- the first character is kept, so the text of the token takes the same branch
  unfold ofChars? at h
  split at h
  · cases h
  rename_i c cs
  split at h
  · rename_i hstart
    cases h
    intro r hr
    have hbody : ∀ x ∈ cs.takeWhile isIdentChar, isIdentChar x := fun x ↦ List.mem_takeWhile_imp
    rw [text, String.toList_ofList, List.cons_append, ofChars?, if_pos hstart,
      takeWhile_append_of_head hbody hr, dropWhile_append_of_head hbody hr]
  rename_i hstart
  split at h
  · rename_i hdigit
    cases h
    intro r hr
    have hbody : ∀ x ∈ cs.takeWhile Char.isDigit, x.isDigit := fun x ↦ List.mem_takeWhile_imp
    rw [text, String.toList_ofList, List.cons_append, ofChars?, if_neg hstart, if_pos hdigit,
      takeWhile_append_of_head hbody hr, dropWhile_append_of_head hbody hr]
  rename_i hdigit
  split at h
  · rename_i hquote
    obtain ⟨q, hq, heq⟩ := Option.map_eq_some_iff.1 h
    cases heq
    intro r _
    rw [text, String.toList_ofList, List.cons_append, ofChars?, if_neg hstart, if_neg hdigit,
      if_pos hquote, closeString_append hq]
    rfl
  rename_i hquote
  split at h
  · rename_i hraw
    obtain ⟨q, hq, heq⟩ := Option.map_eq_some_iff.1 h
    cases heq
    intro r _
    rw [text, String.toList_ofList, List.cons_append, ofChars?, if_neg hstart, if_neg hdigit,
      if_neg hquote, if_pos hraw, closeRawString_append hq]
    rfl
  · obtain ⟨q, -, heq⟩ := Option.map_eq_some_iff.1 h
    cases heq
    exact solid_mark q.1

/-- A mark and the rest make up the characters, and the rest lets the mark end. -/
theorem eq_append_of_mark {m : Mark} (h : Mark.ofChars? cs = some (m, rest)) :
    cs = m.text.toList ++ rest ∧ (mark m).EndsBefore rest := by
  constructor
  · unfold Mark.ofChars? at h
    split at h <;> cases h
    all_goals rfl
  · rintro rfl
    unfold Mark.ofChars? at h
    split at h <;> try simp at h
    rename_i hne
    subst h
    rintro ⟨behind, rfl⟩
    exact hne behind rfl

/-- The first character that is left does not belong to those that were dropped. -/
theorem eq_false_of_head_dropWhile {p : Char → Bool} (h : c ∈ (cs.dropWhile p).head?) :
    p c = false := by
  rw [← List.find?_not_eq_head?_dropWhile] at h
  simpa using List.find?_some h

/-- A token is read up to where it ends. -/
theorem eq_append_of_ofChars? (h : ofChars? cs = some (t, rest)) :
    cs = t.text.toList ++ rest ∧ t.EndsBefore rest := by
  unfold ofChars? at h
  split at h
  · cases h
  rename_i c cs
  split at h
  · cases h
    refine ⟨?_, fun x hx ↦ eq_false_of_head_dropWhile hx⟩
    rw [text, String.toList_ofList, List.cons_append, List.takeWhile_append_dropWhile]
  split at h
  · cases h
    refine ⟨?_, fun x hx ↦ eq_false_of_head_dropWhile hx⟩
    rw [text, String.toList_ofList, List.cons_append, List.takeWhile_append_dropWhile]
  split at h
  · obtain ⟨q, hq, heq⟩ := Option.map_eq_some_iff.1 h
    cases heq
    refine ⟨?_, trivial⟩
    rw [text, String.toList_ofList, List.cons_append, ← eq_append_of_closeString hq]
  split at h
  · obtain ⟨q, hq, heq⟩ := Option.map_eq_some_iff.1 h
    cases heq
    refine ⟨?_, trivial⟩
    rw [text, String.toList_ofList, List.cons_append, ← eq_append_of_closeRawString hq]
  · obtain ⟨q, hq, heq⟩ := Option.map_eq_some_iff.1 h
    cases heq
    exact eq_append_of_mark hq

/-! ### Texts of several tokens -/

/-- White space has codes outside of those of letters, digits and marks. -/
theorem toNat_of_isBlank (h : Text.isBlank c) : c.toNat ≤ 0x20 ∨ 0x7F ≤ c.toNat := by
  simp only [Text.isBlank, Text.isWhite, Bool.or_eq_true, Bool.and_eq_true, decide_eq_true_eq,
    beq_iff_eq] at h
  omega

/-- The codes of letters lie close together. -/
theorem toNat_of_isIdentStart (h : isIdentStart c) : 0x41 ≤ c.toNat ∧ c.toNat ≤ 0x7A := by
  have hclasses : (decide (c.val ≥ 'A'.val ∧ c.val ≤ 'Z'.val) ||
      (decide (c.val ≥ 'a'.val) && decide (c.val ≤ 'z'.val)) || c == '_') = true := h
  simp only [Bool.or_eq_true, Bool.and_eq_true, decide_eq_true_eq, ge_iff_le,
    UInt32.le_iff_toNat_le, beq_iff_eq] at hclasses
  rcases hclasses with (⟨h₁, h₂⟩ | ⟨h₁, h₂⟩) | rfl
  · exact ⟨h₁, Nat.le_trans h₂ (by decide)⟩
  · exact ⟨Nat.le_trans (by decide) h₁, h₂⟩
  · decide

/-- The codes of digits lie next to each other. -/
theorem toNat_of_isDigit (h : c.isDigit) : 0x30 ≤ c.toNat ∧ c.toNat ≤ 0x39 := by
  simp only [Char.isDigit, Bool.and_eq_true, decide_eq_true_eq, ge_iff_le,
    UInt32.le_iff_toNat_le] at h
  exact h

/-- Tokens start with visible characters. -/
theorem toNat_of_ofChars? (h : ofChars? (c :: cs) = some (t, rest)) :
    0x20 < c.toNat ∧ c.toNat < 0x7F := by
  unfold ofChars? at h
  dsimp only at h
  split at h
  · rename_i hstart
    have := toNat_of_isIdentStart hstart
    omega
  split at h
  · rename_i hdigit
    have := toNat_of_isDigit hdigit
    omega
  split at h
  · rename_i hquote
    subst hquote
    decide
  split at h
  · rename_i hquote
    subst hquote
    decide
  · obtain ⟨q, hq, -⟩ := Option.map_eq_some_iff.1 h
    have hcases : c ∈ ['<', '.', '$', '*', '[', ']', '\x7b', '\x7d', '(', ')', ',', ';'] := by
      unfold Mark.ofChars? at hq
      split at hq <;> simp_all
    have hall : ['<', '.', '$', '*', '[', ']', '\x7b', '\x7d', '(', ')', ',', ';'].all
        fun x ↦ 0x20 < x.toNat && x.toNat < 0x7F := by
      decide
    simpa using List.all_eq_true.1 hall c hcases

/-- The tokens of a text begin with the one behind its leading white space. -/
theorem ofText_eq (cs : List Char) : ofText cs =
    match Text.trimLeft Text.isBlank cs with
    | [] => .ok []
    | c :: rest =>
      match ofChars? (c :: rest) with
      | none => .error c
      | some (t, behind) => (ofText behind).map (t :: ·) := by
  rw [ofText.eq_def]
  split
  · rename_i htrim
    rw [htrim]
  · rename_i htrim
    rw [htrim]
    dsimp only
    split
    · rename_i hnone
      rw [hnone]
    · rename_i hsome
      rw [hsome]

theorem ofText_nil : ofText [] = .ok [] := by
  rw [ofText_eq]
  rfl

/-- White space in front of a token is skipped. -/
theorem ofText_of_isBlank (h : Text.isBlank c) : ofText (c :: cs) = ofText cs := by
  rw [ofText_eq, ofText_eq cs]
  have htrim : Text.trimLeft Text.isBlank (c :: cs) = Text.trimLeft Text.isBlank cs :=
    List.dropWhile_cons_of_pos h
  rw [htrim]

/-- A token at the front of a text. -/
theorem ofText_append (ht : t.Solid) (hr : t.EndsBefore r) :
    ofText (t.text.toList ++ r) = (ofText r).map (t :: ·) := by
  have hread := ht r hr
  rw [ofText_eq]
  cases hcs : t.text.toList ++ r with
  | nil =>
    rw [hcs] at hread
    cases hread
  | cons c cs =>
    rw [hcs] at hread
    have hblank : ¬Text.isBlank c := by
      intro hblank
      have hvisible := toNat_of_ofChars? hread
      have hinvisible := toNat_of_isBlank hblank
      omega
    rw [show Text.trimLeft Text.isBlank (c :: cs) = c :: cs from
      List.dropWhile_cons_of_neg hblank]
    dsimp only
    rw [hread]

/-- All tokens of a text are read back from their own texts. -/
theorem solid_of_ofText (h : ofText cs = .ok ts) : ∀ t ∈ ts, t.Solid := by
  fun_induction ofText cs generalizing ts with
  | case1 =>
    cases h
    exact fun _ hmem ↦ nomatch hmem
  | case2 => cases h
  | case3 cs c rest _ t behind ht ih =>
    cases hbehind : ofText behind with
    | error c =>
      rw [hbehind] at h
      cases h
    | ok ts' =>
      rw [hbehind] at h
      cases h
      exact List.forall_mem_cons.2 ⟨solid_of_ofChars? ht, ih hbehind⟩

/-! ### Joined tokens -/

/-- Whether a token consists of dots. -/
def isDots : Token → Bool
  | mark .dot | mark .ellipsis => true
  | _ => false

/-- Only a dot and an ellipsis consist of dots. -/
theorem isDots_iff : t.isDots ↔ t = mark .dot ∨ t = mark .ellipsis := by
  unfold isDots
  split <;> simp_all

/-- The tokens that are read where tokens are written behind some dots, of which there are fewer
than three: no space is written behind dots, and three of them are one mark. -/
def regroupAfter (dots : Nat) : List Token → List Token
  | [] => List.replicate dots (mark .dot)
  | t :: ts =>
    if t = mark .ellipsis then t :: regroupAfter dots ts
    else if t = mark .dot then
      if dots < 2 then regroupAfter (dots + 1) ts else mark .ellipsis :: regroupAfter 0 ts
    else List.replicate dots (mark .dot) ++ t :: regroupAfter 0 ts

/-- The tokens that are read from the text of some tokens: dots that run together are grouped
anew. -/
def regroup (ts : List Token) : List Token :=
  regroupAfter 0 ts

/-- A token other than dots sets the dots in front of it apart from those behind. -/
theorem regroupAfter_cons (ht : t.isDots = false) (dots : Nat) (ts : List Token) :
    regroupAfter dots (t :: ts) = List.replicate dots (mark .dot) ++ t :: regroup ts := by
  rw [regroupAfter, if_neg, if_neg, regroup]
  all_goals
    rintro rfl
    cases ht

/-- A token without dots stays where it is. -/
theorem regroup_cons (ht : t.isDots = false) (ts : List Token) :
    regroup (t :: ts) = t :: regroup ts :=
  regroupAfter_cons ht 0 ts

/-- Tokens are regrouped on both sides of one that does not consist of dots. -/
theorem regroupAfter_append_cons (ht : t.isDots = false) (dots : Nat) (us ts : List Token) :
    regroupAfter dots (us ++ t :: ts) = regroupAfter dots us ++ t :: regroup ts := by
  fun_induction regroupAfter dots us with
  | case1 dots => exact regroupAfter_cons ht dots ts
  | case2 dots us ih => rw [List.cons_append, regroupAfter, if_pos rfl, ih, List.cons_append]
  | case3 dots us hdots _ ih =>
    rw [List.cons_append, regroupAfter, if_neg (by simp), if_pos rfl, if_pos hdots, ih]
  | case4 dots us hdots _ ih =>
    rw [List.cons_append, regroupAfter, if_neg (by simp), if_pos rfl, if_neg hdots, ih,
      List.cons_append]
  | case5 dots u us hellipsis hdot ih =>
    rw [List.cons_append, regroupAfter, if_neg hellipsis, if_neg hdot, ih, List.append_assoc,
      List.cons_append]

/-- What stands on both sides of a token without dots is regrouped by itself. -/
theorem regroup_append_cons (ht : t.isDots = false) (us ts : List Token) :
    regroup (us ++ t :: ts) = regroup us ++ t :: regroup ts :=
  regroupAfter_append_cons ht 0 us ts

/-- Regrouping brings in nothing but dots. -/
theorem mem_of_mem_regroupAfter {dots : Nat} (ht : t.isDots = false)
    (h : t ∈ regroupAfter dots ts) : t ∈ ts := by
  have hne : t ≠ mark .dot ∧ t ≠ mark .ellipsis := by
    constructor <;> rintro rfl <;> cases ht
  fun_induction regroupAfter dots ts with
  | case1 dots => exact absurd (List.eq_of_mem_replicate h) hne.1
  | case2 dots ts ih => exact List.mem_cons_of_mem _ (ih (List.mem_of_ne_of_mem hne.2 h))
  | case3 dots ts _ _ ih => exact List.mem_cons_of_mem _ (ih h)
  | case4 dots ts _ _ ih => exact List.mem_cons_of_mem _ (ih (List.mem_of_ne_of_mem hne.2 h))
  | case5 dots u ts _ _ ih =>
    rcases List.mem_append.1 h with hdots | hmem
    · exact absurd (List.eq_of_mem_replicate hdots) hne.1
    · rcases List.mem_cons.1 hmem with rfl | hmem
      · exact List.mem_cons_self
      · exact List.mem_cons_of_mem _ (ih hmem)

/-- Three dots that belong to several tokens do not stand together. -/
def DotsApart (ts : List Token) : Prop :=
  ¬[mark .dot, mark .ellipsis] <:+: ts ∧ ¬[mark .dot, mark .dot, mark .dot] <:+: ts

instance (ts : List Token) : Decidable (DotsApart ts) :=
  inferInstanceAs (Decidable (¬[mark .dot, mark .ellipsis] <:+: ts ∧
    ¬[mark .dot, mark .dot, mark .dot] <:+: ts))

/-- A part of tokens whose dots stand apart has the same property. -/
theorem DotsApart.part (h : DotsApart ts) (hus : us <:+: ts) : DotsApart us :=
  ⟨fun hdots ↦ h.1 (hdots.trans hus), fun hdots ↦ h.2 (hdots.trans hus)⟩

theorem replicate_append_cons {α : Type} (n : Nat) (a : α) (l : List α) :
    List.replicate n a ++ a :: l = List.replicate (n + 1) a ++ l := by
  rw [List.replicate_succ', List.append_assoc, List.singleton_append]

/-- Dots that stand apart are not put together. -/
theorem DotsApart.regroupAfter_eq {dots : Nat}
    (h : DotsApart (List.replicate dots (mark .dot) ++ ts)) (hdots : dots < 3) :
    regroupAfter dots ts = List.replicate dots (mark .dot) ++ ts := by
  fun_induction regroupAfter dots ts with
  | case1 dots => exact (List.append_nil _).symm
  | case2 dots ts ih =>
    obtain rfl | hpos := Nat.eq_zero_or_pos dots
    · rw [ih (h.part (List.suffix_cons _ _).isInfix) hdots]
      rfl
    · refine absurd ⟨List.replicate (dots - 1) (mark .dot), ts, ?_⟩ h.1
      have hlast := replicate_append_cons (dots - 1) (mark .dot) (mark .ellipsis :: ts)
      rw [Nat.sub_add_cancel hpos] at hlast
      rw [← hlast, List.append_assoc]
      rfl
  | case3 dots ts hlt _ ih =>
    rw [replicate_append_cons] at h ⊢
    exact ih h (Nat.succ_lt_succ hlt)
  | case4 dots ts hlt _ ih =>
    obtain rfl : dots = 2 := by omega
    exact absurd ⟨[], ts, rfl⟩ h.2
  | case5 dots t ts _ _ ih =>
    have hts : DotsApart ts := h.part ⟨List.replicate dots (mark .dot) ++ [t], [], by simp⟩
    rw [ih hts (by decide)]
    rfl

/-- Dots that do not run together stay as they are. -/
theorem DotsApart.regroup_eq (h : DotsApart ts) : regroup ts = ts := by
  have hnone : DotsApart (List.replicate 0 (mark .dot) ++ ts) := h
  exact hnone.regroupAfter_eq (by decide)

/-- Characters behind a type: none, or a closing bracket and more. -/
def EndsType (r : List Char) : Prop :=
  ∀ c ∈ r.head?, c = ']'

/-- Every token may end where the text ends. -/
theorem endsBefore_nil (t : Token) : t.EndsBefore [] := by
  cases t with
  | mark m => exact fun _ h ↦ nomatch List.prefix_nil.1 h
  | _ => simp [EndsBefore]

/-- A token that is read back from its text has one. -/
theorem Solid.text_ne_nil (ht : t.Solid) : t.text.toList ≠ [] := by
  intro hnil
  have hread := ht [] t.endsBefore_nil
  rw [hnil] at hread
  cases hread

/-- A token whose text begins with a dot is one dot or three. -/
theorem Solid.isDots_of_head (ht : t.Solid) (h : t.text.toList.head? = some '.') : t.isDots := by
  have hread := ht [] t.endsBefore_nil
  obtain ⟨cs, hcs⟩ := List.head?_eq_some_iff.1 h
  rw [hcs, List.append_nil] at hread
  have hmark : (Mark.ofChars? ('.' :: cs)).map (fun q ↦ (mark q.1, q.2)) = some (t, []) := hread
  obtain ⟨⟨m, behind⟩, -, heq⟩ := Option.map_eq_some_iff.1 hmark
  cases heq
  cases m <;> first | rfl | exact absurd h (by decide)

/-- Between two tokens there is a space where it is needed to tell them apart. -/
theorem toList_joinAfter_cons (t u : Token) (us : List Token) (r : List Char) :
    (joinAfter t (u :: us)).toList ++ r =
      (if needsSpace t u then [' '] else []) ++
        (u.text.toList ++ ((joinAfter u us).toList ++ r)) := by
  rw [joinAfter]
  split <;> simp

/-- What follows an identifier, a number or a quoted string does not continue an identifier: it
begins with a space or with a mark. -/
theorem isIdentChar_of_head_joinAfter (ht : ∀ m, t ≠ mark m) (hr : EndsType r)
    (hc : c ∈ ((joinAfter t ts).toList ++ r).head?) : isIdentChar c = false := by
  cases ts with
  | nil =>
    rw [hr c hc]
    decide
  | cons u us =>
    rw [toList_joinAfter_cons] at hc
    by_cases hspace : needsSpace t u
    · rw [if_pos hspace] at hc
      obtain rfl := Option.some.inj hc
      decide
    · rw [if_neg hspace] at hc
      cases u with
      | mark m =>
        have hhead : ∃ x xs, m.text.toList = x :: xs ∧ isIdentChar x = false := by
          cases m <;> exact ⟨_, _, rfl, by decide⟩
        obtain ⟨x, xs, hx, hxchar⟩ := hhead
        have htext : (mark m).text.toList = x :: xs := hx
        rw [htext] at hc
        obtain rfl := Option.some.inj hc
        exact hxchar
      | _ => exact absurd (by simp [needsSpace, ht]) hspace

/-- Only dots run into what follows them in the customary spacing. -/
theorem endsBefore_joinAfter (ht : t.isDots = false) (hr : EndsType r) :
    t.EndsBefore ((joinAfter t ts).toList ++ r) := by
  cases t with
  | ident s =>
    have hword : ∀ m, ident s ≠ mark m := fun _ h ↦ nomatch h
    exact fun c hc ↦ isIdentChar_of_head_joinAfter hword hr hc
  | number s =>
    have hword : ∀ m, number s ≠ mark m := fun _ h ↦ nomatch h
    exact fun c hc ↦ (Bool.or_eq_false_iff.1 (isIdentChar_of_head_joinAfter hword hr hc)).2
  | quoted s => exact trivial
  | mark m =>
    rintro rfl
    cases ht

/-- No space is put between dots. -/
theorem needsSpace_dots (ht : t.isDots) (hu : u.isDots) : needsSpace t u = false := by
  rcases isDots_iff.1 ht with rfl | rfl <;> rcases isDots_iff.1 hu with rfl | rfl <;> decide

/-- No space is needed in front of a dot. -/
theorem needsSpace_dot (t : Token) : needsSpace t (mark .dot) = false := by
  simp [needsSpace]

/-- A space between tokens is no token. -/
theorem ofText_space (b : Bool) (cs : List Char) :
    ofText ((if b then [' '] else []) ++ cs) = ofText cs := by
  cases b with
  | false => rfl
  | true => exact ofText_of_isBlank (c := ' ') (by decide)

/-- Three dots are one token. -/
theorem ofText_ellipsis (cs : List Char) :
    ofText ('.' :: '.' :: '.' :: cs) = (ofText cs).map (mark .ellipsis :: ·) :=
  ofText_append (solid_mark .ellipsis) fun h ↦ nomatch h

/-- Up to two dots in front of another character are read one by one. -/
theorem ofText_dots {dots : Nat} (hdots : dots < 3) (hcs : cs.head? ≠ some '.') :
    ofText (List.replicate dots '.' ++ cs) =
      (ofText cs).map (List.replicate dots (mark .dot) ++ ·) := by
  have hone : ofText ('.' :: cs) = (ofText cs).map (mark .dot :: ·) := by
    refine ofText_append (solid_mark .dot) fun _ ⟨behind, hbehind⟩ ↦ hcs ?_
    rw [← hbehind]
    rfl
  match dots, hdots with
  | 0, _ =>
    show ofText cs = _
    cases ofText cs <;> rfl
  | 1, _ => exact hone
  | 2, _ =>
    have htwo : ofText ('.' :: '.' :: cs) = (ofText ('.' :: cs)).map (mark .dot :: ·) := by
      refine ofText_append (solid_mark .dot) fun _ ⟨behind, hbehind⟩ ↦ hcs ?_
      rw [← (List.cons.inj hbehind).2]
      rfl
    show ofText ('.' :: '.' :: cs) = _
    rw [htwo, hone]
    cases ofText cs <;> rfl

/-- Tokens that are written behind a token, with dots at its end that are not read yet. -/
theorem ofText_joinAfter {dots : Nat} (hts : ∀ u ∈ ts, u.Solid) (hr : EndsType r)
    (hdots : dots < 3) (ht : dots = 0 ∨ t.isDots) :
    ofText (List.replicate dots '.' ++ ((joinAfter t ts).toList ++ r)) =
      (ofText r).map (regroupAfter dots ts ++ ·) := by
  -- dots are held back, as long as they may still become an ellipsis with those that follow
  fun_induction regroupAfter dots ts generalizing t with
  | case1 dots => exact ofText_dots hdots fun hdot ↦ absurd (hr '.' hdot) (by decide)
  | case2 dots ts ih =>
    obtain ⟨-, hts⟩ := List.forall_mem_cons.1 hts
    have hnext := ih (t := mark .ellipsis) hts hdots (.inr rfl)
    -- three dots are read from the front, and as many are held back as before
    have hread : ofText (List.replicate dots '.' ++
          ((joinAfter t (mark .ellipsis :: ts)).toList ++ r)) =
        ofText ('.' :: '.' :: '.' :: (List.replicate dots '.' ++
          ((joinAfter (mark .ellipsis) ts).toList ++ r))) := by
      rw [toList_joinAfter_cons]
      rcases ht with rfl | ht
      · exact ofText_space _ _
      · rw [needsSpace_dots ht rfl]
        match dots, hdots with
        | 0, _ | 1, _ | 2, _ => rfl
    rw [hread, ofText_ellipsis, hnext]
    cases ofText r <;> rfl
  | case3 dots ts hlt _ ih =>
    obtain ⟨-, hts⟩ := List.forall_mem_cons.1 hts
    have hnext := ih (t := mark .dot) hts (Nat.succ_lt_succ hlt) (.inr rfl)
    rw [toList_joinAfter_cons, needsSpace_dot, ← hnext, ← replicate_append_cons]
    rfl
  | case4 dots ts hlt _ ih =>
    obtain ⟨-, hts⟩ := List.forall_mem_cons.1 hts
    obtain rfl : dots = 2 := by omega
    rw [toList_joinAfter_cons, needsSpace_dot]
    have hnext : ofText ((joinAfter (mark .dot) ts).toList ++ r) = _ :=
      ih (t := mark .dot) hts (by decide) (.inl rfl)
    refine (ofText_ellipsis ((joinAfter (mark .dot) ts).toList ++ r)).trans ?_
    rw [hnext]
    cases ofText r <;> rfl
  | case5 dots u ts hellipsis hdot ih =>
    obtain ⟨hu, hts⟩ := List.forall_mem_cons.1 hts
    have hnone : u.isDots = false := by
      rw [← Bool.not_eq_true, isDots_iff]
      exact not_or.2 ⟨hdot, hellipsis⟩
    have hnext : ofText ((joinAfter u ts).toList ++ r) = _ :=
      ih (t := u) hts (by decide) (.inl rfl)
    have hread : ofText ((joinAfter t (u :: ts)).toList ++ r) =
        (ofText r).map (u :: regroupAfter 0 ts ++ ·) := by
      rw [toList_joinAfter_cons, ofText_space, ofText_append hu (endsBefore_joinAfter hnone hr),
        hnext]
      cases ofText r <;> rfl
    -- the next token brings no dots, so those held back stay single
    have hhead : ((joinAfter t (u :: ts)).toList ++ r).head? ≠ some '.' := by
      intro hhead
      rw [toList_joinAfter_cons] at hhead
      split at hhead
      · exact absurd (Option.some.inj hhead) (by decide)
      · obtain ⟨c, cs, hcs⟩ := List.exists_cons_of_ne_nil hu.text_ne_nil
        rw [hu.isDots_of_head (by simpa [hcs] using hhead)] at hnone
        cases hnone
    rw [ofText_dots hdots hhead, hread]
    cases ofText r <;> simp [Except.map]

/-- A text contributes tokens to every text that it begins and that goes on as behind a type. -/
def Lexes (s : String) (ts : List Token) : Prop :=
  ∀ r, EndsType r → ofText (s.toList ++ r) = (ofText r).map (ts ++ ·)

/-- A token that may end in front of a text may end in front of a longer one that goes on with a
closing bracket. -/
theorem EndsBefore.append (h : t.EndsBefore rest) (hr : EndsType r) :
    t.EndsBefore (rest ++ r) := by
  have hhead : ∀ c ∈ (rest ++ r).head?, c ∈ rest.head? ∨ c = ']' := by
    intro c hc
    cases rest with
    | nil => exact .inr (hr c hc)
    | cons d rest => exact .inl hc
  cases t with
  | ident s => exact fun c hc ↦ (hhead c hc).elim (h c) fun hclose ↦ hclose ▸ rfl
  | number s => exact fun c hc ↦ (hhead c hc).elim (h c) fun hclose ↦ hclose ▸ rfl
  | quoted s => exact trivial
  | mark m =>
    rintro hdot ⟨behind, hbehind⟩
    match rest, hbehind with
    | [], hbehind => exact absurd (hr '.' (by rw [← List.nil_append r, ← hbehind]; rfl)) (by decide)
    | [d], hbehind =>
      have hr' : r = '.' :: behind := ((List.cons.inj hbehind).2).symm
      exact absurd (hr '.' (by rw [hr']; rfl)) (by decide)
    | d :: d' :: rest, hbehind =>
      injection hbehind with hd hbehind
      injection hbehind with hd' _
      exact h hdot ⟨rest, by rw [← hd, ← hd']; rfl⟩

/-- Trimming goes on into what follows only where nothing is left. -/
theorem trimLeft_append (p : Char → Bool) (cs r : List Char) :
    Text.trimLeft p (cs ++ r) =
      if (Text.trimLeft p cs).isEmpty then Text.trimLeft p r else Text.trimLeft p cs ++ r :=
  List.dropWhile_append

/-- White space at the beginning does not change the tokens. -/
theorem ofText_trimLeft (cs : List Char) : ofText (Text.trimLeft Text.isBlank cs) = ofText cs := by
  have htrim : Text.trimLeft Text.isBlank (Text.trimLeft Text.isBlank cs) =
      Text.trimLeft Text.isBlank cs :=
    List.dropWhile_idempotent _ _
  rw [ofText_eq, htrim, ← ofText_eq]

/-- What can be read on its own can be read in front of a closing bracket. -/
theorem ofText_append_of_eq_ok (h : ofText cs = .ok ts) (hr : EndsType r) :
    ofText (cs ++ r) = (ofText r).map (ts ++ ·) := by
  fun_induction ofText cs generalizing ts with
  | case1 cs htrim =>
    -- nothing but white space, which is skipped together with that behind it
    cases h
    have hblank : Text.trimLeft Text.isBlank (cs ++ r) = Text.trimLeft Text.isBlank r := by
      rw [trimLeft_append, htrim]
      rfl
    rw [← ofText_trimLeft, hblank, ofText_trimLeft]
    cases ofText r <;> rfl
  | case2 => cases h
  | case3 cs c rest htrim t behind ht ih =>
    obtain ⟨hsplit, hends⟩ := eq_append_of_ofChars? ht
    have hskip : Text.trimLeft Text.isBlank (cs ++ r) = t.text.toList ++ (behind ++ r) := by
      rw [trimLeft_append, htrim, ← List.append_assoc, ← hsplit]
      rfl
    rw [← ofText_trimLeft, hskip, ofText_append (solid_of_ofChars? ht) (hends.append hr)]
    cases hbehind : ofText behind with
    | error c =>
      rw [hbehind] at h
      cases h
    | ok ts' =>
      rw [hbehind] at h
      cases h
      rw [ih hbehind]
      cases ofText r <;> rfl

/-- A text contributes the tokens that it has on its own. -/
theorem lexes_of_ofText (h : ofText s.toList = .ok ts) : Lexes s ts :=
  fun _ hr ↦ ofText_append_of_eq_ok h hr

/-- A text that is read with any rest behind it is read alone. -/
theorem Lexes.ofText_eq (h : Lexes s ts) : ofText s.toList = .ok ts := by
  have hnil := h [] fun _ hmem ↦ nomatch hmem
  rw [List.append_nil] at hnil
  rw [hnil, ofText_nil]
  exact congrArg Except.ok (List.append_nil ts)

/-- Behind a type there is nothing, or the tokens go on with a closing bracket. -/
theorem EndsType.eq_nil_or_exists (hr : EndsType r) (h : ofText r = .ok ts) :
    r = [] ∨ ∃ us, ts = mark .closeBracket :: us := by
  cases r with
  | nil => exact .inl rfl
  | cons c cs =>
    obtain rfl := hr c rfl
    have hread : ofText (']' :: cs) = (ofText cs).map (mark .closeBracket :: ·) :=
      ofText_append (solid_mark .closeBracket) fun h ↦ nomatch h
    rw [hread] at h
    cases hbehind : ofText cs with
    | error c =>
      rw [hbehind] at h
      cases h
    | ok us =>
      rw [hbehind] at h
      exact .inr ⟨us, (Except.ok.inj h).symm⟩

/-- A token in front of a text that does not continue it. -/
theorem Lexes.cons (h : Lexes s ts) (ht : t.Solid)
    (hends : ∀ r, EndsType r → t.EndsBefore (s.toList ++ r)) : Lexes (t.text ++ s) (t :: ts) := by
  intro r hr
  rw [String.toList_append, List.append_assoc, ofText_append ht (hends r hr), h r hr]
  cases ofText r <;> rfl

/-- A word, a number or a quoted string in front of a text that begins with another character. -/
theorem Lexes.word (h : Lexes s ts) (ht : t.Solid) (hword : ∀ m, t ≠ mark m)
    (hs : s.toList.head? = some c) (hc : isIdentChar c = false) :
    Lexes (t.text ++ s) (t :: ts) := by
  refine h.cons ht fun r _ ↦ ?_
  obtain ⟨cs, hcs⟩ := List.head?_eq_some_iff.1 hs
  rw [hcs]
  cases t with
  | ident s => exact fun x hx ↦ Option.some.inj hx ▸ hc
  | number s => exact fun x hx ↦ Option.some.inj hx ▸ (Bool.or_eq_false_iff.1 hc).2
  | quoted s => exact trivial
  | mark m => exact absurd rfl (hword m)

/-- A mark other than a dot is read in front of any text. -/
theorem Lexes.mark {m : Mark} (h : Lexes s ts) (hm : m ≠ .dot) :
    Lexes (m.text ++ s) (.mark m :: ts) :=
  h.cons (t := .mark m) (solid_mark m) fun _ _ hdot ↦ absurd hdot hm

/-- A space is skipped in front of any text, as it is no token. -/
theorem Lexes.space (h : Lexes s ts) : Lexes (" " ++ s) ts := by
  intro r hr
  rw [String.toList_append, ← h r hr]
  exact ofText_of_isBlank (c := ' ') (by decide)

/-- A text in front of a closing bracket. -/
theorem Lexes.bracket (hs : Lexes s ts) (hs' : Lexes s' us) :
    Lexes (s ++ ("]" ++ s')) (ts ++ .mark .closeBracket :: us) := by
  intro r hr
  have hbracket : EndsType (("]" ++ s').toList ++ r) := by
    rw [String.toList_append]
    exact fun c hc ↦ (Option.some.inj hc).symm
  have hbehind : Lexes ("]" ++ s') (.mark .closeBracket :: us) :=
    hs'.mark (m := .closeBracket) (by decide)
  rw [String.toList_append, List.append_assoc, hs _ hbracket, hbehind r hr]
  cases ofText r with
  | error c => rfl
  | ok us => exact congrArg Except.ok (List.append_assoc ..).symm

/-- Tokens in the customary spacing are read again, dots that run together being grouped anew. -/
theorem lexes_join (hts : ∀ t ∈ ts, t.Solid) : Lexes (join ts) (regroup ts) := by
  intro r hr
  cases ts with
  | nil =>
    show ofText r = _
    cases ofText r <;> rfl
  | cons t ts =>
    -- no space stands in front, but one there would not be seen
    have hspace : ofText ((join (t :: ts)).toList ++ r) =
        ofText ((joinAfter (mark .openBrace) (t :: ts)).toList ++ r) := by
      rw [toList_joinAfter_cons, ofText_space, join, String.toList_append, List.append_assoc]
    have hread : ofText (List.replicate 0 '.' ++
        ((joinAfter (mark .openBrace) (t :: ts)).toList ++ r)) = _ :=
      ofText_joinAfter hts hr (by decide) (.inl rfl)
    exact hspace.trans hread

end Token

end ChannelGraph
