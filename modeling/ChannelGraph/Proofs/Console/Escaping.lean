import ChannelGraph.Console.Block
import Mathlib.Data.List.Basic
import Mathlib.Data.List.TakeWhile

/-!
# Escaping and styles

Escaping looks at the brackets of a text as they are, reading at those of the whole markup, where
backslashes have been put in and a closing tag follows. What makes the two agree is that a bracket
in the text is closed in front of the next opening one or not at all: so backslashes in front of
opening brackets change nothing (`upToClose?_escapeFrom_append`), and neither does what follows,
unless it has a closing bracket in front of all opening ones (`upToClose?_append`). Hence a bracket
opens the same tag in escaped text as in the text (`tagBody?_escapeFrom_append`).

The styles in messages are words of small letters (`isPlainStyle_of_mem`). Their tags open and close
the style and nothing else (`IsPlainStyle.pass_tag`, `IsPlainStyle.pass_slash`), and text that has
been taken apart is added to what is shown (`foldlM_pass_texts`). Lines are refused only if they
cannot be cut, which happens to those that begin with joiners and have too few graphemes
(`eq_uncut_of_screenLines`).
-/

namespace ChannelGraph.Markup

open Console

variable {rest : List Char}

/-! ### Brackets in front of more -/

/-- Where the next closing bracket is does not change by what follows, unless that has one in front
of all opening ones. -/
theorem upToClose?_append (h : upToClose? rest = none) (cs : List Char) :
    upToClose? (cs ++ rest) = upToClose? cs := by
  induction cs with
  | nil => exact h
  | cons c cs ih => rw [List.cons_append, upToClose?, upToClose?, ih]

/-- Characters other than brackets are passed on the way to the next closing bracket. -/
theorem upToClose?_append_of_forall {body : List Char} (h : ∀ c ∈ body, c ≠ ']' ∧ c ≠ '[')
    (rest : List Char) : upToClose? (body ++ rest) = (upToClose? rest).map (body ++ ·) := by
  induction body with
  | nil => simp
  | cons c body ih =>
    obtain ⟨⟨hclose, hopen⟩, hbody⟩ := List.forall_mem_cons.1 h
    rw [List.cons_append, upToClose?, if_neg hclose, if_neg hopen, ih hbody, Option.map_map]
    rfl

/-- Backslashes are passed as well. -/
theorem upToClose?_backslashes (h : upToClose? rest = none) (n : Nat) :
    upToClose? (backslashes n ++ rest) = none := by
  have hslash : ∀ c ∈ backslashes n, c ≠ ']' ∧ c ≠ '[' := fun c hc ↦ by
    rw [List.eq_of_mem_replicate hc]
    decide
  rw [upToClose?_append_of_forall hslash, h, Option.map_none]

theorem upToClose?_slashes (n : Nat) : upToClose? (backslashes n) = none := by
  have h := upToClose?_backslashes (rfl : upToClose? [] = none) n
  rwa [List.append_nil] at h

/-- An opening bracket ends the search, with or without backslashes in front of it. -/
theorem upToClose?_bracket (n : Nat) (rest : List Char) :
    upToClose? (backslashes n ++ '[' :: rest) = none :=
  upToClose?_backslashes rfl n

/-- Where no closing bracket comes first, no tag is opened. -/
theorem tagBody?_eq_none (h : upToClose? rest = none) : tagBody? rest = none := by
  cases rest with
  | nil => rfl
  | cons c cs =>
    rw [tagBody?]
    split
    · rename_i hstart
      have hclose : c ≠ ']' := by rintro rfl; cases hstart
      have hopen : c ≠ '[' := by rintro rfl; cases hstart
      rw [upToClose?, if_neg hclose, if_neg hopen, Option.map_eq_none_iff] at h
      rw [h]
      rfl
    · rfl

/-- Whether a bracket opens a tag does not change by what follows, unless that has a closing bracket
in front of all opening ones. -/
theorem tagBody?_append (h : upToClose? rest = none) (cs : List Char) :
    tagBody? (cs ++ rest) = tagBody? cs := by
  cases cs with
  | nil => exact tagBody?_eq_none h
  | cons c cs => rw [List.cons_append, tagBody?, tagBody?, upToClose?_append h]

/-! ### Brackets behind escaped text -/

/-- Where the next closing bracket is does not change by escaping. -/
theorem upToClose?_escapeFrom_append (h : upToClose? rest = none) (slashes : Nat)
    (cs : List Char) : upToClose? (escapeFrom slashes cs ++ rest) = upToClose? cs := by
  fun_induction escapeFrom slashes cs with
  | case1 => exact h
  | case2 slashes cs ih => rw [List.cons_append, upToClose?, upToClose?, ih]
  | case3 slashes c cs _ htag ih =>
    -- The backslashes put in are passed on the way to the opening bracket, which ends the search.
    rw [htag.1, List.append_assoc, List.cons_append]
    exact (upToClose?_bracket _ _).trans (by rfl)
  | case4 slashes c cs _ _ ih => rw [List.cons_append, upToClose?, upToClose?, ih]

/-- A bracket opens the same tag in front of a text and in front of what escaping makes of it. -/
theorem tagBody?_escapeFrom_append (h : upToClose? rest = none) (cs : List Char) :
    tagBody? (escapeFrom 0 cs ++ rest) = tagBody? cs := by
  cases cs with
  | nil => exact tagBody?_eq_none h
  | cons c cs =>
    rw [escapeFrom]
    split
    · rename_i hc
      subst hc
      rfl
    · split
      · rename_i htag
        rw [htag.1]
        rfl
      · rw [List.cons_append, tagBody?, tagBody?, upToClose?_escapeFrom_append h]

/-- Nothing is escaped in front of the next bracket if that is a closing one. -/
theorem escapeFrom_of_upToClose? {cs body : List Char} (h : upToClose? cs = some body)
    (slashes : Nat) :
    escapeFrom slashes cs = body ++ ']' :: escapeFrom 0 (cs.drop (body.length + 1)) := by
  induction cs generalizing slashes body with
  | nil => cases h
  | cons c cs ih =>
    rw [upToClose?] at h
    split at h
    · rename_i hc
      cases h
      subst hc
      rfl
    · split at h
      · cases h
      · rename_i hclose hopen
        obtain ⟨body, hbody, rfl⟩ := Option.map_eq_some_iff.1 h
        simp only [escapeFrom, ih hbody, hopen, false_and, if_false, ite_self]
        rfl

/-- Nothing is escaped within a tag. -/
theorem escapeFrom_of_tagBody? {cs body : List Char} (h : tagBody? cs = some body) :
    escapeFrom 0 cs = body ++ ']' :: escapeFrom 0 (cs.drop (body.length + 1)) := by
  cases cs with
  | nil => cases h
  | cons c cs =>
    rw [tagBody?] at h
    split at h
    · rename_i hstart
      obtain ⟨body, hbody, rfl⟩ := Option.map_eq_some_iff.1 h
      have hslash : c ≠ '\\' := by rintro rfl; cases hstart
      have hopen : c ≠ '[' := by rintro rfl; cases hstart
      rw [escapeFrom, if_neg hslash, if_neg fun ht ↦ hopen ht.1, escapeFrom_of_upToClose? hbody]
      rfl
    · cases h

/-! ### Styles of one word -/

/-- The styles of one word in small letters that are called as they are written. -/
structure IsPlainStyle (style : String) : Prop where
  /-- There are small letters only. -/
  letters : ∀ c ∈ style.toList, 'a' ≤ c ∧ c ≤ 'z'
  /-- There are no blanks around them. -/
  trimmed : Text.trim Text.isBlank style.toList = style.toList
  /-- The style is called as it is written. -/
  nameOf : Style.nameOf style.toList = .ok style
  /-- The name can be read as a style, as far as numbers go. -/
  readable : Style.lacksNumber style.toList = false

/-- Nothing stands in parentheses where none is closed. -/
theorem between?_eq_none {cs : List Char} (h : ')' ∉ cs) (opening : List Char) :
    Color.between? opening [')'] cs = none := by
  refine if_neg fun hends ↦ h ?_
  obtain ⟨front, hfront⟩ := List.isSuffixOf_iff_suffix.1 hends.2
  exact List.mem_of_mem_drop (hfront ▸ List.mem_append_right front (List.mem_singleton_self _))

/-- A word of small letters is a colour or not, but it is no colour without numbers. -/
theorem read_color_of_letters {style : String} (hletters : ∀ c ∈ style.toList, 'a' ≤ c ∧ c ≤ 'z')
    (hlower : Text.lowerCase style.toList = style.toList) :
    Color.read style.toList = .ok style ∨ Color.read style.toList = .error .unreadable := by
  have hclose : ')' ∉ style.toList := fun h ↦ absurd (hletters _ h) (by decide)
  have hhash : '#' ∉ style.toList := fun h ↦ absurd (hletters _ h) (by decide)
  simp only [Color.read, hlower, between?_eq_none hclose]
  by_cases hname : style.toList ∈ Color.names
  · left
    rw [if_pos hname, Except.map, String.ofList_toList]
  · right
    rw [if_neg hname]
    split
    · rename_i heq
      exact absurd (heq ▸ List.mem_cons_self) hhash
    · rfl

/-- A word of small letters that is written as the attribute it means, or that means none, is a
style that is called as it is written. -/
theorem isPlainStyle_of_letters {style : String}
    (hletters : ∀ c ∈ style.toList, 'a' ≤ c ∧ c ≤ 'z')
    (hlower : Text.lowerCase style.toList = style.toList)
    (hwords : Text.words style.toList = [style.toList])
    (htrim : Text.trim Text.isBlank style.toList = style.toList)
    (hattribute : ∀ a ∈ Attribute.ofWord? style, (Style.say {} a true).name = style)
    (hother : style ∉ ["none", "on", "not", "link"]) : IsPlainStyle style := by
  simp only [List.mem_cons, List.not_mem_nil, or_false, not_or] at hother
  obtain ⟨hnone, hon, hnot, hlink⟩ := hother
  have hname : style.toList ≠ "none".toList := fun h ↦ hnone (String.toList_injective h)
  have hread : Style.readWords {} (Text.words style.toList) =
      (Attribute.ofWord? style).elim
        ((Color.read style.toList).map fun color ↦ { color := some color })
        fun a ↦ .ok (Style.say {} a true) := by
    rw [hwords, Style.readWords, hlower, String.ofList_toList, if_neg hon, if_neg hnot,
      if_neg hlink]
    cases Attribute.ofWord? style with
    | some a => rfl
    | none => cases Color.read style.toList <;> rfl
  refine ⟨hletters, htrim, ?_, ?_⟩
  · rw [Style.nameOf, htrim, if_neg hname, hread, hlower, String.ofList_toList]
    cases ha : Attribute.ofWord? style with
    | some a => exact congrArg Except.ok (hattribute a ha)
    | none => rcases read_color_of_letters hletters hlower with h | h <;> rw [h] <;> rfl
  · rw [Style.lacksNumber, hread]
    cases Attribute.ofWord? style with
    | some a => rfl
    | none => rcases read_color_of_letters hletters hlower with h | h <;> rw [h] <;> rfl

/-- The styles that messages are written in. -/
def messageStyles : List String :=
  ["bold", "cyan", "dim", "green", "red", "yellow"]

/-- Messages are written in styles of one word. -/
theorem isPlainStyle_of_mem {style : String} (h : style ∈ messageStyles) : IsPlainStyle style := by
  have hall : ∀ style ∈ messageStyles,
      (style.toList.all fun c ↦ 'a' ≤ c && c ≤ 'z') = true ∧
        Text.lowerCase style.toList = style.toList ∧
          Text.words style.toList = [style.toList] ∧
            Text.trim Text.isBlank style.toList = style.toList ∧
              (∀ a ∈ Attribute.ofWord? style, (Style.say {} a true).name = style) ∧
                style ∉ ["none", "on", "not", "link"] := by
    decide +kernel
  obtain ⟨hletters, hlower, hwords, htrim, hattribute, hother⟩ := hall style h
  refine isPlainStyle_of_letters (fun c hc ↦ ?_) hlower hwords htrim hattribute hother
  simpa using List.all_eq_true.1 hletters c hc

/-! ### Tags of a style -/

/-- The first closing bracket is found behind characters other than brackets. -/
theorem upToClose?_append_close {body : List Char} (h : ∀ c ∈ body, c ≠ ']' ∧ c ≠ '[')
    (rest : List Char) : upToClose? (body ++ ']' :: rest) = some body := by
  rw [upToClose?_append_of_forall h, upToClose?, if_pos rfl, Option.map_some, List.append_nil]

namespace IsPlainStyle

variable {style : String} {c d : Char}

/-- A style has no characters other than small letters. -/
theorem ne_of_mem (h : IsPlainStyle style) (hc : c ∈ style.toList) (hd : ¬('a' ≤ d ∧ d ≤ 'z')) :
    c ≠ d := by
  rintro rfl
  exact hd (h.letters c hc)

/-- A style has a letter, since a text without any is called none. -/
theorem toList_ne_nil (h : IsPlainStyle style) : style.toList ≠ [] := by
  intro hnil
  have hname := h.nameOf
  rw [hnil] at hname
  cases hname
  exact absurd hnil (by decide)

/-- The tag of a style ends at its own bracket. -/
theorem upToClose?_eq (h : IsPlainStyle style) (rest : List Char) :
    upToClose? (style.toList ++ ']' :: rest) = some style.toList :=
  upToClose?_append_close
    (fun _ hc ↦ ⟨h.ne_of_mem hc (by decide), h.ne_of_mem hc (by decide)⟩) rest

/-- The tag that opens a style is a tag, whatever follows. -/
theorem tagBody?_eq (h : IsPlainStyle style) (rest : List Char) :
    tagBody? (style.toList ++ ']' :: rest) = some style.toList := by
  have hbody := h.upToClose?_eq rest
  cases hcs : style.toList with
  | nil => exact absurd hcs h.toList_ne_nil
  | cons c cs =>
    have hc : c ∈ style.toList := hcs ▸ List.mem_cons_self
    obtain ⟨ha, hz⟩ := h.letters c hc
    have hstart : startsTag c := by simp [startsTag, ha, hz]
    rw [hcs, List.cons_append, upToClose?, if_neg (h.ne_of_mem hc (by decide)),
      if_neg (h.ne_of_mem hc (by decide))] at hbody
    rw [List.cons_append, tagBody?, if_pos hstart]
    exact hbody

/-- The tag that closes a style is a tag, whatever follows. -/
theorem tagBody?_slash_eq (h : IsPlainStyle style) (rest : List Char) :
    tagBody? ('/' :: style.toList ++ ']' :: rest) = some ('/' :: style.toList) := by
  rw [List.cons_append, tagBody?, if_pos (by decide), h.upToClose?_eq]
  rfl

/-- Its tag opens a style where it stands. -/
theorem pass_tag (h : IsPlainStyle style) (r : Progress) :
    r.pass (.tag style.toList) =
      .ok { r with opened := ⟨style, none, r.text.length⟩ :: r.opened } := by
  have hequals : ∀ c ∈ style.toList, decide (c ≠ '=') :=
    fun c hc ↦ decide_eq_true (h.ne_of_mem hc (by decide))
  rw [Progress.pass, List.dropWhile_eq_nil_iff.2 hequals, List.takeWhile_eq_self_iff.2 hequals]
  unfold Progress.passTag
  split
  · rename_i hcs
    exact absurd (hcs ▸ List.mem_cons_self) fun hmem ↦ h.ne_of_mem hmem (by decide) rfl
  · rw [h.nameOf]

/-- The tag with a slash closes the style of this name. -/
theorem pass_slash_eq (h : IsPlainStyle style) (r : Progress) :
    r.pass (.tag ('/' :: style.toList)) = r.closeNamed style.toList := by
  have hequals : ∀ c ∈ '/' :: style.toList, decide (c ≠ '=') :=
    List.forall_mem_cons.2 ⟨by decide, fun c hc ↦ decide_eq_true (h.ne_of_mem hc (by decide))⟩
  rw [Progress.pass, List.dropWhile_eq_nil_iff.2 hequals, List.takeWhile_eq_self_iff.2 hequals]
  simp only [Progress.passTag, h.trimmed]
  split
  · rename_i hnil _
    exact absurd hnil h.toList_ne_nil
  · rename_i hnil _
    exact absurd hnil h.toList_ne_nil
  · rfl

/-- If the style was opened last, the characters since then are shown in it. -/
theorem pass_slash (h : IsPlainStyle style) {r : Progress} {start : Nat} {opened : List OpenTag}
    (hopened : r.opened = ⟨style, none, start⟩ :: opened) :
    r.pass (.tag ('/' :: style.toList)) = .ok { r with
      opened := opened
      spans := ⟨start, r.text.length, style.toList⟩ :: r.spans } := by
  have hevent : OpenTag.isEvent ⟨style, none, start⟩ = false := by
    refine beq_eq_false_iff_ne.2 fun hhead ↦ ?_
    exact h.ne_of_mem (List.mem_of_mem_head? hhead) (by decide) rfl
  rw [h.pass_slash_eq]
  simp [Progress.closeNamed, h.nameOf, hopened, Progress.finish, hevent, OpenTag.span]

/-- If no style is open, there is nothing to close. -/
theorem pass_slash_of_nil (h : IsPlainStyle style) {r : Progress} (hopened : r.opened = []) :
    r.pass (.tag ('/' :: style.toList)) = .error (.unmatched style) := by
  rw [h.pass_slash_eq]
  simp [Progress.closeNamed, h.nameOf, hopened]

end IsPlainStyle

/-- Pieces are passed one after the other. -/
theorem foldlM_pass_append {ps : List Piece} {r r' : Progress}
    (h : ps.foldlM Progress.pass r = .ok r') (qs : List Piece) :
    (ps ++ qs).foldlM Progress.pass r = qs.foldlM Progress.pass r' := by
  rw [List.foldlM_append, h]
  rfl

/-- Pieces of text add what they show to the text, each for itself, and change no styles. -/
theorem foldlM_pass_texts (texts : List (List Char)) (r : Progress) :
    (texts.map Piece.text).foldlM Progress.pass r =
      .ok { r with text := r.text ++ texts.flatMap shownText } := by
  induction texts generalizing r with
  | nil => simp [pure, Except.pure]
  | cons cs texts ih =>
    rw [List.map_cons, List.foldlM_cons, List.flatMap_cons, ← List.append_assoc]
    exact ih _

/-! ### Lines -/

/-- Lines are refused only if one of them cannot be cut. -/
theorem eq_uncut_of_screenLines {lines : List (List Char)} {f : Fault}
    (h : screenLines lines = .error f) : f = .uncut := by
  rw [screenLines] at h
  induction lines with
  | nil => cases h
  | cons l lines ih =>
    rw [List.mapM_cons] at h
    cases hcut : cutLine? screenWidth .fold l with
    | none =>
      rw [cutLine, hcut] at h
      cases h
      rfl
    | some cs =>
      rw [cutLine, hcut] at h
      cases hlines : lines.mapM fun l ↦ (cutLine screenWidth .fold l).map String.ofList with
      | error f' =>
        rw [hlines] at h
        cases h
        exact ih hlines
      | ok shown =>
        rw [hlines] at h
        cases h

end ChannelGraph.Markup
