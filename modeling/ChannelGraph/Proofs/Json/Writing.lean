import ChannelGraph.Proofs.Json.Numbers
import ChannelGraph.Proofs.Json.Readable

/-!
# Reading what was written

In every layout the text of a value is read as the value again (`ofText?_written`). Two things are
in the way of that. A text with too many digits in an integer, or nested too deep, is not read at
all, so the value has to be one that a reader could have returned (`Json.Readable`). And numbers
that are not finite have no text of their own: they come back as `null` (`Json.rendered`).
-/

namespace ChannelGraph

namespace Json

variable {depth level : Nat} {v : Json} {vs : List Json} {es : List (String × Json)}
  {s behind rest : List Char} {layout : Layout}

/-! ### Strings -/

/-- A control character is read from its number. -/
theorem escape?_hexDigits {c : Char} (hc : c.toNat < 0x20) (behind : List Char) :
    escape? ('u' :: (Text.hexDigits 4 c.toNat ++ behind)) = some (c, behind) := by
  obtain ⟨d₁, d₂, d₃, d₄, hdigits⟩ : ∃ d₁ d₂ d₃ d₄, Text.hexDigits 4 c.toNat = [d₁, d₂, d₃, d₄] :=
    ⟨_, _, _, _, rfl⟩
  have hvalue : Text.ofHexDigits? 0 [d₁, d₂, d₃, d₄] = some c.toNat := by
    have hmod : c.toNat % Nat.pow 16 4 = c.toNat := Nat.mod_eq_of_lt (hc.trans (by decide))
    rw [← hdigits, Text.ofHexDigits?_hexDigits, hmod]
  have hunit : hexUnit? ([d₁, d₂, d₃, d₄] ++ behind) = some (c.toNat, behind) := by
    show (Text.ofHexDigits? 0 [d₁, d₂, d₃, d₄]).map (·, behind) = _
    rw [hvalue]
    rfl
  rw [escape?.eq_9, hdigits, hunit]
  dsimp only
  rw [if_neg (by omega), if_neg (by omega), Char.ofNat_toNat]

/-- A character is read from the way in which it stands in a string. -/
theorem stringBody_escapeChar (c : Char) (h : (stringBody behind).toOption = some (s, rest)) :
    (stringBody (escapeChar c ++ behind)).toOption = some (c :: s, rest) := by
  generalize hfront : escapeChar c = front
  unfold escapeChar at hfront
  split at hfront
  · rename_i hc
    subst hfront
    rcases hc with rfl | rfl
    · exact stringBody_escape rfl h
    · exact stringBody_escape rfl h
  rename_i hplain
  obtain ⟨hquote, hbackslash⟩ := not_or.1 hplain
  -- the escapes that are one letter behind the backslash
  split at hfront
  · rename_i hc
    subst hc hfront
    exact stringBody_escape rfl h
  split at hfront
  · rename_i hc
    subst hc hfront
    exact stringBody_escape rfl h
  split at hfront
  · rename_i hc
    subst hc hfront
    exact stringBody_escape rfl h
  split at hfront
  · rename_i hc
    subst hc hfront
    exact stringBody_escape rfl h
  split at hfront
  · rename_i hc
    subst hc hfront
    exact stringBody_escape rfl h
  split at hfront
  · rename_i hcontrol
    subst hfront
    exact stringBody_escape (escape?_hexDigits hcontrol behind) h
  · rename_i hvisible
    subst hfront
    exact stringBody_plain hquote hbackslash (Nat.not_lt.1 hvisible) h

/-- Escaped characters are read back up to the closing quote, whatever follows. -/
theorem stringBody_flatMap (cs rest : List Char) :
    (stringBody (cs.flatMap escapeChar ++ '"' :: rest)).toOption = some (cs, rest) := by
  induction cs with
  | nil =>
    rw [List.flatMap_nil, List.nil_append, stringBody]
    rfl
  | cons c cs ih =>
    rw [List.flatMap_cons, List.append_assoc]
    exact stringBody_escapeChar c ih

theorem toList_quote (s : String) (rest : List Char) :
    (quote s).toList ++ rest = '"' :: (s.toList.flatMap escapeChar ++ '"' :: rest) := by
  rw [quote, String.toList_ofList, List.append_assoc, List.cons_append, List.singleton_append]

/-- A string is read from its text. -/
theorem valueAt_quote (s : String) (rest : List Char) :
    (valueAt depth ((quote s).toList ++ rest)).toOption = some (.string s, rest) := by
  rw [toList_quote, string_eq (stringBody_flatMap s.toList rest), String.ofList_toList]

/-! ### What is left of a value -/

mutual

/-- What is left of a value when it is written: numbers that are not finite become null. -/
def rendered : Json → Json
  | float x => if x.isFinite then float x else null
  | array items => array (renderedItems items)
  | object entries => object (renderedEntries entries)
  | v => v

/-- What is left of the items of an array. -/
def renderedItems : List Json → List Json
  | [] => []
  | v :: vs => rendered v :: renderedItems vs

/-- What is left of the entries of an object. -/
def renderedEntries : List (String × Json) → List (String × Json)
  | [] => []
  | (k, v) :: es => (k, rendered v) :: renderedEntries es

end

/-- The items of an array are rendered one by one. -/
theorem renderedItems_eq (vs : List Json) : renderedItems vs = vs.map rendered := by
  induction vs with
  | nil => rfl
  | cons v vs ih => rw [renderedItems, ih, List.map_cons]

/-- The values of an object are rendered one by one, under their keys. -/
theorem renderedEntries_eq (es : List (String × Json)) :
    renderedEntries es = es.map fun e ↦ (e.1, rendered e.2) := by
  induction es with
  | nil => rfl
  | cons e es ih => rw [renderedEntries, ih, List.map_cons]

/-- The items of an array are written one by one, at one level. -/
theorem itemsAtLevel_eq (layout : Layout) (level : Nat) (vs : List Json) :
    itemsAtLevel layout level vs = vs.map (writtenAt layout level) := by
  induction vs with
  | nil => rfl
  | cons v vs ih => rw [itemsAtLevel, ih, List.map_cons]

/-- The entries of an object are written one by one, at one level. -/
theorem entriesAtLevel_eq (layout : Layout) (level : Nat) (es : List (String × Json)) :
    entriesAtLevel layout level es =
      es.map fun e ↦ quote e.1 ++ layout.colon ++ writtenAt layout level e.2 := by
  induction es with
  | nil => rfl
  | cons e es ih => rw [entriesAtLevel, ih, List.map_cons]

/-! ### White space -/

theorem skipSpace_append {gap : List Char} (hgap : ∀ c ∈ gap, isSpace c = true) (cs : List Char) :
    skipSpace (gap ++ cs) = skipSpace cs :=
  List.dropWhile_append_of_pos hgap

/-- A line break in the layout is blank to a reader. -/
theorem isSpace_lineBreak (layout : Layout) (level : Nat) :
    ∀ c ∈ (layout.lineBreak level).toList, isSpace c = true := by
  cases layout with
  | compact => simp [Layout.lineBreak]
  | indented width =>
    intro c hc
    rw [Layout.lineBreak, String.toList_append] at hc
    rcases List.mem_append.1 hc with hc | hc
    · obtain rfl : c = '\n' := by simpa using hc
      rfl
    · rw [String.toList_ofList] at hc
      rw [List.eq_of_mem_replicate hc]
      rfl

/-- What stands behind a colon in the layout is blank to a reader. -/
theorem isSpace_colon (layout : Layout) :
    ∃ gap : List Char, layout.colon.toList = ':' :: gap ∧ ∀ c ∈ gap, isSpace c = true := by
  cases layout with
  | compact => exact ⟨[], by simp [Layout.colon], by simp⟩
  | indented width => exact ⟨[' '], by simp [Layout.colon], by simp [isSpace]⟩

/-- No value starts with white space. -/
theorem skipSpace_of_valueAt (h : (valueAt depth behind).toOption = some (v, rest)) :
    skipSpace behind = behind := by
  cases behind with
  | nil => rfl
  | cons c cs =>
    by_cases hc : isSpace c = true
    · have hnone : valueAt depth (c :: cs) = none := by
        unfold isSpace at hc
        simp only [Bool.or_eq_true, beq_iff_eq] at hc
        rcases hc with ((rfl | rfl) | rfl) | rfl
        all_goals
          rw [valueAt.eq_4 _ _ (by simp) (by simp) (by simp)]
          rfl
      rw [hnone] at h
      cases h
    · exact List.dropWhile_cons_of_neg hc

/-- Items begin where the blanks in front of them end. -/
theorem skipSpace_of_itemsAt (h : (itemsAt depth behind).toOption = some (vs, rest)) :
    skipSpace behind = behind := by
  rw [itemsAt] at h
  cases hread : valueAt depth behind with
  | none =>
    rw [hread] at h
    cases h
  | some r => exact skipSpace_of_valueAt (congrArg Text.ReadAt.toOption hread)

/-- Entries begin where the blanks in front of them end. -/
theorem skipSpace_of_entriesAt (h : (entriesAt depth behind).toOption = some (es, rest)) :
    skipSpace behind = behind := by
  cases behind with
  | nil => rfl
  | cons c cs =>
    by_cases hc : c = '"'
    · subst hc
      rfl
    · rw [entriesAt.eq_2 _ _ (by simp [hc])] at h
      cases h

/-! ### Arrays and objects -/

/-- White space and a mark behind it do not go on with a number. -/
theorem endsNumber_gap {gap : List Char} {mark : Char} (hgap : ∀ c ∈ gap, isSpace c = true)
    (hmark : mark = ',' ∨ mark = ']' ∨ mark = '\x7d') (rest : List Char) :
    EndsNumber (gap ++ mark :: rest) := by
  intro c hc
  cases gap with
  | nil =>
    obtain rfl := Option.some.inj hc
    rcases hmark with rfl | rfl | rfl <;> decide
  | cons d gap =>
    obtain rfl := Option.some.inj hc
    have hspace := hgap d List.mem_cons_self
    unfold isSpace at hspace
    simp only [Bool.or_eq_true, beq_iff_eq] at hspace
    rcases hspace with ((rfl | rfl) | rfl) | rfl <;> decide

/-- Blanks are skipped up to the next mark. -/
theorem skipSpace_gap {gap : List Char} {mark : Char} (hgap : ∀ c ∈ gap, isSpace c = true)
    (hmark : isSpace mark = false) (rest : List Char) :
    skipSpace (gap ++ mark :: rest) = mark :: rest := by
  rw [skipSpace_append hgap]
  exact List.dropWhile_cons_of_neg (by rw [hmark]; decide)

/-- The first of several texts between brackets, and the others behind it. -/
theorem toList_intercalate_cons (gap t u : String) (ts : List String) (behind : List Char) :
    (("," ++ gap).intercalate (t :: u :: ts)).toList ++ behind = t.toList ++ ([] ++ ',' ::
      (gap.toList ++ ((("," ++ gap).intercalate (u :: ts)).toList ++ behind))) := by
  simp [String.intercalate_cons_cons]

/-- Texts between brackets. -/
theorem toList_enclose (layout : Layout) (level : Nat) (opener closer : String)
    {texts : List String} (hne : texts ≠ []) (rest : List Char) :
    (layout.enclose level opener closer texts).toList ++ rest = opener.toList ++
      ((layout.lineBreak (level + 1)).toList ++
        ((("," ++ layout.lineBreak (level + 1)).intercalate texts).toList ++
          ((layout.lineBreak level).toList ++ (closer.toList ++ rest)))) := by
  simp [Layout.enclose, hne]

/-- A value is read from its text in front of everything that does not go on with a number. -/
def ReadsBack (layout : Layout) (depth level : Nat) (v : Json) : Prop :=
  ∀ rest, EndsNumber rest →
    (valueAt depth ((writtenAt layout level v).toList ++ rest)).toOption = some (v.rendered, rest)

/-- The items of an array are read from their texts. -/
theorem itemsAt_written {close : List Char} (hclose : ∀ c ∈ close, isSpace c = true)
    (hne : vs ≠ []) (hread : ∀ v ∈ vs, ReadsBack layout depth level v) (rest : List Char) :
    (itemsAt depth ((("," ++ layout.lineBreak level).intercalate
        (vs.map (writtenAt layout level))).toList ++ (close ++ ']' :: rest))).toOption =
      some (vs.map rendered, rest) := by
  induction vs with
  | nil => exact absurd rfl hne
  | cons v vs ih =>
    obtain ⟨hv, hvs⟩ := List.forall_mem_cons.1 hread
    cases vs with
    | nil =>
      rw [List.map_singleton, String.intercalate_singleton]
      exact itemsAt_last (hv _ (endsNumber_gap hclose (.inr (.inl rfl)) rest))
        (skipSpace_gap hclose rfl rest)
    | cons w vs =>
      have hmore := ih (List.cons_ne_nil _ _) hvs
      rw [List.map_cons, List.map_cons, toList_intercalate_cons, ← List.map_cons]
      refine itemsAt_more (hv _ (endsNumber_gap (by simp) (.inl rfl) _)) rfl ?_
      rw [skipSpace_append (isSpace_lineBreak layout level), skipSpace_of_itemsAt hmore]
      exact hmore

/-- The entries of an object are read from their texts. -/
theorem entriesAt_written {close : List Char} (hclose : ∀ c ∈ close, isSpace c = true)
    (hne : es ≠ []) (hread : ∀ e ∈ es, ReadsBack layout depth level e.2) (rest : List Char) :
    (entriesAt depth ((("," ++ layout.lineBreak level).intercalate (es.map fun e ↦
        quote e.1 ++ layout.colon ++ writtenAt layout level e.2)).toList ++
          (close ++ '\x7d' :: rest))).toOption =
      some (es.map fun e ↦ (e.1, e.2.rendered), rest) := by
  obtain ⟨gap, hcolon, hgap⟩ := isSpace_colon layout
  -- an entry is a key, a colon and the value behind it
  have hentry (e : String × Json) (behind : List Char) : (quote e.1 ++ layout.colon ++
      writtenAt layout level e.2).toList ++ behind = '"' :: (e.1.toList.flatMap escapeChar ++ '"' ::
        ':' :: (gap ++ ((writtenAt layout level e.2).toList ++ behind))) := by
    rw [String.toList_append, String.toList_append, hcolon, List.append_assoc, List.append_assoc,
      toList_quote, List.cons_append]
  have hmark (cs : List Char) : skipSpace (':' :: cs) = ':' :: cs := rfl
  have hvalue : ∀ e ∈ es, ∀ behind, EndsNumber behind →
      (valueAt depth
        (skipSpace (gap ++ ((writtenAt layout level e.2).toList ++ behind)))).toOption =
          some (e.2.rendered, behind) := by
    intro e he behind hbehind
    have hv := hread e he behind hbehind
    rw [skipSpace_append hgap, skipSpace_of_valueAt hv]
    exact hv
  induction es with
  | nil => exact absurd rfl hne
  | cons e es ih =>
    cases es with
    | nil =>
      rw [List.map_singleton, String.intercalate_singleton, hentry]
      have hlast := entriesAt_last (stringBody_flatMap e.1.toList _) (hmark _)
        (hvalue e List.mem_cons_self _ (endsNumber_gap hclose (.inr (.inr rfl)) rest))
        (skipSpace_gap hclose rfl rest)
      rwa [String.ofList_toList] at hlast
    | cons e' es =>
      have hmore := ih (List.cons_ne_nil _ _) (fun x hx ↦ hread x (List.mem_cons_of_mem _ hx))
        fun x hx ↦ hvalue x (List.mem_cons_of_mem _ hx)
      have hbehind := (skipSpace_append (isSpace_lineBreak layout level) _).trans
        (skipSpace_of_entriesAt hmore)
      rw [← hbehind] at hmore
      have hall := entriesAt_more (stringBody_flatMap e.1.toList _) (hmark _)
        (hvalue e List.mem_cons_self ([] ++ ',' :: _) (endsNumber_gap (by simp) (.inl rfl) _)) rfl
        hmore
      rw [String.ofList_toList, ← hentry] at hall
      rw [List.map_cons, List.map_cons, toList_intercalate_cons]
      exact hall

/-! ### Values -/

/-- A word or number is read from its text. -/
theorem valueAt_of_word? {cs : List Char} (h : word? (cs ++ rest) = some (v, rest))
    (hne : cs ≠ []) :
    (valueAt depth (cs ++ rest)).toOption = some (v, rest) := by
  refine word_eq h ?_
  rw [List.length_append]
  exact Nat.lt_add_of_pos_left (List.length_pos_iff.2 hne)

theorem readsBack_noItems : ReadsBack layout depth level (.array []) := by
  intro rest _
  have htext : (writtenAt layout level (.array [])).toList ++ rest = '[' :: ']' :: rest := by
    simp [writtenAt, itemsAtLevel, Layout.enclose]
  have hclose : skipSpace (']' :: rest) = ']' :: rest := rfl
  rw [htext]
  exact array_nil_eq hclose

theorem readsBack_noEntries : ReadsBack layout depth level (.object []) := by
  intro rest _
  have htext : (writtenAt layout level (.object [])).toList ++ rest = '\x7b' :: '\x7d' :: rest := by
    simp [writtenAt, entriesAtLevel, Layout.enclose]
  have hclose : skipSpace ('\x7d' :: rest) = '\x7d' :: rest := rfl
  rw [htext]
  exact object_nil_eq hclose

/-- A value that can be read is read from its text. -/
theorem Readable.readsBack (h : Readable depth v) (layout : Layout) (level : Nat) :
    ReadsBack layout depth level v := by
  have hnull : "null".toList = ['n', 'u', 'l', 'l'] := by simp
  induction h generalizing level with
  | null =>
    intro rest _
    exact valueAt_of_word? (hnull ▸ rfl) (hnull ▸ List.cons_ne_nil _ _)
  | bool b =>
    intro rest _
    have hfalse : "false".toList = ['f', 'a', 'l', 's', 'e'] := by simp
    have htrue : "true".toList = ['t', 'r', 'u', 'e'] := by simp
    cases b with
    | false => exact valueAt_of_word? (hfalse ▸ rfl) (hfalse ▸ List.cons_ne_nil _ _)
    | true => exact valueAt_of_word? (htrue ▸ rfl) (htrue ▸ List.cons_ne_nil _ _)
  | int h =>
    intro rest hrest
    obtain ⟨hne, hread⟩ := word?_toString h hrest
    exact valueAt_of_word? hread hne
  | @float d x h =>
    intro rest hrest
    cases x with
    -- what is no finite number is written as null
    | nan => exact valueAt_of_word? (hnull ▸ rfl) (hnull ▸ List.cons_ne_nil _ _)
    | infinity negative =>
      cases negative with
      | false => exact valueAt_of_word? (hnull ▸ rfl) (hnull ▸ List.cons_ne_nil _ _)
      | true => exact valueAt_of_word? (hnull ▸ rfl) (hnull ▸ List.cons_ne_nil _ _)
    | finite negative m e =>
      obtain ⟨hne, hread⟩ := word?_written h hrest negative
      exact valueAt_of_word? hread hne
  | string s => exact fun rest _ ↦ valueAt_quote s rest
  | noItems => exact readsBack_noItems
  | noEntries => exact readsBack_noEntries
  | @array d items h ih =>
    intro rest hrest
    cases items with
    | nil => exact readsBack_noItems rest hrest
    | cons v vs =>
      rw [rendered, renderedItems_eq, writtenAt, itemsAtLevel_eq]
      have hitems := itemsAt_written (isSpace_lineBreak layout level) (List.cons_ne_nil v vs)
        (fun w hw ↦ ih w hw (level + 1)) rest
      -- the items begin where the line break in front of them ends
      have hgap := (skipSpace_append (isSpace_lineBreak layout (level + 1)) _).trans
        (skipSpace_of_itemsAt hitems)
      rw [← hgap] at hitems
      rw [toList_enclose layout level _ _ (by simp)]
      exact array_eq hitems
  | @object d entries h ih =>
    intro rest hrest
    cases entries with
    | nil => exact readsBack_noEntries rest hrest
    | cons e es =>
      rw [rendered, renderedEntries_eq, writtenAt, entriesAtLevel_eq]
      have hentries := entriesAt_written (isSpace_lineBreak layout level) (List.cons_ne_nil e es)
        (fun x hx ↦ ih x hx (level + 1)) rest
      have hgap := (skipSpace_append (isSpace_lineBreak layout (level + 1)) _).trans
        (skipSpace_of_entriesAt hentries)
      rw [← hgap] at hentries
      rw [toList_enclose layout level _ _ (by simp)]
      exact object_eq hentries

/-- In every layout the text of a value that can be read is read as what was left of the value when
it was written. -/
theorem ofText?_written (h : Readable depth v) (layout : Layout) :
    ofText? depth (v.written layout) = some v.rendered := by
  have hread := h.readsBack layout 0 [] (fun _ hc ↦ nomatch hc)
  rw [List.append_nil] at hread
  have hstart : skipSpace (v.written layout).toList = (writtenAt layout 0 v).toList :=
    skipSpace_of_valueAt hread
  have hend : skipSpace [] = [] := rfl
  rw [← hstart] at hread
  exact ofText?_eq_some hread hend

end Json

end ChannelGraph
