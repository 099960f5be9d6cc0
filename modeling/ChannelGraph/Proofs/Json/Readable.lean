import ChannelGraph.Proofs.Decimal.Digits
import ChannelGraph.Proofs.Json.Reading

/-!
# Values that can be read

Not every value is the value of a text: an integer may have too many digits, a value may be nested
too deep, and a floating-point number may be in a form in which none is kept. `Json.Readable` says
that none of this is the case. It holds of every value that was read (`readable_of_ofText?`), so
what is built from such values can be written and read again.

The induction is that of the reader, which calls itself on what is left. For each of its three parts
there is a lemma on what the part can have read (`valueAt_cases`, `itemsAt_cases`,
`entriesAt_cases`).
-/

namespace ChannelGraph

namespace Json

open Text.ReadAt (toOption_eq_some_iff)

variable {depth : Nat} {negative : Bool} {text : String} {v : Json} {vs : List Json}
  {es : List (String × Json)} {cs more rest : List Char}

/-- A value that a text can have: its integers do not have too many digits, its numbers are kept in
the usual form, and its arrays and objects that are not empty are nested to at most the given
depth. -/
inductive Readable : Nat → Json → Prop
  | null {d : Nat} : Readable d null
  | bool {d : Nat} (b : Bool) : Readable d (bool b)
  | int {d : Nat} {n : Int} (h : Numeral.Readable n.natAbs) : Readable d (int n)
  | float {d : Nat} {x : Binary64} (h : x.IsKept) : Readable d (float x)
  | string {d : Nat} (s : String) : Readable d (string s)
  | noItems {d : Nat} : Readable d (array [])
  | array {d : Nat} {items : List Json} (h : ∀ v ∈ items, Readable d v) :
    Readable (d + 1) (array items)
  | noEntries {d : Nat} : Readable d (object [])
  | object {d : Nat} {entries : List (String × Json)} (h : ∀ e ∈ entries, Readable d e.2) :
    Readable (d + 1) (object entries)

/-! ### Words and numbers -/

theorem readable_of_number? (h : number? negative cs = some (v, rest)) : Readable depth v := by
  unfold number? at h
  dsimp only at h
  split at h
  · cases h
  rename_i d ds hwhole
  split at h
  · cases h
  split at h
  · cases h
  rename_i hlimit
  split at h
  · cases h
  split at h
  · cases h
  split at h
  · cases h
    have hne : cs.takeWhile Char.isDigit ≠ [] := hwhole ▸ List.cons_ne_nil d ds
    exact .int (Numeral.readable_signed (Numeral.isRun_takeWhile cs) hne (Nat.not_lt.1 hlimit) _)
  · cases h
    exact .float (Binary64.isKept_ofDecimal _ _ _)

theorem readable_of_word? (h : word? cs = some (v, rest)) : Readable depth v := by
  unfold word? at h
  split at h
  case h_7 => exact readable_of_number? h
  case h_8 => exact readable_of_number? h
  case h_1 =>
    cases h
    exact .null
  case h_2 =>
    cases h
    exact .bool true
  case h_3 =>
    cases h
    exact .bool false
  all_goals
    cases h
    exact .float trivial

/-! ### What can have been read -/

theorem length_lt_of_toOption {α : Type} {r : Text.ReadAt α cs} {a : α}
    (h : r.toOption = some (a, rest)) : rest.length < cs.length :=
  (toOption_eq_some_iff.1 h).1

theorem length_skipSpace_lt {c : Char} (h : skipSpace cs = c :: more) :
    (skipSpace more).length < cs.length := by
  have hle := length_skipSpace_le cs
  have hmore := length_skipSpace_le more
  rw [h, List.length_cons] at hle
  omega

/-- What a value can be: a string, an array or object with nothing in it, one with something in it,
which takes one level of the nesting, or a word or number. -/
theorem valueAt_cases (h : (valueAt depth cs).toOption = some (v, rest)) :
    (∃ s, v = .string s) ∨ v = .array [] ∨ v = .object [] ∨
      (∃ d ahead vs, depth = d + 1 ∧ v = .array vs ∧ ahead.length < cs.length ∧
        (itemsAt d ahead).toOption = some (vs, rest)) ∨
      (∃ d ahead es, depth = d + 1 ∧ v = .object es ∧ ahead.length < cs.length ∧
        (entriesAt d ahead).toOption = some (es, rest)) ∨
      word? cs = some (v, rest) := by
  obtain ⟨hlen, hread⟩ := toOption_eq_some_iff.1 h
  -- the cases are the first characters that tell what a value is
  unfold valueAt at hread
  split at hread
  · split at hread
    · cases hread
    · cases hread
      exact .inl ⟨_, rfl⟩
  · rename_i behind
    split at hread
    · cases hread
      exact .inr (.inl rfl)
    · split at hread
      · cases hread
      · split at hread
        · cases hread
        · rename_i hitems
          cases hread
          have hlt := Nat.lt_succ_of_le (length_skipSpace_le behind)
          refine .inr (.inr (.inr (.inl ⟨_, _, _, rfl, rfl, hlt, ?_⟩)))
          exact toOption_eq_some_iff.2 ⟨_, hitems⟩
  · rename_i behind
    split at hread
    · cases hread
      exact .inr (.inr (.inl rfl))
    · split at hread
      · cases hread
      · split at hread
        · cases hread
        · rename_i hentries
          cases hread
          have hlt := Nat.lt_succ_of_le (length_skipSpace_le behind)
          refine .inr (.inr (.inr (.inr (.inl ⟨_, _, _, rfl, rfl, hlt, ?_⟩))))
          exact toOption_eq_some_iff.2 ⟨_, hentries⟩
  · unfold wordAt Text.ReadAt.ofOption at hread
    split at hread
    · cases hread
    · rename_i hword
      split at hread
      · cases hread
        exact .inr (.inr (.inr (.inr (.inr hword))))
      · cases hread

/-- The items of an array are a value and, behind a comma, further items. -/
theorem itemsAt_cases (h : (itemsAt depth cs).toOption = some (vs, rest)) :
    ∃ v behind, (valueAt depth cs).toOption = some (v, behind) ∧
      (vs = [v] ∨ ∃ more ws, skipSpace behind = ',' :: more ∧ vs = v :: ws ∧
        (itemsAt depth (skipSpace more)).toOption = some (ws, rest)) := by
  obtain ⟨hlen, hread⟩ := toOption_eq_some_iff.1 h
  unfold itemsAt at hread
  split at hread
  · cases hread
  · rename_i hvalue
    refine ⟨_, _, toOption_eq_some_iff.2 ⟨_, hvalue⟩, ?_⟩
    dsimp only at hread
    split at hread
    · cases hread
      exact .inl rfl
    · rename_i hcomma
      split at hread
      · cases hread
      · rename_i hitems
        cases hread
        exact .inr ⟨_, _, hcomma, rfl, toOption_eq_some_iff.2 ⟨_, hitems⟩⟩
    · cases hread

/-- The entries of an object are a key with a value and, behind a comma, further entries. -/
theorem entriesAt_cases (h : (entriesAt depth cs).toOption = some (es, rest)) :
    ∃ key v ahead behind, ahead.length < cs.length ∧
      (valueAt depth ahead).toOption = some (v, behind) ∧
      (es = [(key, v)] ∨ ∃ more fs, skipSpace behind = ',' :: more ∧ es = (key, v) :: fs ∧
        (entriesAt depth (skipSpace more)).toOption = some (fs, rest)) := by
  obtain ⟨hlen, hread⟩ := toOption_eq_some_iff.1 h
  unfold entriesAt at hread
  split at hread
  · split at hread
    · cases hread
    · rename_i key afterKey hkey _
      dsimp only at hread
      split at hread
      · rename_i hcolon
        split at hread
        · cases hread
        · rename_i hvalue
          refine ⟨String.ofList key, _, _, _, ?_, toOption_eq_some_iff.2 ⟨_, hvalue⟩, ?_⟩
          · exact ((length_skipSpace_lt hcolon).trans hkey).trans (Nat.lt_succ_self _)
          · split at hread
            · cases hread
              exact .inl rfl
            · rename_i hcomma
              split at hread
              · cases hread
              · rename_i hentries
                cases hread
                exact .inr ⟨_, _, hcomma, rfl, toOption_eq_some_iff.2 ⟨_, hentries⟩⟩
            · cases hread
      · cases hread
  · cases hread

/-! ### Values that were read -/

mutual

/-- A value that was read can be read. -/
theorem readable_of_valueAt {depth : Nat} {cs rest : List Char} {v : Json}
    (h : (valueAt depth cs).toOption = some (v, rest)) : Readable depth v := by
  rcases valueAt_cases h with ⟨s, rfl⟩ | rfl | rfl | ⟨d, ahead, vs, rfl, rfl, hlen, hitems⟩ |
    ⟨d, ahead, es, rfl, rfl, hlen, hentries⟩ | hword
  · exact .string s
  · exact .noItems
  · exact .noEntries
  · exact .array (readable_of_itemsAt hitems)
  · exact .object (readable_of_entriesAt hentries)
  · exact readable_of_word? hword
termination_by (cs.length, 0)
decreasing_by
  · exact .left _ _ hlen
  · exact .left _ _ hlen

/-- The items of an array that was read can be read. -/
theorem readable_of_itemsAt {depth : Nat} {cs rest : List Char} {vs : List Json}
    (h : (itemsAt depth cs).toOption = some (vs, rest)) : ∀ v ∈ vs, Readable depth v := by
  obtain ⟨v, behind, hvalue, hvs⟩ := itemsAt_cases h
  have hv := readable_of_valueAt hvalue
  rcases hvs with rfl | ⟨more, ws, hcomma, rfl, hitems⟩
  · exact List.forall_mem_singleton.2 hv
  · have hlen : (skipSpace more).length < cs.length :=
      (length_skipSpace_lt hcomma).trans (length_lt_of_toOption hvalue)
    exact List.forall_mem_cons.2 ⟨hv, readable_of_itemsAt hitems⟩
termination_by (cs.length, 1)
decreasing_by
  · exact .right _ Nat.one_pos
  · exact .left _ _ hlen

/-- The values of an object that was read can be read. -/
theorem readable_of_entriesAt {depth : Nat} {cs rest : List Char} {es : List (String × Json)}
    (h : (entriesAt depth cs).toOption = some (es, rest)) : ∀ e ∈ es, Readable depth e.2 := by
  obtain ⟨key, v, ahead, behind, hlen, hvalue, hes⟩ := entriesAt_cases h
  have hv := readable_of_valueAt hvalue
  rcases hes with rfl | ⟨more, fs, hcomma, rfl, hentries⟩
  · exact List.forall_mem_singleton.2 hv
  · have hmore : (skipSpace more).length < cs.length :=
      ((length_skipSpace_lt hcomma).trans (length_lt_of_toOption hvalue)).trans hlen
    exact List.forall_mem_cons.2 ⟨hv, readable_of_entriesAt hentries⟩
termination_by (cs.length, 1)
decreasing_by
  · exact .left _ _ hlen
  · exact .left _ _ hmore

end

/-- The value of a text can be read. -/
theorem readable_of_ofText? (h : ofText? depth text = some v) : Readable depth v := by
  unfold ofText? at h
  split at h
  · cases h
  · rename_i hread
    split at h
    · cases h
      exact readable_of_valueAt (toOption_eq_some_iff.2 ⟨_, hread⟩)
    · cases h

end Json

end ChannelGraph
