import ChannelGraph.Json.Reading

/-!
# What the reader of JSON takes

The reader of values calls itself on what is left, so it does not compute by unfolding. For every
form of a value there is a lemma on what it takes from the front (`stringBody_eq`, `array_eq`,
`object_eq`, `itemsAt_last`, `itemsAt_more`, `entriesAt_last`, `entriesAt_more`); the value of a
text is put together from them and `ofText?_eq_some`.
-/

namespace ChannelGraph

theorem Text.ReadAt.toOption_eq_some_iff {α : Type} {cs : List Char} {r : Text.ReadAt α cs} {a : α}
    {rest : List Char} : r.toOption = some (a, rest) ↔ ∃ hlen, r = some ⟨(a, rest), hlen⟩ := by
  rw [toOption, Option.map_eq_some_iff]
  constructor
  · rintro ⟨⟨_, hlen⟩, hr, rfl⟩
    exact ⟨hlen, hr⟩
  · rintro ⟨hlen, rfl⟩
    exact ⟨_, rfl, rfl⟩

namespace Json

open Text.ReadAt (toOption_eq_some_iff)

variable {depth : Nat} {text : String} {v : Json} {vs : List Json} {es : List (String × Json)}
  {s behind ahead afterKey afterColon more rest : List Char}

/-- A text that stands between quotes as it is: nothing in it is escaped or refused. -/
def IsPlain (s : String) : Prop :=
  ∀ c ∈ s.toList, c ≠ '"' ∧ c ≠ '\\' ∧ 0x20 ≤ c.toNat

instance (s : String) : Decidable (IsPlain s) :=
  List.decidableBAll _ s.toList

/-- An escape is read as the character that it stands for. -/
theorem stringBody_escape {c : Char} (hescape : escape? ahead = some (c, behind))
    (h : (stringBody behind).toOption = some (s, rest)) :
    (stringBody ('\\' :: ahead)).toOption = some (c :: s, rest) := by
  obtain ⟨hlen, hread⟩ := toOption_eq_some_iff.1 h
  rw [stringBody.eq_3]
  split
  · rename_i hnone
    cases hescape.symm.trans hnone
  · rename_i hsome
    cases hescape.symm.trans hsome
    dsimp only
    rw [hread]
    rfl

/-- A character that needs no escape is read as it is. -/
theorem stringBody_plain {c : Char} (hquote : c ≠ '"') (hbackslash : c ≠ '\\')
    (hvisible : 0x20 ≤ c.toNat) (h : (stringBody behind).toOption = some (s, rest)) :
    (stringBody (c :: behind)).toOption = some (c :: s, rest) := by
  obtain ⟨hlen, hread⟩ := toOption_eq_some_iff.1 h
  rw [stringBody.eq_4 _ _ hquote hbackslash, if_neg (Nat.not_lt.2 hvisible), hread]
  rfl

theorem stringBody_eq (h : IsPlain text) (rest : List Char) :
    (stringBody (text.toList ++ '"' :: rest)).toOption = some (text.toList, rest) := by
  unfold IsPlain at h
  generalize text.toList = s at h ⊢
  induction s with
  | nil =>
    rw [List.nil_append, stringBody]
    rfl
  | cons c s ih =>
    obtain ⟨⟨hquote, hbackslash, hvisible⟩, hs⟩ := List.forall_mem_cons.1 h
    exact stringBody_plain hquote hbackslash hvisible (ih hs)

theorem string_eq (h : (stringBody behind).toOption = some (s, rest)) :
    (valueAt depth ('"' :: behind)).toOption = some (.string (String.ofList s), rest) := by
  obtain ⟨hlen, hread⟩ := toOption_eq_some_iff.1 h
  rw [valueAt]
  rw [hread]
  rfl

/-- A word or number is read by the reader of words. -/
theorem word_eq (h : word? ahead = some (v, rest)) (hlen : rest.length < ahead.length) :
    (valueAt depth ahead).toOption = some (v, rest) := by
  have hother (c : Char) (cs : List Char) (hdigit : c.isDigit = false)
      (hnone : word? (c :: cs) = number? false (c :: cs)) : ahead ≠ c :: cs := by
    rintro rfl
    rw [hnone, number?, List.takeWhile_cons_of_neg (by rw [hdigit]; decide)] at h
    cases h
  rw [valueAt.eq_4 _ _ (fun cs ↦ hother '"' cs rfl rfl) (fun cs ↦ hother '[' cs rfl rfl)
    fun cs ↦ hother '\x7b' cs rfl rfl, wordAt, h, Text.ReadAt.ofOption_eq_some hlen]
  rfl

theorem array_nil_eq (h : skipSpace behind = ']' :: rest) :
    (valueAt depth ('[' :: behind)).toOption = some (.array [], rest) := by
  rw [valueAt]
  split
  · rename_i heq
    cases h.symm.trans heq
    rfl
  · rename_i hne
    exact absurd h (hne rest)

theorem object_nil_eq (h : skipSpace behind = '\x7d' :: rest) :
    (valueAt depth ('\x7b' :: behind)).toOption = some (.object [], rest) := by
  rw [valueAt]
  split
  · rename_i heq
    cases h.symm.trans heq
    rfl
  · rename_i hne
    exact absurd h (hne rest)

/-- No value starts with a closing bracket. -/
theorem valueAt_bracket (depth : Nat) (cs : List Char) : valueAt depth (']' :: cs) = none := by
  rw [valueAt.eq_4 _ _ (by simp) (by simp) (by simp)]
  rfl

/-- An array that is not empty takes one level of the nesting. -/
theorem array_eq (h : (itemsAt depth (skipSpace behind)).toOption = some (vs, rest)) :
    (valueAt (depth + 1) ('[' :: behind)).toOption = some (.array vs, rest) := by
  rw [valueAt]
  split
  · rename_i hclose
    rw [hclose, itemsAt, valueAt_bracket] at h
    cases h
  · obtain ⟨hlen, hread⟩ := toOption_eq_some_iff.1 h
    dsimp only
    rw [hread]
    rfl

/-- The last item of an array. -/
theorem itemsAt_last (hvalue : (valueAt depth behind).toOption = some (v, ahead))
    (hclose : skipSpace ahead = ']' :: rest) :
    (itemsAt depth behind).toOption = some ([v], rest) := by
  obtain ⟨_, hvalue⟩ := toOption_eq_some_iff.1 hvalue
  rw [itemsAt, hvalue]
  dsimp only
  split
  · rename_i hclose'
    cases hclose.symm.trans hclose'
    rfl
  · rename_i hcomma
    cases hclose.symm.trans hcomma
  · rename_i hne _
    exact absurd hclose (hne rest)

/-- An item of an array with others behind it. -/
theorem itemsAt_more (hvalue : (valueAt depth behind).toOption = some (v, ahead))
    (hcomma : skipSpace ahead = ',' :: more)
    (hitems : (itemsAt depth (skipSpace more)).toOption = some (vs, rest)) :
    (itemsAt depth behind).toOption = some (v :: vs, rest) := by
  obtain ⟨_, hvalue⟩ := toOption_eq_some_iff.1 hvalue
  obtain ⟨_, hitems⟩ := toOption_eq_some_iff.1 hitems
  rw [itemsAt, hvalue]
  dsimp only
  split
  · rename_i hclose
    cases hcomma.symm.trans hclose
  · rename_i hcomma'
    cases hcomma.symm.trans hcomma'
    rw [hitems]
    rfl
  · rename_i hne
    exact absurd hcomma (hne more)

/-- An object that is not empty takes one level of the nesting. -/
theorem object_eq (h : (entriesAt depth (skipSpace behind)).toOption = some (es, rest)) :
    (valueAt (depth + 1) ('\x7b' :: behind)).toOption = some (.object es, rest) := by
  rw [valueAt]
  split
  · rename_i hclose
    rw [hclose, entriesAt.eq_2 depth _ (by simp)] at h
    cases h
  · obtain ⟨hlen, hread⟩ := toOption_eq_some_iff.1 h
    dsimp only
    rw [hread]
    rfl

/-- The last entry of an object. -/
theorem entriesAt_last (hkey : (stringBody behind).toOption = some (s, afterKey))
    (hcolon : skipSpace afterKey = ':' :: afterColon)
    (hvalue : (valueAt depth (skipSpace afterColon)).toOption = some (v, ahead))
    (hclose : skipSpace ahead = '\x7d' :: rest) :
    (entriesAt depth ('"' :: behind)).toOption = some ([(String.ofList s, v)], rest) := by
  obtain ⟨_, hkey⟩ := toOption_eq_some_iff.1 hkey
  obtain ⟨_, hvalue⟩ := toOption_eq_some_iff.1 hvalue
  rw [entriesAt]
  rw [hkey]
  dsimp only
  split
  · rename_i hcolon'
    cases hcolon.symm.trans hcolon'
    rw [hvalue]
    dsimp only
    split
    · rename_i hclose'
      cases hclose.symm.trans hclose'
      rfl
    · rename_i hclose'
      cases hclose.symm.trans hclose'
    · rename_i hne _
      exact absurd hclose (hne rest)
  · rename_i hne
    exact absurd hcolon (hne afterColon)

/-- An entry of an object with others behind it. -/
theorem entriesAt_more (hkey : (stringBody behind).toOption = some (s, afterKey))
    (hcolon : skipSpace afterKey = ':' :: afterColon)
    (hvalue : (valueAt depth (skipSpace afterColon)).toOption = some (v, ahead))
    (hcomma : skipSpace ahead = ',' :: more)
    (hentries : (entriesAt depth (skipSpace more)).toOption = some (es, rest)) :
    (entriesAt depth ('"' :: behind)).toOption = some ((String.ofList s, v) :: es, rest) := by
  obtain ⟨_, hkey⟩ := toOption_eq_some_iff.1 hkey
  obtain ⟨_, hvalue⟩ := toOption_eq_some_iff.1 hvalue
  obtain ⟨_, hentries⟩ := toOption_eq_some_iff.1 hentries
  rw [entriesAt]
  rw [hkey]
  dsimp only
  split
  · rename_i hcolon'
    cases hcolon.symm.trans hcolon'
    rw [hvalue]
    dsimp only
    split
    · rename_i hcomma'
      cases hcomma.symm.trans hcomma'
    · rename_i hcomma'
      cases hcomma.symm.trans hcomma'
      rw [hentries]
      rfl
    · rename_i hne
      exact absurd hcomma (hne more)
  · rename_i hne
    exact absurd hcolon (hne afterColon)

/-- A text has the value at its front if only white space follows. -/
theorem ofText?_eq_some (h : (valueAt depth (skipSpace text.toList)).toOption = some (v, rest))
    (hrest : skipSpace rest = []) : ofText? depth text = some v := by
  obtain ⟨_, hread⟩ := toOption_eq_some_iff.1 h
  rw [ofText?, hread]
  dsimp only
  rw [hrest]
  rfl

end Json

end ChannelGraph
