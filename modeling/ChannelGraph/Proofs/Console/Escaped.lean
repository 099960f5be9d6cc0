import ChannelGraph.Proofs.Console.Inert

/-!
# Reading escaped text

Escaping makes the number of backslashes in front of every tag odd, so that all pieces of escaped
text are text (`exists_piecesFrom_escapeFrom`). This is shown along the pieces of the text itself:
escaped or not, it is taken apart at the same brackets, and only tags are treated differently
(`piecesFrom_escapeFrom_tag`).

It does not follow that escaped text shows the text that was escaped. In front of a bracket that
opens no tag reading drops a backslash which escaping leaves alone, so that something may be missing
(`weight_charsOf_escapeFrom_le`). And escaping doubles a backslash that stands alone at the end
(`toList_escape_of_endsAlone`), so that there may be one too many. A text without tags that does not
end in such a backslash is left as it is (`escape_eq_self`).
-/

namespace ChannelGraph.Markup

open Console

variable {c : Char} {cs rest body : List Char} {slashes : Nat}

/-! ### The pieces of escaped text -/

theorem piecesFrom_backslashes (passed : List Char) (slashes n : Nat) (cs : List Char) :
    piecesFrom passed slashes (backslashes n ++ cs) = piecesFrom passed (slashes + n) cs := by
  induction n generalizing slashes with
  | zero => rfl
  | succ n ih =>
    rw [backslashes, List.replicate_succ, List.cons_append, piecesFrom_slash]
    exact (ih _).trans (by rw [Nat.add_assoc, Nat.add_comm 1])

/-- A tag is text when it is escaped, behind the backslashes that stood in front of it. -/
theorem piecesFrom_escapeFrom_tag (h : upToClose? rest = none) (hbody : tagBody? cs = some body)
    (passed : List Char) (slashes : Nat) :
    piecesFrom passed slashes (escapeFrom slashes ('[' :: cs) ++ rest) =
      [passed.reverse, backslashes slashes, '[' :: body ++ [']']].map Piece.text ++
        piecesFrom [] 0 (escapeFrom 0 (cs.drop (body.length + 1)) ++ rest) := by
  have hodd : (slashes + (slashes + 1)) % 2 ≠ 0 := by omega
  have hhalf : (slashes + (slashes + 1)) / 2 = slashes := by omega
  have hescape : escapeFrom slashes ('[' :: cs) =
      backslashes (slashes + 1) ++ '[' :: escapeFrom 0 cs := by
    rw [escapeFrom, if_neg (by decide), if_pos ⟨rfl, by rw [hbody]; rfl⟩, backslashes]
  have hdrop : (escapeFrom 0 cs ++ rest).drop (body.length + 1) =
      escapeFrom 0 (cs.drop (body.length + 1)) ++ rest := by
    rw [escapeFrom_of_tagBody? hbody]
    simp [List.drop_append]
  -- One backslash more than there were before makes the number odd. Reading goes on behind the
  -- closing bracket, where escaping has passed no backslash either.
  rw [hescape, List.append_assoc, piecesFrom_backslashes, List.cons_append,
    piecesFrom_tag ((tagBody?_escapeFrom_append h cs).trans hbody), tagPiece, if_neg hodd, hhalf,
    hdrop]
  rfl

/-- All pieces of escaped text are text, and taken together they have no more characters that mean
something in markup than there were. -/
theorem exists_piecesFrom_escapeFrom (h : upToClose? rest = none) (passed : List Char)
    (slashes : Nat) (cs : List Char) :
    ∃ (texts : List (List Char)) (passed' : List Char) (slashes' : Nat),
      piecesFrom passed slashes (escapeFrom slashes cs ++ rest) =
        texts.map Piece.text ++ piecesFrom passed' slashes' rest ∧
      ∀ n, weight n texts.flatten + (weight n passed' + n * slashes') ≤
        weight n passed + n * slashes + weight n cs := by
  -- The induction is along the pieces of the text before it is escaped.
  fun_induction piecesFrom passed slashes cs with
  | case1 passed slashes => exact ⟨[], passed, slashes, rfl, fun n ↦ by simp [weight_nil]⟩
  | case2 passed slashes cs ih =>
    obtain ⟨texts, passed', slashes', hpieces, hweight⟩ := ih
    refine ⟨texts, passed', slashes', ?_, fun n ↦ ?_⟩
    · rw [escapeFrom, if_pos rfl, List.cons_append, piecesFrom_slash, hpieces]
    · have hle := hweight n
      rw [Nat.mul_add] at hle
      rw [weight_slash]
      omega
  | case3 passed slashes cs hnone _ ih =>
    obtain ⟨texts, passed', slashes', hpieces, hweight⟩ := ih
    refine ⟨texts, passed', slashes', ?_, fun n ↦ ?_⟩
    · rw [escapeFrom, if_neg (by decide), if_neg (by simp [hnone]), List.cons_append,
        piecesFrom_bracket ((tagBody?_escapeFrom_append h cs).trans hnone), hpieces]
    · -- Of the backslashes in front of the bracket one is lost.
      have hle := hweight n
      have hless : n * (slashes - 1) ≤ n * slashes := Nat.mul_le_mul_left n (Nat.sub_le ..)
      simp only [List.cons_append, weight_bracket, weight_append, weight_backslashes] at hle ⊢
      omega
  | case4 passed slashes cs body hbody piece _ ih =>
    obtain ⟨texts, passed', slashes', hpieces, hweight⟩ := ih
    refine ⟨passed.reverse :: backslashes slashes :: ('[' :: body ++ [']']) :: texts, passed',
      slashes', ?_, fun n ↦ ?_⟩
    · rw [piecesFrom_escapeFrom_tag h hbody, hpieces]
      rfl
    · have hle := hweight n
      have hcs := weight_of_tagBody? hbody n
      have hclose : weight n [']'] = 0 := weight_other n (by decide) (by decide) []
      simp only [List.flatten_cons, List.cons_append, weight_append, weight_reverse,
        weight_backslashes, weight_bracket, weight_nil, hclose] at hle ⊢
      omega
  | case5 passed slashes c cs hslash hopen ih =>
    obtain ⟨texts, passed', slashes', hpieces, hweight⟩ := ih
    refine ⟨texts, passed', slashes', ?_, fun n ↦ ?_⟩
    · rw [escapeFrom, if_neg hslash, if_neg fun htag ↦ hopen htag.1, List.cons_append,
        piecesFrom_other hslash hopen, hpieces]
    · have hle := hweight n
      simp only [List.cons_append, weight_other n hslash hopen, weight_append,
        weight_backslashes] at hle ⊢
      omega

/-- Pieces of text have the characters of these texts. -/
theorem charsOf_map_text (texts : List (List Char)) :
    charsOf (texts.map Piece.text) = texts.flatten := by
  rw [charsOf, List.flatMap_map, ← List.flatMap_id]
  rfl

/-- Reading escaped text adds nothing that means something in markup. -/
theorem weight_charsOf_escapeFrom_le (n : Nat) (cs : List Char) :
    weight n (charsOf (piecesFrom [] 0 (escapeFrom 0 cs))) ≤ weight n cs := by
  obtain ⟨texts, passed, slashes, hpieces, hweight⟩ :=
    exists_piecesFrom_escapeFrom (rfl : upToClose? [] = none) [] 0 cs
  have hle := hweight n
  rw [List.append_nil, piecesFrom_nil] at hpieces
  rw [weight_nil] at hle
  rw [hpieces, charsOf_append, charsOf_map_text, weight_append]
  simp only [charsOf, Piece.chars, List.flatMap_cons, List.flatMap_nil, weight_append, weight_nil,
    weight_reverse, weight_backslashes]
  omega

/-! ### The end of escaped text -/

/-- At the end of an escaped text stand the escaped characters and perhaps another backslash. -/
theorem exists_toList_escape (s : String) :
    ∃ n, (escape s).toList = escapeFrom 0 s.toList ++ backslashes n := by
  rw [escape, String.toList_ofList, guardEnd]
  split
  · exact ⟨1, rfl⟩
  · split
    · exact ⟨0, (List.append_nil _).symm⟩
    · exact ⟨1, rfl⟩
  · exact ⟨0, (List.append_nil _).symm⟩

/-- The last character is a backslash and the one before it is none. -/
def EndsAlone (cs : List Char) : Prop :=
  ∃ front, cs = front ++ ['\\'] ∧ front.getLast? ≠ some '\\'

theorem guardEnd_of_endsAlone (h : EndsAlone cs) : guardEnd cs = cs ++ ['\\'] := by
  obtain ⟨front, rfl, hfront⟩ := h
  rcases List.eq_nil_or_concat front with rfl | ⟨init, c, rfl⟩
  · rfl
  · have hc : c ≠ '\\' := by
      rintro rfl
      simp at hfront
    simp [guardEnd, hc]

theorem guardEnd_of_not_endsAlone (h : ¬EndsAlone cs) : guardEnd cs = cs := by
  rcases List.eq_nil_or_concat cs with rfl | ⟨front, d, rfl⟩
  · rfl
  by_cases hd : d = '\\'
  · subst hd
    rcases List.eq_nil_or_concat front with rfl | ⟨init, c, rfl⟩
    · exact absurd ⟨[], rfl, nofun⟩ h
    · by_cases hc : c = '\\'
      · simp [guardEnd, hc]
      · exact absurd ⟨_, List.concat_eq_append .., by simpa using hc⟩ h
  · rw [guardEnd, List.concat_eq_append, List.reverse_append]
    split
    · rename_i heq
      exact absurd (List.cons.inj heq).1 hd
    · rename_i heq
      exact absurd (List.cons.inj heq).1 hd
    · rfl

/-- Escaping puts nothing behind the last character. -/
theorem getLast?_escapeFrom (slashes : Nat) (cs : List Char) :
    (escapeFrom slashes cs).getLast? = cs.getLast? := by
  fun_induction escapeFrom slashes cs with
  | case1 => rfl
  | case2 slashes cs ih => rw [List.getLast?_cons, List.getLast?_cons, ih]
  | case3 slashes c cs _ _ ih =>
    rw [List.getLast?_append, List.getLast?_cons, List.getLast?_cons, ih]
    rfl
  | case4 slashes c cs _ _ ih => rw [List.getLast?_cons, List.getLast?_cons, ih]

/-- A backslash at the end is left alone. -/
theorem escapeFrom_concat_slash (slashes : Nat) (cs : List Char) :
    escapeFrom slashes (cs ++ ['\\']) = escapeFrom slashes cs ++ ['\\'] := by
  have htag (cs : List Char) : tagBody? (cs ++ ['\\']) = tagBody? cs :=
    tagBody?_append (by rfl) cs
  fun_induction escapeFrom slashes cs with
  | case1 => rfl
  | case2 slashes cs ih => rw [List.cons_append, escapeFrom, if_pos rfl, ih]; rfl
  | case3 slashes c cs hslash hc ih =>
    rw [List.cons_append, escapeFrom, if_neg hslash, htag, if_pos hc, ih, List.append_assoc]
    rfl
  | case4 slashes c cs hslash hc ih =>
    rw [List.cons_append, escapeFrom, if_neg hslash, htag, if_neg hc, ih]
    rfl

theorem endsAlone_escapeFrom : EndsAlone (escapeFrom 0 cs) ↔ EndsAlone cs := by
  constructor
  · rintro ⟨front, hcs, hfront⟩
    have hlast : cs.getLast? = some '\\' := by
      rw [← getLast?_escapeFrom 0, hcs, List.getLast?_concat]
    obtain ⟨init, rfl⟩ := List.getLast?_eq_some_iff.1 hlast
    rw [escapeFrom_concat_slash] at hcs
    refine ⟨init, rfl, ?_⟩
    rwa [← getLast?_escapeFrom 0, List.append_cancel_right hcs]
  · rintro ⟨front, rfl, hfront⟩
    refine ⟨escapeFrom 0 front, escapeFrom_concat_slash 0 front, ?_⟩
    rwa [getLast?_escapeFrom]

/-- A text that does not end in a backslash alone is escaped bracket by bracket. -/
theorem toList_escape_of_not_endsAlone {s : String} (h : ¬EndsAlone s.toList) :
    (escape s).toList = escapeFrom 0 s.toList := by
  rw [escape, String.toList_ofList, guardEnd_of_not_endsAlone (mt endsAlone_escapeFrom.1 h)]

/-- A text that ends in a backslash alone gets another one behind it. -/
theorem toList_escape_of_endsAlone {s : String} (h : EndsAlone s.toList) :
    (escape s).toList = escapeFrom 0 s.toList ++ ['\\'] := by
  rw [escape, String.toList_ofList, guardEnd_of_endsAlone (endsAlone_escapeFrom.2 h)]

/-- Backslashes at the end are shown. -/
theorem charsOf_append_backslashes (cs : List Char) (n : Nat) :
    charsOf (piecesFrom [] 0 (cs ++ backslashes n)) =
      charsOf (piecesFrom [] 0 cs) ++ backslashes n := by
  obtain ⟨ps, passed, slashes, hcs, hps, -⟩ := exists_piecesFrom_eq cs
  have hslashes := piecesFrom_backslashes passed slashes n []
  rw [List.append_nil, piecesFrom_nil] at hslashes
  rw [hps _ (upToClose?_slashes n), hcs, hslashes, charsOf_append, charsOf_append]
  simp [charsOf, Piece.chars, backslashes]

/-! ### What escaping leaves alone -/

/-- Characters that mean nothing in markup are left alone. -/
theorem escapeFrom_append_of_forall {front : List Char} (h : ∀ c ∈ front, c ≠ '\\' ∧ c ≠ '[')
    (cs : List Char) : escapeFrom 0 (front ++ cs) = front ++ escapeFrom 0 cs := by
  induction front with
  | nil => rfl
  | cons c front ih =>
    obtain ⟨⟨hslash, hopen⟩, hfront⟩ := List.forall_mem_cons.1 h
    rw [List.cons_append, escapeFrom, if_neg hslash, if_neg fun htag ↦ hopen htag.1, ih hfront]
    rfl

theorem escapeFrom_of_isTagFree (h : IsTagFree cs) (slashes : Nat) :
    escapeFrom slashes cs = cs := by
  induction cs generalizing slashes with
  | nil => rfl
  | cons c cs ih =>
    obtain ⟨hc, hcs⟩ := isTagFree_cons.1 h
    have htag : ¬(c = '[' ∧ (tagBody? cs).isSome) := fun htag ↦ by
      rw [hc htag.1] at htag
      cases htag.2
    rw [escapeFrom, ih hcs, ih hcs, if_neg htag, ite_self]

/-- A text without tags is left as it is, unless it ends in a backslash alone. -/
theorem escape_eq_self {s : String} (htagFree : IsTagFree s.toList) (hend : ¬EndsAlone s.toList) :
    escape s = s := by
  rw [escape, escapeFrom_of_isTagFree htagFree, guardEnd_of_not_endsAlone hend,
    String.ofList_toList]

end ChannelGraph.Markup
