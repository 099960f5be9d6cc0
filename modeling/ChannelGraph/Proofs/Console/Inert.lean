import ChannelGraph.Proofs.Console.Escaping

/-!
# Text without markup

What becomes of a text that is put into markup as it is. It stays what it is if none of its brackets
opens a tag (`IsTagFree`) and none stands behind a backslash, since such a backslash is dropped
(`IsInert`): then it is one piece of text with all its characters (`IsInert.piecesFrom_eq`).

For the converse the backslashes and opening brackets are counted (`weight`). Taking a text apart
adds none of them (`weight_charsOf_le`), a tag loses its bracket and a dropped backslash is lost as
well, so that a text that keeps them all is inert (`isInert_of_weight_le`). A comparison of texts
would not do here, since what has been passed of a text goes on in the next one. Counts add up, and
so they also decide about a text with more behind it, as long as no bracket of the text is closed
there (`exists_piecesFrom_eq`).
-/

namespace ChannelGraph.Markup

open Console

variable {c : Char} {cs rest body passed : List Char} {slashes : Nat}

/-! ### Tags -/

/-- The characters in front of the next closing bracket, the bracket, and the rest make up the
text. -/
theorem eq_append_of_upToClose? (h : upToClose? cs = some body) :
    cs = body ++ ']' :: cs.drop (body.length + 1) := by
  induction cs generalizing body with
  | nil => cases h
  | cons c cs ih =>
    rw [upToClose?] at h
    split at h
    · rename_i hc
      cases h
      rw [hc]
      rfl
    · split at h
      · cases h
      · obtain ⟨body, hbody, rfl⟩ := Option.map_eq_some_iff.1 h
        exact congrArg (c :: ·) (ih hbody)

/-- A closing bracket that comes first does so whatever follows. -/
theorem upToClose?_append_of_eq_some (h : upToClose? cs = some body) (rest : List Char) :
    upToClose? (cs ++ rest) = some body := by
  induction cs generalizing body with
  | nil => cases h
  | cons c cs ih =>
    rw [upToClose?] at h
    rw [List.cons_append, upToClose?]
    split at h
    · rename_i hc
      rw [if_pos hc, h]
    · rename_i hclose
      split at h
      · cases h
      · rename_i hopen
        obtain ⟨body, hbody, rfl⟩ := Option.map_eq_some_iff.1 h
        rw [if_neg hclose, if_neg hopen, ih hbody, Option.map_some]

/-- A tag is complete with its closing bracket, whatever follows. -/
theorem tagBody?_append_of_eq_some (h : tagBody? cs = some body) (rest : List Char) :
    tagBody? (cs ++ rest) = some body := by
  cases cs with
  | nil => cases h
  | cons c cs =>
    rw [tagBody?] at h
    split at h
    · rename_i hstart
      obtain ⟨body, hbody, rfl⟩ := Option.map_eq_some_iff.1 h
      rw [List.cons_append, tagBody?, if_pos hstart, upToClose?_append_of_eq_some hbody,
        Option.map_some]
    · cases h

/-- The body of a tag, its closing bracket and the rest make up the text. -/
theorem eq_append_of_tagBody? (h : tagBody? cs = some body) :
    cs = body ++ ']' :: cs.drop (body.length + 1) := by
  cases cs with
  | nil => cases h
  | cons c cs =>
    rw [tagBody?] at h
    split at h
    · obtain ⟨body, hbody, rfl⟩ := Option.map_eq_some_iff.1 h
      exact congrArg (c :: ·) (eq_append_of_upToClose? hbody)
    · cases h

/-! ### Pieces -/

/-- At the end all that has been passed is a piece of text. -/
theorem piecesFrom_nil (passed : List Char) (slashes : Nat) :
    piecesFrom passed slashes [] = [.text (passed.reverse ++ backslashes slashes)] := by
  rw [piecesFrom]

/-- A backslash is counted. -/
theorem piecesFrom_slash (passed : List Char) (slashes : Nat) (cs : List Char) :
    piecesFrom passed slashes ('\\' :: cs) = piecesFrom passed (slashes + 1) cs := by
  rw [piecesFrom, if_pos rfl]

/-- Behind any other character the backslashes in front of it have been passed. -/
theorem piecesFrom_other (hslash : c ≠ '\\') (hopen : c ≠ '[') :
    piecesFrom passed slashes (c :: cs) =
      piecesFrom (c :: backslashes slashes ++ passed) 0 cs := by
  rw [piecesFrom, if_neg hslash, if_neg hopen]

/-- In front of a bracket that opens no tag one backslash is dropped. -/
theorem piecesFrom_bracket (h : tagBody? cs = none) :
    piecesFrom passed slashes ('[' :: cs) =
      piecesFrom ('[' :: backslashes (slashes - 1) ++ passed) 0 cs := by
  rw [piecesFrom, if_neg (by decide), if_pos rfl, h]

/-- The piece of a tag behind some backslashes. -/
def tagPiece (slashes : Nat) (body : List Char) : Piece :=
  if slashes % 2 = 0 then .tag body else .text ('[' :: body ++ [']'])

/-- In front of a tag the backslashes are halved. -/
theorem piecesFrom_tag (h : tagBody? cs = some body) :
    piecesFrom passed slashes ('[' :: cs) =
      .text passed.reverse :: .text (backslashes (slashes / 2)) :: tagPiece slashes body ::
        piecesFrom [] 0 (cs.drop (body.length + 1)) := by
  rw [piecesFrom, if_neg (by decide), if_pos rfl, h]
  rfl

/-- Characters that mean nothing in markup are passed as they are. -/
theorem piecesFrom_append_of_forall {front : List Char} (h : ∀ c ∈ front, c ≠ '\\' ∧ c ≠ '[')
    (passed rest : List Char) :
    piecesFrom passed 0 (front ++ rest) = piecesFrom (front.reverse ++ passed) 0 rest := by
  induction front generalizing passed with
  | nil => rfl
  | cons c front ih =>
    obtain ⟨⟨hslash, hopen⟩, hfront⟩ := List.forall_mem_cons.1 h
    rw [List.cons_append, piecesFrom_other hslash hopen, ih hfront]
    simp [backslashes]

/-- A text is taken apart as before if something follows that closes no bracket in it. -/
theorem exists_piecesFrom_append (passed : List Char) (slashes : Nat) (cs : List Char) :
    ∃ ps passed' slashes', ∀ rest, upToClose? rest = none →
      piecesFrom passed slashes (cs ++ rest) = ps ++ piecesFrom passed' slashes' rest := by
  fun_induction piecesFrom passed slashes cs with
  | case1 passed slashes => exact ⟨[], passed, slashes, fun _ _ ↦ rfl⟩
  | case2 passed slashes cs ih =>
    obtain ⟨ps, passed', slashes', hps⟩ := ih
    exact ⟨ps, passed', slashes', fun rest h ↦ (piecesFrom_slash _ _ _).trans (hps rest h)⟩
  | case3 passed slashes cs hnone _ ih =>
    obtain ⟨ps, passed', slashes', hps⟩ := ih
    refine ⟨ps, passed', slashes', fun rest h ↦ ?_⟩
    exact (piecesFrom_bracket ((tagBody?_append h cs).trans hnone)).trans (hps rest h)
  | case4 passed slashes cs body hbody piece _ ih =>
    obtain ⟨ps, passed', slashes', hps⟩ := ih
    refine ⟨.text passed.reverse :: .text (backslashes (slashes / 2)) ::
      tagPiece slashes body :: ps, passed', slashes', fun rest h ↦ ?_⟩
    -- The tag ends within the text, so what is left of the text goes on in the rest.
    have hlength : body.length + 1 ≤ cs.length := by
      have := congrArg List.length (eq_append_of_tagBody? hbody)
      rw [List.length_append, List.length_cons] at this
      omega
    refine (piecesFrom_tag ((tagBody?_append h cs).trans hbody)).trans ?_
    rw [List.drop_append_of_le_length hlength, hps rest h]
    rfl
  | case5 passed slashes c cs hslash hopen ih =>
    obtain ⟨ps, passed', slashes', hps⟩ := ih
    exact ⟨ps, passed', slashes', fun rest h ↦ (piecesFrom_other hslash hopen).trans (hps rest h)⟩

/-! ### Tag-free and inert texts -/

/-- No bracket opens a tag. -/
def IsTagFree (cs : List Char) : Prop :=
  ∀ behind, '[' :: behind <:+ cs → tagBody? behind = none

/-- No character means anything in markup: no bracket opens a tag, and none stands behind a
backslash. -/
structure IsInert (cs : List Char) : Prop where
  /-- No bracket opens a tag. -/
  tagFree : IsTagFree cs
  /-- No bracket stands behind a backslash. -/
  unescaped : ¬['\\', '['] <:+: cs

theorem isTagFree_nil : IsTagFree [] := by
  intro behind h
  cases List.suffix_nil.1 h

/-- A text is tag-free if its first character opens no tag and the rest is tag-free. -/
theorem isTagFree_cons :
    IsTagFree (c :: cs) ↔ (c = '[' → tagBody? cs = none) ∧ IsTagFree cs := by
  constructor
  · refine fun h ↦ ⟨?_, fun behind hbehind ↦ h behind (hbehind.trans (List.suffix_cons c cs))⟩
    rintro rfl
    exact h cs List.suffix_rfl
  · rintro ⟨hc, hcs⟩ behind hbehind
    rcases List.suffix_cons_iff.1 hbehind with heq | hsuffix
    · cases heq
      exact hc rfl
    · exact hcs behind hsuffix

theorem IsTagFree.slash (h : IsTagFree cs) : IsTagFree ('\\' :: cs) :=
  isTagFree_cons.2 ⟨nofun, h⟩

theorem isInert_nil : IsInert [] :=
  ⟨isTagFree_nil, fun h ↦ by cases List.infix_nil.1 h⟩

/-- A text is inert if its first character neither opens a tag nor is a backslash in front of a
bracket, and the rest is inert. -/
theorem isInert_cons :
    IsInert (c :: cs) ↔
      (c = '[' → tagBody? cs = none) ∧ (c = '\\' → cs.head? ≠ some '[') ∧ IsInert cs := by
  have hpair : ['\\', '['] <+: c :: cs ↔ c = '\\' ∧ cs.head? = some '[' := by
    cases cs <;> simp [eq_comm]
  constructor
  · rintro ⟨htagFree, hunescaped⟩
    obtain ⟨hc, hcs⟩ := isTagFree_cons.1 htagFree
    refine ⟨hc, fun hslash hhead ↦ ?_, hcs, fun h ↦ ?_⟩
    · exact hunescaped (hpair.2 ⟨hslash, hhead⟩).isInfix
    · exact hunescaped (h.trans (List.suffix_cons c cs).isInfix)
  · rintro ⟨hc, hslash, hcs⟩
    refine ⟨isTagFree_cons.2 ⟨hc, hcs.tagFree⟩, fun h ↦ ?_⟩
    rcases List.infix_cons_iff.1 h with h | h
    · exact hslash (hpair.1 h).1 (hpair.1 h).2
    · exact hcs.unescaped h

theorem isTagFree_of_not_mem (h : '[' ∉ cs) : IsTagFree cs :=
  fun _ hbehind ↦ absurd (hbehind.subset List.mem_cons_self) h

/-- Without brackets a text is inert, however many backslashes it has. -/
theorem isInert_of_not_mem (h : '[' ∉ cs) : IsInert cs :=
  ⟨isTagFree_of_not_mem h, fun hpair ↦ h (hpair.subset (by simp))⟩

/-- Characters that mean nothing in markup do not matter in front of a text. -/
theorem isInert_append_of_forall {front : List Char} (h : ∀ c ∈ front, c ≠ '\\' ∧ c ≠ '[') :
    IsInert (front ++ cs) ↔ IsInert cs := by
  induction front with
  | nil => rfl
  | cons c front ih =>
    obtain ⟨⟨hslash, hopen⟩, hfront⟩ := List.forall_mem_cons.1 h
    rw [List.cons_append, isInert_cons, ih hfront]
    simp [hslash, hopen]

/-- A tag-free text stays so in front of one that closes none of its brackets. -/
theorem IsTagFree.append (h : IsTagFree cs) (hrest : IsTagFree rest)
    (hclose : upToClose? rest = none) : IsTagFree (cs ++ rest) := by
  induction cs with
  | nil => exact hrest
  | cons c cs ih =>
    obtain ⟨hc, hcs⟩ := isTagFree_cons.1 h
    rw [List.cons_append, isTagFree_cons, tagBody?_append hclose]
    exact ⟨hc, ih hcs⟩

/-- A text without opening brackets opens no tag in front of another either. -/
theorem isTagFree_append_of_not_mem (h : '[' ∉ cs) (hrest : IsTagFree rest) :
    IsTagFree (cs ++ rest) := by
  induction cs with
  | nil => exact hrest
  | cons c cs ih =>
    have hc : c ≠ '[' := fun hopen ↦ h (hopen ▸ List.mem_cons_self)
    have hcs : '[' ∉ cs := fun hmem ↦ h (List.mem_cons_of_mem c hmem)
    exact isTagFree_cons.2 ⟨fun hopen ↦ absurd hopen hc, ih hcs⟩

/-- An inert text stays so in front of another that closes none of its brackets and does not start
with one. -/
theorem isInert_append (hrest : IsInert rest) (hclose : upToClose? rest = none)
    (hhead : rest.head? ≠ some '[') : IsInert (cs ++ rest) ↔ IsInert cs := by
  induction cs with
  | nil => exact iff_of_true hrest isInert_nil
  | cons c cs ih =>
    have hcons : IsInert (c :: cs) ↔ _ := isInert_cons
    have hnext : (cs ++ rest).head? = some '[' ↔ cs.head? = some '[' := by
      cases cs with
      | nil => exact iff_of_false hhead nofun
      | cons d cs => rfl
    rw [List.cons_append, isInert_cons, hcons, ih, tagBody?_append hclose, Ne, hnext]

/-- A tag in a text is a tag whatever follows. -/
theorem IsTagFree.of_append_right (h : IsTagFree (cs ++ rest)) : IsTagFree cs := by
  induction cs with
  | nil => exact isTagFree_nil
  | cons c cs ih =>
    obtain ⟨hc, hcs⟩ := isTagFree_cons.1 h
    refine isTagFree_cons.2 ⟨fun hopen ↦ ?_, ih hcs⟩
    cases hbody : tagBody? cs with
    | none => rfl
    | some body => exact absurd (hc hopen) (by simp [tagBody?_append_of_eq_some hbody])

theorem IsTagFree.of_append (h : IsTagFree (rest ++ cs)) : IsTagFree cs :=
  fun behind hbehind ↦ h behind (hbehind.trans (List.suffix_append rest cs))

/-- What is behind something in an inert text is inert. -/
theorem IsInert.of_append (h : IsInert (rest ++ cs)) : IsInert cs :=
  ⟨h.tagFree.of_append, fun hpair ↦
    h.unescaped (hpair.trans (List.suffix_append rest cs).isInfix)⟩

/-- What is in front of something in an inert text is inert, as a tag or a pair that it had would
still be there. -/
theorem IsInert.of_append_right (h : IsInert (cs ++ rest)) : IsInert cs :=
  ⟨h.tagFree.of_append_right, fun hpair ↦
    h.unescaped (hpair.trans (List.prefix_append cs rest).isInfix)⟩

theorem backslashes_succ (n : Nat) (cs : List Char) :
    backslashes (n + 1) ++ cs = backslashes n ++ '\\' :: cs := by
  rw [backslashes, List.replicate_succ', List.append_assoc]
  rfl

/-! ### Pieces of such texts -/

/-- A tag-free text is a single piece of text. -/
theorem IsTagFree.exists_piecesFrom_eq (h : IsTagFree cs) (passed : List Char) (slashes : Nat) :
    ∃ text, piecesFrom passed slashes cs = [.text text] := by
  induction cs generalizing passed slashes with
  | nil => exact ⟨_, piecesFrom_nil passed slashes⟩
  | cons c cs ih =>
    obtain ⟨hc, hcs⟩ := isTagFree_cons.1 h
    by_cases hslash : c = '\\'
    · rw [hslash, piecesFrom_slash]
      exact ih hcs _ _
    · by_cases hopen : c = '['
      · rw [hopen, piecesFrom_bracket (hc hopen)]
        exact ih hcs _ _
      · rw [piecesFrom_other hslash hopen]
        exact ih hcs _ _

/-- An inert text is passed to its end, with the backslashes passed just now counted in. -/
theorem piecesFrom_of_isInert_append (slashes : Nat) (h : IsInert (backslashes slashes ++ cs))
    (passed : List Char) :
    piecesFrom passed slashes cs = [.text (passed.reverse ++ (backslashes slashes ++ cs))] := by
  induction cs generalizing passed slashes with
  | nil => rw [piecesFrom_nil, List.append_nil]
  | cons c cs ih =>
    have hcons := isInert_cons.1 h.of_append
    by_cases hslash : c = '\\'
    · subst hslash
      rw [← backslashes_succ] at h ⊢
      rw [piecesFrom_slash, ih _ h]
    · by_cases hopen : c = '['
      · subst hopen
        -- A backslash in front of the bracket would be dropped.
        obtain rfl : slashes = 0 := by
          cases slashes with
          | zero => rfl
          | succ n =>
            refine absurd ⟨backslashes n, cs, ?_⟩ h.unescaped
            rw [backslashes_succ, List.append_assoc]
            rfl
        rw [piecesFrom_bracket (hcons.1 rfl), ih 0 hcons.2.2]
        simp [backslashes]
      · rw [piecesFrom_other hslash hopen, ih 0 hcons.2.2]
        simp [backslashes]

/-- An inert text is a piece of text as it is. -/
theorem IsInert.piecesFrom_eq (h : IsInert cs) (passed : List Char) :
    piecesFrom passed 0 cs = [.text (passed.reverse ++ cs)] :=
  piecesFrom_of_isInert_append 0 h passed

/-! ### Characters outside tags -/

namespace Piece

/-- The characters of a piece that are no tag. -/
def chars : Piece → List Char
  | text cs => cs
  | tag _ => []

end Piece

/-- The characters of some pieces that stand outside tags. -/
def charsOf (ps : List Piece) : List Char :=
  ps.flatMap Piece.chars

/-- How many characters of a text mean something in markup, the backslashes each counted several
times. -/
def weight (n : Nat) (cs : List Char) : Nat :=
  n * cs.count '\\' + cs.count '['

theorem weight_nil (n : Nat) : weight n [] = 0 := by
  rw [weight, List.count_nil, List.count_nil, Nat.mul_zero]

theorem weight_append (n : Nat) (cs rest : List Char) :
    weight n (cs ++ rest) = weight n cs + weight n rest := by
  simp only [weight, List.count_append, Nat.mul_add]
  omega

theorem weight_reverse (n : Nat) (cs : List Char) : weight n cs.reverse = weight n cs := by
  simp only [weight, List.count_reverse]

theorem weight_backslashes (n k : Nat) : weight n (backslashes k) = n * k := by
  simp [weight, backslashes, List.count_replicate]

theorem weight_slash (n : Nat) (cs : List Char) : weight n ('\\' :: cs) = n + weight n cs := by
  simp [weight, Nat.mul_add]
  omega

theorem weight_bracket (n : Nat) (cs : List Char) : weight n ('[' :: cs) = weight n cs + 1 := by
  simp [weight]
  omega

theorem weight_other (n : Nat) (hslash : c ≠ '\\') (hopen : c ≠ '[') (cs : List Char) :
    weight n (c :: cs) = weight n cs := by
  simp [weight, hslash, hopen]

/-- Characters that mean nothing in markup weigh nothing. -/
theorem weight_eq_zero_of_forall {front : List Char} (h : ∀ c ∈ front, c ≠ '\\' ∧ c ≠ '[')
    (n : Nat) : weight n front = 0 := by
  rw [weight, List.count_eq_zero_of_not_mem fun hmem ↦ (h _ hmem).1 rfl,
    List.count_eq_zero_of_not_mem fun hmem ↦ (h _ hmem).2 rfl, Nat.mul_zero]

/-- Every tag loses its bracket, or a backslash in front of it. -/
theorem weight_tagPiece (n slashes : Nat) (body : List Char) :
    n * (slashes / 2) + weight n (tagPiece slashes body).chars + min n 1 ≤
      n * slashes + weight n body + 1 := by
  by_cases heven : slashes % 2 = 0
  · have hhalf : n * (slashes / 2) ≤ n * slashes := Nat.mul_le_mul_left n (Nat.div_le_self ..)
    simp only [tagPiece, if_pos heven, Piece.chars, weight, List.count_nil]
    omega
  · have hhalf : n * (slashes / 2 + 1) ≤ n * slashes := Nat.mul_le_mul_left n (by omega)
    have hclose : weight n [']'] = 0 := weight_other n (by decide) (by decide) []
    simp only [tagPiece, if_neg heven, Piece.chars, List.cons_append, weight_bracket,
      weight_append, hclose, Nat.mul_add] at hhalf ⊢
    omega

/-- What a tag and the text behind it weigh adds up; the closing bracket weighs nothing. -/
theorem weight_of_tagBody? (h : tagBody? cs = some body) (n : Nat) :
    weight n cs = weight n body + weight n (cs.drop (body.length + 1)) := by
  conv_lhs => rw [eq_append_of_tagBody? h]
  rw [weight_append, weight_other n (by decide) (by decide)]

/-- At a tag something is lost, provided that nothing is gained in the rest. -/
theorem weight_charsOf_tag (h : tagBody? cs = some body) {n : Nat} {ps : List Piece}
    (hps : weight n (charsOf ps) ≤ weight n (cs.drop (body.length + 1))) (passed : List Char)
    (slashes : Nat) :
    weight n (charsOf (.text passed.reverse :: .text (backslashes (slashes / 2)) ::
        tagPiece slashes body :: ps)) + min n 1 ≤
      weight n passed + n * slashes + weight n ('[' :: cs) := by
  have htag := weight_tagPiece n slashes body
  have hcs := weight_of_tagBody? h n
  rw [charsOf] at hps
  simp only [charsOf, List.flatMap_cons, weight_append, weight_bracket]
  simp only [Piece.chars, weight_reverse, weight_backslashes] at htag ⊢
  omega

/-- Taking a text apart adds nothing that means something in markup. -/
theorem weight_charsOf_le (n : Nat) (passed : List Char) (slashes : Nat) (cs : List Char) :
    weight n (charsOf (piecesFrom passed slashes cs)) ≤
      weight n passed + n * slashes + weight n cs := by
  -- What has been passed counts among what there was, so that the bound is kept on the way.
  fun_induction piecesFrom passed slashes cs with
  | case1 passed slashes =>
    simp only [charsOf, List.flatMap_cons, List.flatMap_nil, Piece.chars, weight_append,
      weight_reverse, weight_backslashes]
    omega
  | case2 passed slashes cs ih =>
    rw [Nat.mul_add] at ih
    rw [weight_slash]
    omega
  | case3 passed slashes cs _ _ ih =>
    have hless : n * (slashes - 1) ≤ n * slashes := Nat.mul_le_mul_left n (Nat.sub_le ..)
    simp only [List.cons_append, weight_bracket, weight_append, weight_backslashes] at ih ⊢
    omega
  | case4 passed slashes cs body hbody piece _ ih =>
    rw [weight_nil, Nat.mul_zero, Nat.zero_add] at ih
    exact (Nat.le_add_right ..).trans (weight_charsOf_tag hbody ih passed slashes)
  | case5 passed slashes c cs hslash hopen ih =>
    simp only [List.cons_append, weight_other n hslash hopen, weight_append,
      weight_backslashes] at ih ⊢
    omega

/-- A tag behind an even number of backslashes loses its bracket. -/
theorem weight_charsOf_lt (h : tagBody? cs = some body) (heven : slashes % 2 = 0) (n : Nat)
    (passed : List Char) :
    weight n (charsOf (piecesFrom passed slashes ('[' :: cs))) <
      weight n passed + n * slashes + weight n ('[' :: cs) := by
  have hrest := weight_charsOf_le n [] 0 (cs.drop (body.length + 1))
  have hcs := weight_of_tagBody? h n
  have hhalf : n * (slashes / 2) ≤ n * slashes := Nat.mul_le_mul_left n (Nat.div_le_self ..)
  rw [piecesFrom_tag h, tagPiece, if_pos heven, weight_bracket]
  rw [weight_nil, charsOf] at hrest
  simp only [charsOf, List.flatMap_cons, weight_append, Piece.chars, weight_nil, weight_reverse,
    weight_backslashes]
  omega

/-- If nothing that was passed or is to come is lost, then what is to come is inert, and it does not
start with a bracket behind a backslash. -/
theorem isInert_of_weight_add_le {n : Nat} (hn : 0 < n)
    (h : weight n passed + n * slashes + weight n cs ≤
      weight n (charsOf (piecesFrom passed slashes cs))) :
    IsInert cs ∧ (cs.head? = some '[' → slashes = 0) := by
  fun_induction piecesFrom passed slashes cs with
  | case1 => exact ⟨isInert_nil, nofun⟩
  | case2 passed slashes cs ih =>
    rw [weight_slash] at h
    obtain ⟨hcs, hhead⟩ := ih (by rw [Nat.mul_add]; omega)
    exact ⟨isInert_cons.2 ⟨nofun, fun _ hopen ↦ absurd (hhead hopen) (by simp), hcs⟩, nofun⟩
  | case3 passed slashes cs hnone _ ih =>
    have hle := weight_charsOf_le n ('[' :: backslashes (slashes - 1) ++ passed) 0 cs
    simp only [List.cons_append, weight_bracket, weight_append, weight_backslashes] at h hle ih
    have hless : n * slashes ≤ n * (slashes - 1) := by omega
    have hzero : slashes = 0 := by
      have := Nat.le_of_mul_le_mul_left hless hn
      omega
    subst hzero
    exact ⟨isInert_cons.2 ⟨fun _ ↦ hnone, nofun, (ih (by omega)).1⟩, fun _ ↦ rfl⟩
  | case4 passed slashes cs body hbody piece _ ih =>
    have hrest := weight_charsOf_le n [] 0 (cs.drop (body.length + 1))
    rw [weight_nil, Nat.mul_zero, Nat.zero_add] at hrest
    -- A tag loses more than there is room for.
    have hle := h.trans (Nat.le_sub_of_add_le (weight_charsOf_tag hbody hrest passed slashes))
    rw [weight_bracket] at hle
    omega
  | case5 passed slashes c cs hslash hopen ih =>
    simp only [List.cons_append, weight_other n hslash hopen, weight_append,
      weight_backslashes] at ih h
    refine ⟨isInert_cons.2 ⟨fun hc ↦ absurd hc hopen, fun hc ↦ absurd hc hslash, ?_⟩, ?_⟩
    · exact (ih (by omega)).1
    · exact fun hc ↦ absurd (Option.some.inj hc) hopen

/-- A text that keeps all that means something in markup is inert. -/
theorem isInert_of_weight_le {n : Nat} (hn : 0 < n)
    (h : weight n cs ≤ weight n (charsOf (piecesFrom [] 0 cs))) : IsInert cs := by
  have hle : weight n [] + n * 0 + weight n cs ≤ weight n (charsOf (piecesFrom [] 0 cs)) := by
    rwa [weight_nil, Nat.mul_zero, Nat.zero_add]
  exact (isInert_of_weight_add_le hn hle).1

theorem charsOf_append (ps qs : List Piece) : charsOf (ps ++ qs) = charsOf ps ++ charsOf qs :=
  List.flatMap_append

/-- How far a text is taken apart by itself: some pieces, then characters and backslashes that go
on with what follows. -/
theorem exists_piecesFrom_eq (cs : List Char) :
    ∃ (ps : List Piece) (passed : List Char) (slashes : Nat),
      piecesFrom [] 0 cs = ps ++ [.text (passed.reverse ++ backslashes slashes)] ∧
      (∀ rest, upToClose? rest = none →
        piecesFrom [] 0 (cs ++ rest) = ps ++ piecesFrom passed slashes rest) ∧
      ∀ n, weight n (charsOf (piecesFrom [] 0 cs)) =
        weight n (charsOf ps) + (weight n passed + n * slashes) := by
  obtain ⟨ps, passed, slashes, hps⟩ := exists_piecesFrom_append [] 0 cs
  have hcs : piecesFrom [] 0 cs = ps ++ [.text (passed.reverse ++ backslashes slashes)] := by
    rw [← piecesFrom_nil, ← hps [] rfl, List.append_nil]
  refine ⟨ps, passed, slashes, hcs, hps, fun n ↦ ?_⟩
  have htext : charsOf [.text (passed.reverse ++ backslashes slashes)] =
      passed.reverse ++ backslashes slashes := List.append_nil _
  rw [hcs, charsOf_append, htext, weight_append, weight_append, weight_reverse, weight_backslashes]

/-- An inert text without a backslash at the end is passed as it is. -/
theorem IsInert.piecesFrom_append (h : IsInert cs) (hlast : cs.getLast? ≠ some '\\')
    (hrest : upToClose? rest = none) :
    piecesFrom [] 0 (cs ++ rest) = piecesFrom cs.reverse 0 rest := by
  obtain ⟨ps, passed, slashes, hcs, hps, -⟩ := exists_piecesFrom_eq cs
  rw [h.piecesFrom_eq] at hcs
  obtain rfl : ps = [] := by
    have hlength := congrArg List.length hcs
    rw [List.length_append] at hlength
    exact List.length_eq_zero_iff.1 (Nat.succ.inj hlength).symm
  obtain rfl : cs = passed.reverse ++ backslashes slashes := by
    simpa using hcs
  obtain rfl : slashes = 0 := by
    cases slashes with
    | zero => rfl
    | succ n => simp [backslashes, List.replicate_succ'] at hlast
  rw [hps rest hrest, backslashes, List.replicate_zero, List.append_nil, List.reverse_reverse]
  rfl

/-- Exactly the inert texts consist of their own characters. -/
theorem charsOf_piecesFrom_eq_iff : charsOf (piecesFrom [] 0 cs) = cs ↔ IsInert cs := by
  constructor
  · exact fun h ↦ isInert_of_weight_le Nat.one_pos (congrArg (weight 1) h).ge
  · intro h
    rw [h.piecesFrom_eq]
    exact List.append_nil cs

end ChannelGraph.Markup
