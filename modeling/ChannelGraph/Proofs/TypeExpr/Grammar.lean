import ChannelGraph.Proofs.TypeExpr.Reading
import Mathlib.Data.List.Basic

/-!
# The grammar of the notation

`TypeExpr.Spells` says which tokens spell which type, without saying how they are read. The reader
takes exactly such tokens from the front (`ofTokens_sound`), and it takes all tokens of a spelling
if none or a closing bracket follows (`Spells.reads`). So a spelling that stands at the end or in
brackets determines the type.
-/

namespace ChannelGraph

namespace TypeExpr

variable {scope : String} {opener closer : Mark} {depth : Nat} {ts body rest used : List Token}
  {e : TypeExpr}

/-! ### Groups -/

/-- Tokens in which every bracket of one kind has its partner. -/
inductive Balanced (opener closer : Mark) : List Token → Prop
  | nil : Balanced opener closer []
  | other {t : Token} {ts : List Token} (hopener : t ≠ .mark opener) (hcloser : t ≠ .mark closer)
    (h : Balanced opener closer ts) : Balanced opener closer (t :: ts)
  | group {body ts : List Token} (hbody : Balanced opener closer body)
    (h : Balanced opener closer ts) :
    Balanced opener closer (.mark opener :: (body ++ .mark closer :: ts))

/-- Balanced tokens can be joined. -/
theorem Balanced.append {us : List Token} (h : Balanced opener closer ts)
    (hus : Balanced opener closer us) : Balanced opener closer (ts ++ us) := by
  induction h with
  | nil => exact hus
  | other hopener hcloser _ ih => exact .other hopener hcloser ih
  | group hbody _ _ ih =>
    rw [List.cons_append, List.append_assoc, List.cons_append]
    exact .group hbody ih

/-- A group in brackets: an opening bracket, balanced tokens and the closing bracket. -/
def IsGroup (opener closer : Mark) (ts : List Token) : Prop :=
  ∃ body, Balanced opener closer body ∧ ts = .mark opener :: (body ++ [.mark closer])

theorem behindGroup_cons (opener closer : Mark) (depth : Nat) (t : Token) (ts : List Token) :
    behindGroup opener closer depth (t :: ts) =
      if t = .mark opener then behindGroup opener closer (depth + 1) ts
      else if t = .mark closer then
        if depth = 0 then some ts else behindGroup opener closer (depth - 1) ts
      else behindGroup opener closer depth ts := by
  cases depth <;> simp [behindGroup]

/-- The bracket that closes a group inside another one. -/
theorem behindGroup_closer (hne : opener ≠ closer) (depth : Nat) (ts : List Token) :
    behindGroup opener closer (depth + 1) (.mark closer :: ts) =
      behindGroup opener closer depth ts := by
  have hclose : Token.mark closer ≠ .mark opener := fun heq ↦ hne (Token.mark.inj heq).symm
  rw [behindGroup_cons, if_neg hclose, if_pos rfl, if_neg (Nat.succ_ne_zero depth),
    Nat.add_sub_cancel]

/-- Balanced tokens are passed over. -/
theorem Balanced.behindGroup_append (h : Balanced opener closer body) (hne : opener ≠ closer)
    (depth : Nat) (rest : List Token) :
    behindGroup opener closer depth (body ++ rest) = behindGroup opener closer depth rest := by
  induction h generalizing depth rest with
  | nil => rfl
  | other hopener hcloser _ ih =>
    rw [List.cons_append, behindGroup_cons, if_neg hopener, if_neg hcloser, ih]
  | group _ _ ihbody ih =>
    rw [List.cons_append, List.append_assoc, List.cons_append, behindGroup_cons, if_pos rfl,
      ihbody, behindGroup_closer hne, ih]

/-- What is passed over before the closing bracket is balanced. -/
theorem exists_balanced (hne : opener ≠ closer)
    (h : behindGroup opener closer depth ts = some rest) :
    ∃ body behind, Balanced opener closer body ∧ ts = body ++ .mark closer :: behind ∧
      behindGroup opener closer depth (.mark closer :: behind) = some rest := by
  -- a group inside is followed by what is shorter, but is not the rest of the list
  induction hlen : ts.length using Nat.strongRecOn generalizing depth ts with
  | ind n ih =>
    subst hlen
    cases ts with
    | nil => cases h
    | cons t us =>
      have hshort : us.length < (t :: us).length := Nat.lt_succ_self _
      by_cases hopen : t = .mark opener
      · rw [behindGroup_cons, if_pos hopen] at h
        obtain ⟨body, inner, hbody, hus, hinner⟩ := ih _ hshort h rfl
        rw [behindGroup_closer hne] at hinner
        have hshorter : inner.length < (t :: us).length := by
          rw [hus, List.length_cons, List.length_append, List.length_cons]
          omega
        obtain ⟨body', behind, hbody', hsplit, hbehind⟩ := ih _ hshorter hinner rfl
        refine ⟨_, behind, .group hbody hbody', ?_, hbehind⟩
        rw [hopen, hus, hsplit, List.cons_append, List.append_assoc, List.cons_append]
      by_cases hclose : t = .mark closer
      · subst hclose
        exact ⟨[], us, .nil, rfl, h⟩
      · rw [behindGroup_cons, if_neg hopen, if_neg hclose] at h
        obtain ⟨body, behind, hbody, hus, hbehind⟩ := ih _ hshort h rfl
        exact ⟨t :: body, behind, .other hopen hclose hbody, congrArg (t :: ·) hus, hbehind⟩

/-- The group that is read is one. -/
theorem exists_of_groupAt (hne : opener ≠ closer)
    {v : { r : Unit × List Token // r.2.length < ts.length }}
    (h : groupAt opener closer ts = .ok v) :
    ∃ group, ts = group ++ v.val.2 ∧ IsGroup opener closer group := by
  unfold groupAt at h
  split at h
  · cases h
  · split at h
    · rename_i hopen
      split at h
      · cases h
      · rename_i rest hbehind
        cases h
        obtain ⟨body, behind, hbody, rfl, hclose⟩ := exists_balanced hne hbehind
        obtain rfl : behind = rest := by
          rw [behindGroup_cons, if_neg fun heq ↦ hne (Token.mark.inj heq).symm, if_pos rfl,
            if_pos rfl] at hclose
          exact Option.some.inj hclose
        refine ⟨_, ?_, body, hbody, rfl⟩
        simp [hopen]
    · cases h

/-- A group is read whatever follows. -/
theorem IsGroup.groupAt (hne : opener ≠ closer) {group : List Token}
    (h : IsGroup opener closer group) (hts : ts = group ++ rest) :
    ∃ hlen, groupAt opener closer ts = .ok ⟨((), rest), hlen⟩ := by
  obtain ⟨body, hbody, rfl⟩ := h
  have hbehind : behindGroup opener closer 0 (body ++ .mark closer :: rest) = some rest := by
    rw [hbody.behindGroup_append hne, behindGroup_cons,
      if_neg fun heq ↦ hne (Token.mark.inj heq).symm, if_pos rfl, if_pos rfl]
  have hsplit : ts = .mark opener :: (body ++ .mark closer :: rest) := by
    simpa using hts
  subst hsplit
  have hlen : rest.length < (Token.mark opener :: (body ++ .mark closer :: rest)).length := by
    simp only [List.length_cons, List.length_append]
    omega
  refine ⟨hlen, ?_⟩
  rw [TypeExpr.groupAt, if_pos rfl]
  split
  · rename_i hnone
    rw [hbehind] at hnone
    cases hnone
  · rename_i hsome
    rw [hbehind] at hsome
    cases hsome
    rfl

/-! ### Spellings -/

/-- The identifiers that begin something else than a name. -/
def keywords : List String :=
  ["chan", "map", "func", "interface", "struct"]

/-- How a type is spelled in tokens, its parameters being in a scope. -/
inductive Spells (scope : String) : List Token → TypeExpr → Prop
  | param (x : String) : Spells scope [.mark .dollar, .ident x] (param ⟨scope, x⟩)
  | pointer {ts : List Token} {e : TypeExpr} (h : Spells scope ts e) :
    Spells scope (.mark .star :: ts) (compound "*" [e])
  | slice {ts : List Token} {e : TypeExpr} (h : Spells scope ts e) :
    Spells scope (.mark .openBracket :: .mark .closeBracket :: ts) (compound "[]" [e])
  | array (n : String) {ts : List Token} {e : TypeExpr} (h : Spells scope ts e) :
    Spells scope (.mark .openBracket :: .number n :: .mark .closeBracket :: ts)
      (compound ("[" ++ n ++ "]") [e])
  | receive {ts : List Token} {e : TypeExpr} (h : Spells scope ts e) :
    Spells scope (.mark .arrow :: .ident "chan" :: ts) (compound "<-chan" [e])
  | send {ts : List Token} {e : TypeExpr} (h : Spells scope ts e) :
    Spells scope (.ident "chan" :: .mark .arrow :: ts) (compound "chan<-" [e])
  | chan {ts : List Token} {e : TypeExpr} (h : Spells scope ts e)
    (harrow : ts.head? ≠ some (.mark .arrow)) :
    Spells scope (.ident "chan" :: ts) (compound "chan" [e])
  | map {ks vs : List Token} {key value : TypeExpr} (hk : Spells scope ks key)
    (hv : Spells scope vs value) :
    Spells scope (.ident "map" :: .mark .openBracket :: (ks ++ .mark .closeBracket :: vs))
      (compound "map" [key, value])
  | func {args : List Token} (hargs : IsGroup .openParen .closeParen args)
    (hdollar : .mark .dollar ∉ args) :
    Spells scope (.ident "func" :: args) (name (Token.join (.ident "func" :: args)))
  | funcGroup {args results : List Token} (hargs : IsGroup .openParen .closeParen args)
    (hresults : IsGroup .openParen .closeParen results)
    (hdollar : .mark .dollar ∉ args ++ results) :
    Spells scope (.ident "func" :: (args ++ results))
      (name (Token.join (.ident "func" :: (args ++ results))))
  | funcType {args ts : List Token} {result : TypeExpr}
    (hargs : IsGroup .openParen .closeParen args) (h : Spells scope ts result)
    (hdollar : .mark .dollar ∉ args ++ ts) :
    Spells scope (.ident "func" :: (args ++ ts)) (name (Token.join (.ident "func" :: (args ++ ts))))
  | block {x : String} {body : List Token} (hx : x = "interface" ∨ x = "struct")
    (hbody : IsGroup .openBrace .closeBrace body) (hdollar : .mark .dollar ∉ body) :
    Spells scope (.ident x :: body) (name (Token.join (.ident x :: body)))
  | word {x : String} (hx : x ∉ keywords) : Spells scope [.ident x] (name x)
  | qualified {x : String} (hx : x ∉ keywords) (y : String) :
    Spells scope [.ident x, .mark .dot, .ident y] (name (x ++ "." ++ y))

/-- No type starts with a round or with a closing bracket. -/
theorem Spells.exists_cons (h : Spells scope ts e) :
    ∃ t behind, ts = t :: behind ∧ t ≠ .mark .openParen ∧ t.isCloser = false := by
  cases h <;> exact ⟨_, _, rfl, by simp, rfl⟩

/-! ### The reader takes spellings -/

/-- The tokens of an opaque type, as they are taken in front of what is left. -/
theorem take_used (first : Token) (used rest : List Token) :
    (first :: (used ++ rest)).take ((used ++ rest).length + 1 - rest.length) = first :: used := by
  rw [← List.cons_append]
  refine List.take_left' ?_
  simp only [List.length_cons, List.length_append]
  omega

/-- A name of several tokens is made of what stood in front of the rest, without a dollar sign. -/
theorem eq_of_opaqueAt {first : Token} {behind : List Token} (hbehind : behind = used ++ rest)
    (hlen : rest.length < behind.length)
    {v : { r : TypeExpr × List Token // r.2.length < (first :: behind).length }}
    (h : opaqueAt first hlen = .ok v) :
    v.val = (name (Token.join (first :: used)), rest) ∧ .mark .dollar ∉ first :: used := by
  subst hbehind
  unfold opaqueAt at h
  dsimp only at h
  rw [take_used] at h
  split at h
  · cases h
  · rename_i hdollar
    cases h
    exact ⟨rfl, hdollar⟩

/-- A constructor in front of what is spelled. -/
theorem wrapAt_sound {head : String} (front : List Token) {behind : List Token}
    (hts : ts = front ++ behind)
    (hwrap : ∀ us rest e, behind = us ++ rest → Spells scope us e →
      Spells scope (front ++ us) (compound head [e]))
    (hlen : behind.length < ts.length) {read : ReadAt TypeExpr behind}
    (hread : ∀ v, read = .ok v → ∃ used, behind = used ++ v.val.2 ∧ Spells scope used v.val.1) :
    ∀ v, wrapAt head hlen read = .ok v →
      ∃ used, ts = used ++ v.val.2 ∧ Spells scope used v.val.1 := by
  intro v hv
  cases read with
  | error f => cases hv
  | ok w =>
    cases hv
    obtain ⟨used, hused, hspells⟩ := hread w rfl
    refine ⟨front ++ used, ?_, hwrap used _ _ hused hspells⟩
    exact hts.trans ((congrArg (front ++ ·) hused).trans (List.append_assoc ..).symm)

/-- An opaque type is spelled by what is in front of what is left. -/
theorem opaqueAt_sound {first : Token} {behind : List Token} (hbehind : behind = used ++ rest)
    (hspells : .mark .dollar ∉ used →
      Spells scope (first :: used) (name (Token.join (first :: used))))
    (hlen : rest.length < behind.length) :
    ∀ v, opaqueAt first hlen = .ok v →
      ∃ used, first :: behind = used ++ v.val.2 ∧ Spells scope used v.val.1 := by
  intro v hv
  obtain ⟨hval, hdollar⟩ := eq_of_opaqueAt hbehind hlen hv
  rw [hval]
  refine ⟨first :: used, congrArg _ hbehind, hspells ?_⟩
  exact fun hmem ↦ hdollar (List.mem_cons_of_mem _ hmem)

/-- A name is read from tokens that spell it. -/
theorem nameAt_sound {x : String} {behind : List Token} (hx : x ∉ keywords) :
    ∀ v, nameAt x behind = .ok v →
      ∃ used, .ident x :: behind = used ++ v.val.2 ∧ Spells scope used v.val.1 := by
  intro v hv
  unfold nameAt at hv
  split at hv
  · cases hv
    exact ⟨_, rfl, .qualified hx _⟩
  · cases hv
  · cases hv
  · cases hv
    exact ⟨_, rfl, .word hx⟩

/-- What is read at the front of tokens is spelled by the tokens in front of what is left. -/
theorem ofTokens_sound (ts : List Token) :
    ∀ v, ofTokens scope ts = .ok v → ∃ used, ts = used ++ v.val.2 ∧ Spells scope used v.val.1 := by
  intro v hv
  -- the cases that are not listed are refusals
  fun_induction ofTokens scope ts with
  | case2 x rest =>
    cases hv
    exact ⟨_, rfl, .param x⟩
  | case5 behind ih => exact wrapAt_sound [_] rfl (fun _ _ _ _ h ↦ .pointer h) _ ih v hv
  | case6 behind ih => exact wrapAt_sound [_, _] rfl (fun _ _ _ _ h ↦ .slice h) _ ih v hv
  | case7 n behind ih =>
    exact wrapAt_sound [_, _, _] rfl (fun _ _ _ _ h ↦ .array n h) _ ih v hv
  | case12 behind ih =>
    exact wrapAt_sound [_, _] rfl (fun _ _ _ _ h ↦ .receive h) _ ih v hv
  | case15 behind ih => exact wrapAt_sound [_, _] rfl (fun _ _ _ _ h ↦ .send h) _ ih v hv
  | case16 behind hbehind ih =>
    refine wrapAt_sound [_] rfl (fun us rest e hus h ↦ .chan h fun harrow ↦ ?_) _ ih v hv
    obtain ⟨us', rfl⟩ := List.head?_eq_some_iff.1 harrow
    exact hbehind _ hus
  | case21 behind key behind' h hkey value rest h' hvalue _ _ ihkey ihvalue =>
    cases hv
    obtain ⟨ks, hks, hkspells⟩ := ihkey _ hkey
    obtain ⟨vs, hvs, hvspells⟩ := ihvalue _ hvalue
    refine ⟨_, ?_, .map hkspells hvspells⟩
    have hbehind : behind = ks ++ .mark .closeBracket :: (vs ++ rest) :=
      hks.trans (congrArg (fun us ↦ ks ++ .mark .closeBracket :: us) hvs)
    simpa using hbehind
  | case25 behind _ h hgroup =>
    obtain ⟨args, hbehind, hargs⟩ := exists_of_groupAt (by decide) hgroup
    exact opaqueAt_sound hbehind (.func hargs) _ v hv
  | case27 behind _ behind' _ rest _ _ h hgroup h' hgroup' =>
    obtain ⟨args, hbehind, hargs⟩ := exists_of_groupAt (by decide) hgroup
    obtain ⟨results, hbehind', hresults⟩ := exists_of_groupAt (by decide) hgroup'
    have hsplit : behind = args ++ results ++ rest :=
      hbehind.trans ((congrArg (args ++ ·) hbehind').trans (List.append_assoc ..).symm)
    exact opaqueAt_sound hsplit (.funcGroup hargs hresults) _ v hv
  | case28 behind _ t behind' h hgroup =>
    obtain ⟨args, hbehind, hargs⟩ := exists_of_groupAt (by decide) hgroup
    exact opaqueAt_sound hbehind (.func hargs) _ v hv
  | case30 behind _ t behind' h hgroup _ _ result rest h' hresult _ _ ih =>
    obtain ⟨args, hbehind, hargs⟩ := exists_of_groupAt (by decide) hgroup
    obtain ⟨us, hbehind', hspells⟩ := ih _ hresult
    have hsplit : behind = args ++ us ++ rest :=
      hbehind.trans ((congrArg (args ++ ·) hbehind').trans (List.append_assoc ..).symm)
    exact opaqueAt_sound hsplit (.funcType hargs hspells) _ v hv
  | case32 x behind _ _ _ hx _ rest h hgroup =>
    obtain ⟨body, hbehind, hbody⟩ := exists_of_groupAt (by decide) hgroup
    exact opaqueAt_sound hbehind (.block hx hbody) _ v hv
  | case33 x behind hchan hmap hfunc hblock => exact nameAt_sound (by simp [keywords, *]) v hv
  | _ => cases hv

/-! ### Spellings are read -/

/-- Tokens behind a type: none, or a closing bracket and more. -/
def EndsSpelling (rest : List Token) : Prop :=
  ∀ t ∈ rest.head?, t = .mark .closeBracket

/-- The reader takes a type from the front of tokens and leaves the others. -/
def Reads (scope : String) (ts : List Token) (e : TypeExpr) (rest : List Token) : Prop :=
  ∃ hlen, ofTokens scope ts = .ok ⟨(e, rest), hlen⟩

/-- What is left behind a type is determined by the tokens. -/
theorem Reads.unique {e' : TypeExpr} {rest' : List Token} (h : Reads scope ts e rest)
    (h' : Reads scope ts e' rest') : rest = rest' := by
  obtain ⟨_, hread⟩ := h
  obtain ⟨_, hread'⟩ := h'
  cases hread.symm.trans hread'
  rfl

/-- Behind the front of a constructor its argument is read. -/
theorem wrapAt_reads {head : String} {behind : List Token} (hlen : behind.length < ts.length)
    (h : Reads scope behind e rest) :
    ∃ hlen', wrapAt head hlen (ofTokens scope behind) =
      .ok ⟨(compound head [e], rest), hlen'⟩ := by
  obtain ⟨hrest, hread⟩ := h
  rw [hread]
  exact ⟨Nat.lt_trans hrest hlen, rfl⟩

theorem ofTokens_chan (behind : List Token) (harrow : behind.head? ≠ some (.mark .arrow)) :
    ofTokens scope (.ident "chan" :: behind) =
      wrapAt "chan" (Nat.lt_succ_self _) (ofTokens scope behind) := by
  rw [ofTokens.eq_def]
  dsimp only
  rw [if_pos rfl]
  split
  · exact absurd rfl harrow
  · rfl

/-- A word that is no keyword begins a name. -/
theorem ofTokens_of_not_mem_keywords {x : String} (hx : x ∉ keywords) (behind : List Token) :
    ofTokens scope (.ident x :: behind) = nameAt x behind := by
  simp only [keywords, List.mem_cons, List.not_mem_nil, or_false, not_or] at hx
  obtain ⟨hchan, hmap, hfunc, hinterface, hstruct⟩ := hx
  rw [ofTokens.eq_def]
  dsimp only
  rw [if_neg hchan, if_neg hmap, if_neg hfunc, if_neg (not_or.2 ⟨hinterface, hstruct⟩)]

theorem nameAt_of_head {x : String} {behind : List Token}
    (hdot : behind.head? ≠ some (.mark .dot)) :
    nameAt x behind = .ok ⟨(name x, behind), Nat.lt_succ_self _⟩ := by
  unfold nameAt
  split <;> first | rfl | exact absurd rfl hdot

/-- A map is read from its key, a bracket and its value. -/
theorem map_reads {behind vs : List Token} {key value : TypeExpr}
    (hkey : Reads scope behind key (.mark .closeBracket :: vs))
    (hvalue : Reads scope vs value rest) :
    Reads scope (.ident "map" :: .mark .openBracket :: behind) (compound "map" [key, value])
      rest := by
  obtain ⟨hklen, hkread⟩ := hkey
  obtain ⟨hvlen, hvread⟩ := hvalue
  have hlen : rest.length < behind.length :=
    Nat.lt_trans hvlen (Nat.lt_trans (Nat.lt_succ_self _) hklen)
  refine ⟨Nat.lt_succ_of_lt (Nat.lt_succ_of_lt hlen), ?_⟩
  rw [ofTokens.eq_def]
  dsimp only
  rw [if_neg (by decide), if_pos rfl]
  simp only [hkread, hvread]

theorem opaqueAt_eq (x : String) {behind : List Token} (hbehind : behind = used ++ rest)
    (hlen : rest.length < behind.length) (hdollar : .mark .dollar ∉ used) :
    opaqueAt (.ident x) hlen =
      .ok ⟨(name (Token.join (.ident x :: used)), rest), Nat.lt_succ_of_lt hlen⟩ := by
  subst hbehind
  have hdollar' : Token.mark .dollar ∉ .ident x :: used := by simpa using hdollar
  unfold opaqueAt
  dsimp only
  simp only [take_used, if_neg hdollar']

/-- A block in braces is read as a name. -/
theorem block_reads {x : String} {body behind : List Token} (hx : x = "interface" ∨ x = "struct")
    (hbody : IsGroup .openBrace .closeBrace body) (hdollar : .mark .dollar ∉ body)
    (hbehind : behind = body ++ rest) :
    Reads scope (.ident x :: behind) (name (Token.join (.ident x :: body))) rest := by
  obtain ⟨hlen, hgroup⟩ := hbody.groupAt (by decide) hbehind
  refine ⟨Nat.lt_succ_of_lt hlen, ?_⟩
  have hne : x ≠ "chan" ∧ x ≠ "map" ∧ x ≠ "func" := by
    rcases hx with rfl | rfl <;> decide
  rw [ofTokens.eq_def]
  dsimp only
  rw [if_neg hne.1, if_neg hne.2.1, if_neg hne.2.2, if_pos hx]
  split
  · rename_i herror
    rw [hgroup] at herror
    cases herror
  · rename_i hok
    rw [hgroup] at hok
    cases hok
    exact opaqueAt_eq x hbehind _ hdollar

/-- What the reader does behind the parameters of a function type. -/
theorem ofTokens_func {behind : List Token} (hlen : rest.length < behind.length)
    (hgroup : groupAt .openParen .closeParen behind = .ok ⟨((), rest), hlen⟩) :
    ofTokens scope (.ident "func" :: behind) =
      if rest.head? = some (.mark .openParen) then
        match groupAt .openParen .closeParen rest with
        | .error e => .error e
        | .ok ⟨(_, _), h⟩ => opaqueAt _ (Nat.lt_trans h hlen)
      else if rest.head?.all Token.isCloser then opaqueAt _ hlen
      else
        match ofTokens scope rest with
        | .error e => .error e
        | .ok ⟨(_, _), h⟩ => opaqueAt _ (Nat.lt_trans h hlen) := by
  rw [ofTokens.eq_def]
  dsimp only
  rw [if_neg (by decide), if_neg (by decide), if_pos rfl]
  -- the reader looks at what follows the parameters: nothing, or a first token
  split
  · rename_i herror
    rw [hgroup] at herror
    cases herror
  · rename_i hok
    rw [hgroup] at hok
    cases hok
    rfl
  · rename_i t behind' h hok
    rw [hgroup] at hok
    cases hok
    by_cases hparen : t = .mark .openParen
    · have hhead : (t :: behind').head? = some (.mark .openParen) := congrArg some hparen
      rw [if_pos hparen, if_pos hhead]
      cases groupAt .openParen .closeParen (t :: behind') <;> rfl
    have hhead : (t :: behind').head? ≠ some (.mark .openParen) := fun h ↦
      hparen (Option.some.inj h)
    rw [if_neg hparen, if_neg hhead]
    by_cases hcloser : t.isCloser
    · have hall : (t :: behind').head?.all Token.isCloser := hcloser
      rw [if_pos hcloser, if_pos hall]
    · have hall : ¬(t :: behind').head?.all Token.isCloser := hcloser
      rw [if_neg hcloser, if_neg hall]
      cases ofTokens scope (t :: behind') <;> rfl

/-- All tokens of a spelling are taken if it ends there. -/
theorem Spells.reads (h : Spells scope ts e) (hrest : EndsSpelling rest) :
    Reads scope (ts ++ rest) e rest := by
  -- a closing bracket behind a type occurs inside of `map`, where the key ends
  induction h generalizing rest with
  | param x =>
    refine ⟨length_lt_cons_cons .., ?_⟩
    show ofTokens scope (.mark .dollar :: .ident x :: rest) = _
    rw [ofTokens]
  | @pointer ts e _ ih =>
    show ∃ _, ofTokens scope (.mark .star :: (ts ++ rest)) = _
    rw [ofTokens]
    exact wrapAt_reads _ (ih hrest)
  | @slice ts e _ ih =>
    show ∃ _, ofTokens scope (.mark .openBracket :: .mark .closeBracket :: (ts ++ rest)) = _
    rw [ofTokens]
    exact wrapAt_reads _ (ih hrest)
  | @array n ts e _ ih =>
    show ∃ _, ofTokens scope
      (.mark .openBracket :: .number n :: .mark .closeBracket :: (ts ++ rest)) = _
    rw [ofTokens]
    exact wrapAt_reads _ (ih hrest)
  | @receive ts e _ ih =>
    show ∃ _, ofTokens scope (.mark .arrow :: .ident "chan" :: (ts ++ rest)) = _
    rw [ofTokens, if_pos rfl]
    exact wrapAt_reads _ (ih hrest)
  | @send ts e _ ih =>
    show ∃ _, ofTokens scope (.ident "chan" :: .mark .arrow :: (ts ++ rest)) = _
    rw [ofTokens, if_pos rfl]
    exact wrapAt_reads _ (ih hrest)
  | @chan ts e h harrow ih =>
    obtain ⟨t, behind, rfl, -⟩ := h.exists_cons
    show ∃ _, ofTokens scope (.ident "chan" :: (t :: behind ++ rest)) = _
    rw [ofTokens_chan (t :: behind ++ rest) harrow]
    exact wrapAt_reads _ (ih hrest)
  | @map ks vs key value _ _ ihk ihv =>
    have hends : EndsSpelling (.mark .closeBracket :: (vs ++ rest)) := by simp [EndsSpelling]
    simpa using map_reads (ihk hends) (ihv hrest)
  | @func args hargs hdollar =>
    obtain ⟨hlen, hgroup⟩ := hargs.groupAt (by decide) (Eq.refl (args ++ rest))
    refine ⟨Nat.lt_succ_of_lt hlen, (ofTokens_func hlen hgroup).trans ?_⟩
    have hparen : rest.head? ≠ some (.mark .openParen) := fun h ↦
      absurd (hrest _ h) (by simp)
    have hcloser : rest.head?.all Token.isCloser := by
      cases hhead : rest.head? with
      | none => rfl
      | some t =>
        rw [hrest t hhead]
        rfl
    rw [if_neg hparen, if_pos hcloser]
    exact opaqueAt_eq "func" rfl _ hdollar
  | @funcGroup args results hargs hresults hdollar =>
    have hsplit : args ++ results ++ rest = args ++ (results ++ rest) := List.append_assoc ..
    obtain ⟨hlen, hgroup⟩ := hargs.groupAt (by decide) hsplit
    obtain ⟨hlen', hgroup'⟩ := hresults.groupAt (by decide) (Eq.refl (results ++ rest))
    refine ⟨Nat.lt_succ_of_lt (Nat.lt_trans hlen' hlen), (ofTokens_func hlen hgroup).trans ?_⟩
    have hparen : (results ++ rest).head? = some (.mark .openParen) := by
      obtain ⟨body, -, rfl⟩ := hresults
      rfl
    rw [if_pos hparen]
    simp only [hgroup']
    exact opaqueAt_eq "func" rfl _ hdollar
  | @funcType args ts result hargs h hdollar ih =>
    have hsplit : args ++ ts ++ rest = args ++ (ts ++ rest) := List.append_assoc ..
    obtain ⟨hlen, hgroup⟩ := hargs.groupAt (by decide) hsplit
    obtain ⟨hlen', hread⟩ := ih hrest
    refine ⟨Nat.lt_succ_of_lt (Nat.lt_trans hlen' hlen), (ofTokens_func hlen hgroup).trans ?_⟩
    obtain ⟨t, behind, rfl, hparen, hcloser⟩ := h.exists_cons
    rw [if_neg (by simpa using hparen), if_neg (by simpa using hcloser)]
    simp only [hread]
    exact opaqueAt_eq "func" rfl _ hdollar
  | @block x body hx hbody hdollar => exact block_reads hx hbody hdollar rfl
  | @word x hx =>
    refine ⟨Nat.lt_succ_self _, ?_⟩
    show ofTokens scope (.ident x :: rest) = _
    rw [ofTokens_of_not_mem_keywords hx]
    refine nameAt_of_head fun hdot ↦ ?_
    exact absurd (hrest _ hdot) (by simp)
  | @qualified x hx y =>
    refine ⟨Nat.lt_succ_of_lt (length_lt_cons_cons ..), ?_⟩
    show ofTokens scope (.ident x :: .mark .dot :: .ident y :: rest) = _
    rw [ofTokens_of_not_mem_keywords hx]
    rfl

/-- A text denotes a type exactly if its tokens spell the type. -/
theorem ofText_eq_ok_iff {text : String} :
    ofText scope text = .ok e ↔ ∃ ts, Token.ofText text.toList = .ok ts ∧ Spells scope ts e := by
  constructor
  · intro h
    unfold ofText at h
    split at h
    · cases h
    · cases h
    · rename_i ts _ hts
      split at h
      · cases h
      · rename_i e' _ hread
        cases h
        obtain ⟨used, hused, hspells⟩ := ofTokens_sound ts _ hread
        rw [List.append_nil] at hused
        exact ⟨ts, hts, hused ▸ hspells⟩
      · cases h
  · rintro ⟨ts, hts, hspells⟩
    have hends : EndsSpelling [] := fun _ h ↦ nomatch h
    have hreads := hspells.reads hends
    rw [List.append_nil] at hreads
    obtain ⟨hlen, hread⟩ := hreads
    obtain ⟨t, behind, rfl, -⟩ := hspells.exists_cons
    rw [ofText, hts]
    dsimp only
    rw [hread]

end TypeExpr

end ChannelGraph
