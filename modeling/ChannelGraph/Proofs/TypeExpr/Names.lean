import ChannelGraph.Proofs.TypeExpr.Grammar
import ChannelGraph.Proofs.TypeExpr.Tokens

/-!
# Names and their texts

A name is the text of the tokens that spell it (`Spells.eq_join`). When the text is read again, dots
that run together in it are grouped anew. This moves no bracket, so a name is read again
(`Spells.readsAsName`), but it may be another one (`TypeExpr.rereadName`). If no dots run together
it is the same (`Spells.isName`).
-/

namespace ChannelGraph

namespace TypeExpr

variable {scope s s' : String} {opener closer : Mark} {t : Token} {ts us rest : List Token}
  {e : TypeExpr}

/-- The name that is read from the text of a name. -/
def rereadName (s : String) : String :=
  match ofText "" s with
  | .ok (name s') => s'
  | _ => s

/-- From the text of a name some name is read. -/
def ReadsAsName (s : String) : Prop :=
  ofText "" s = .ok (name (rereadName s))

/-- A name that is read from its own text. -/
def IsName (s : String) : Prop :=
  ofText "" s = .ok (name s)

theorem readsAsName_of_ofText (h : ofText "" s = .ok (name s')) : ReadsAsName s := by
  have hname : rereadName s = s' := by
    rw [rereadName, h]
  rw [ReadsAsName, hname, h]

theorem IsName.readsAsName (h : IsName s) : ReadsAsName s :=
  readsAsName_of_ofText h

theorem ReadsAsName.isName_iff (h : ReadsAsName s) : IsName s ↔ rereadName s = s := by
  rw [IsName, h, Except.ok.injEq, name.injEq]

/-! ### The tokens of a name -/

/-- Where no parameter is mentioned the scope does not matter. -/
theorem Spells.of_dollar_not_mem (h : Spells scope ts e) (hdollar : .mark .dollar ∉ ts)
    (scope' : String) : Spells scope' ts e := by
  induction h with
  | param x => exact absurd List.mem_cons_self hdollar
  | pointer _ ih => exact .pointer (ih (by simpa using hdollar))
  | slice _ ih => exact .slice (ih (by simpa using hdollar))
  | array n _ ih => exact .array n (ih (by simpa using hdollar))
  | receive _ ih => exact .receive (ih (by simpa using hdollar))
  | send _ ih => exact .send (ih (by simpa using hdollar))
  | chan _ harrow ih => exact .chan (ih (by simpa using hdollar)) harrow
  | map _ _ ihk ihv =>
    simp only [List.mem_cons, List.mem_append, not_or] at hdollar
    exact .map (ihk hdollar.2.2.1) (ihv hdollar.2.2.2.2)
  | func hargs hargs' => exact .func hargs hargs'
  | funcGroup hargs hresults hargs' => exact .funcGroup hargs hresults hargs'
  | funcType hargs _ hargs' ih =>
    exact .funcType hargs (ih fun hmem ↦ hargs' (List.mem_append_right _ hmem)) hargs'
  | block hx hbody hbody' => exact .block hx hbody hbody'
  | word hx => exact .word hx
  | qualified hx y => exact .qualified hx y

/-- A name is spelled alike in every scope. -/
theorem Spells.name_scope (h : Spells scope ts (name s)) (scope' : String) :
    Spells scope' ts (name s) := by
  cases h with
  | func hargs hdollar => exact .func hargs hdollar
  | funcGroup hargs hresults hdollar => exact .funcGroup hargs hresults hdollar
  | funcType hargs h hdollar =>
    exact .funcType hargs
      (h.of_dollar_not_mem (fun hmem ↦ hdollar (List.mem_append_right _ hmem)) scope') hdollar
  | block hx hbody hdollar => exact .block hx hbody hdollar
  | word hx => exact .word hx
  | qualified hx y => exact .qualified hx y

/-- The text of a name is its tokens in the customary spacing. -/
theorem Spells.eq_join (h : Spells scope ts (name s)) : s = Token.join ts := by
  cases h with
  | word hx => exact String.append_empty.symm
  | @qualified x hx y =>
    show x ++ "." ++ y = x ++ ("" ++ "." ++ ("" ++ y ++ ""))
    simp [String.append_assoc]
  | _ => rfl

/-- The tokens of a name contribute what is read from it wherever its text stands. -/
theorem ReadsAsName.exists_spells (h : ReadsAsName s) :
    ∃ ts, Token.Lexes s ts ∧ ∀ scope, Spells scope ts (name (rereadName s)) := by
  obtain ⟨ts, hts, hspells⟩ := ofText_eq_ok_iff.1 h
  exact ⟨ts, Token.lexes_of_ofText hts, hspells.name_scope⟩

/-! ### Dots in names -/

section Dots

variable (hopener : (Token.mark opener).isDots = false)
  (hcloser : (Token.mark closer).isDots = false)

include hopener hcloser

theorem Balanced.of_isDots (h : ∀ t ∈ ts, t.isDots) : Balanced opener closer ts := by
  induction ts with
  | nil => exact .nil
  | cons t ts ih =>
    obtain ⟨ht, hts⟩ := List.forall_mem_cons.1 h
    refine .other ?_ ?_ (ih hts)
    all_goals
      rintro rfl
      simp_all

theorem Balanced.dots (dots : Nat) :
    Balanced opener closer (List.replicate dots (.mark .dot)) :=
  .of_isDots hopener hcloser fun t ht ↦ by rw [List.eq_of_mem_replicate ht]; rfl

/-- Regrouped dots open and close no brackets. -/
theorem Balanced.regroupAfter (h : Balanced opener closer ts) (dots : Nat) :
    Balanced opener closer (Token.regroupAfter dots ts) := by
  induction h generalizing dots with
  | nil => exact .dots hopener hcloser dots
  | @other t ts hopen hclose _ ih =>
    have hellipsis : Balanced opener closer [.mark .ellipsis] :=
      .of_isDots hopener hcloser (by simp [Token.isDots])
    rw [Token.regroupAfter]
    split_ifs
    · exact .other hopen hclose (ih dots)
    · exact ih (dots + 1)
    · exact hellipsis.append (ih 0)
    · exact (Balanced.dots hopener hcloser dots).append (.other hopen hclose (ih 0))
  | group _ _ ihbody ih =>
    rw [Token.regroupAfter_cons hopener, Token.regroup_append_cons hcloser]
    exact (Balanced.dots hopener hcloser dots).append (.group (ihbody 0) (ih 0))

/-- A group is still one when its dots are regrouped. -/
theorem IsGroup.regroup (h : IsGroup opener closer ts) :
    IsGroup opener closer (Token.regroup ts) := by
  obtain ⟨body, hbody, rfl⟩ := h
  refine ⟨Token.regroup body, hbody.regroupAfter hopener hcloser 0, ?_⟩
  rw [Token.regroup_cons hopener, Token.regroup_append_cons hcloser]
  rfl

end Dots

/-- No type starts with dots. -/
theorem Spells.exists_cons_isDots (h : Spells scope ts e) :
    ∃ t behind, ts = t :: behind ∧ t.isDots = false := by
  cases h <;> exact ⟨_, _, rfl, rfl⟩

theorem not_mem_regroup (h : .mark .dollar ∉ ts) : .mark .dollar ∉ Token.regroup ts :=
  fun hmem ↦ h (Token.mem_of_mem_regroupAfter rfl hmem)

/-- Two parts are regrouped on their own if the second one does not start with dots. -/
theorem regroup_append (h : ∃ t behind, us = t :: behind ∧ t.isDots = false) (ts : List Token) :
    Token.regroup (ts ++ us) = Token.regroup ts ++ Token.regroup us := by
  obtain ⟨t, behind, rfl, ht⟩ := h
  rw [Token.regroup_append_cons ht, Token.regroup_cons ht]

/-- Tokens with regrouped dots spell a type if they did before, and a name if they spelled one. -/
theorem Spells.regroup (h : Spells scope ts e) : ∃ e', Spells scope (Token.regroup ts) e' ∧
    ∀ s, e = name s → e' = name (Token.join (Token.regroup ts)) := by
  induction h with
  | param x => exact ⟨_, .param x, fun s hs ↦ nomatch hs⟩
  | pointer _ ih =>
    obtain ⟨e', h, -⟩ := ih
    exact ⟨_, .pointer h, fun s hs ↦ nomatch hs⟩
  | slice _ ih =>
    obtain ⟨e', h, -⟩ := ih
    exact ⟨_, .slice h, fun s hs ↦ nomatch hs⟩
  | array n _ ih =>
    obtain ⟨e', h, -⟩ := ih
    exact ⟨_, .array n h, fun s hs ↦ nomatch hs⟩
  | receive _ ih =>
    obtain ⟨e', h, -⟩ := ih
    exact ⟨_, .receive h, fun s hs ↦ nomatch hs⟩
  | send _ ih =>
    obtain ⟨e', h, -⟩ := ih
    exact ⟨_, .send h, fun s hs ↦ nomatch hs⟩
  | chan hspells harrow ih =>
    obtain ⟨e', h, -⟩ := ih
    -- no type begins with dots, so none are joined across `chan`
    obtain ⟨t, behind, rfl, ht⟩ := hspells.exists_cons_isDots
    rw [Token.regroup_cons ht] at h
    rw [Token.regroup_cons rfl, Token.regroup_cons ht]
    exact ⟨_, .chan h harrow, fun s hs ↦ nomatch hs⟩
  | @map ks vs key value _ _ ihk ihv =>
    obtain ⟨key', hk, -⟩ := ihk
    obtain ⟨value', hv, -⟩ := ihv
    rw [Token.regroup_cons rfl, Token.regroup_cons rfl, Token.regroup_append_cons rfl]
    exact ⟨_, .map hk hv, fun s hs ↦ nomatch hs⟩
  | func hargs hdollar =>
    rw [Token.regroup_cons rfl]
    exact ⟨_, .func (hargs.regroup rfl rfl) (not_mem_regroup hdollar), fun _ _ ↦ rfl⟩
  | @funcGroup args results hargs hresults hdollar =>
    -- the results begin with a bracket, so the two groups are regrouped apart
    have hsplit :
        Token.regroup (args ++ results) = Token.regroup args ++ Token.regroup results := by
      obtain ⟨body, -, hresults⟩ := hresults
      exact regroup_append ⟨_, _, hresults, rfl⟩ args
    have hdollar' := not_mem_regroup hdollar
    rw [hsplit] at hdollar'
    rw [Token.regroup_cons rfl, hsplit]
    exact ⟨_, .funcGroup (hargs.regroup rfl rfl) (hresults.regroup rfl rfl) hdollar',
      fun _ _ ↦ rfl⟩
  | @funcType args ts result hargs hresult hdollar ih =>
    obtain ⟨e', h, -⟩ := ih
    have hsplit := regroup_append hresult.exists_cons_isDots args
    have hdollar' := not_mem_regroup hdollar
    rw [hsplit] at hdollar'
    rw [Token.regroup_cons rfl, hsplit]
    exact ⟨_, .funcType (hargs.regroup rfl rfl) h hdollar', fun _ _ ↦ rfl⟩
  | block hx hbody hdollar =>
    rw [Token.regroup_cons rfl]
    exact ⟨_, .block hx (hbody.regroup rfl rfl) (not_mem_regroup hdollar), fun _ _ ↦ rfl⟩
  | @word x hx =>
    have hspells : Spells scope [.ident x] (name x) := .word hx
    exact ⟨_, hspells, fun _ _ ↦ congrArg name hspells.eq_join⟩
  | @qualified x hx y =>
    have hspells : Spells scope [.ident x, .mark .dot, .ident y] (name (x ++ "." ++ y)) :=
      .qualified hx y
    exact ⟨_, hspells, fun _ _ ↦ congrArg name hspells.eq_join⟩

/-- From the text of a name some name is read. -/
theorem Spells.readsAsName (h : Spells scope ts (name s)) (hts : ∀ t ∈ ts, t.Solid) :
    ReadsAsName s := by
  obtain ⟨e', hspells, hname⟩ := h.regroup
  obtain rfl := hname s rfl
  refine readsAsName_of_ofText (ofText_eq_ok_iff.2 ⟨_, ?_, hspells.name_scope ""⟩)
  rw [h.eq_join]
  exact (Token.lexes_join hts).ofText_eq

/-- The name is read from its text if no dots run together in it. -/
theorem Spells.isName (h : Spells scope ts (name s)) (hts : ∀ t ∈ ts, t.Solid)
    (hdots : Token.DotsApart ts) : IsName s := by
  refine ofText_eq_ok_iff.2 ⟨ts, ?_, h.name_scope ""⟩
  have hlexes := (Token.lexes_join hts).ofText_eq
  rwa [hdots.regroup_eq, ← h.eq_join] at hlexes

end TypeExpr

end ChannelGraph
