import ChannelGraph.Part
import ChannelGraph.Proofs.TypeExpr.Substitution

/-!
# Types that are read from texts

What is read from a text is built by the four rules of the notation: names, parameters in the
given scope, constructors of one argument and maps of two. A property that is kept by these
rules holds of every type that is read (`ofTokens_induction`, `ofText_induction`). In particular
every such type has a text again (`ofText_isWritable`), in whatever scope its parameters are put.
-/

namespace ChannelGraph

namespace TypeExpr

section Induction

variable {P : TypeExpr → Prop} {scope : String}

/-- A constructor put around what is read. -/
theorem wrapAt_induction {head : String} (hunary : ∀ e, P e → P (compound head [e]))
    {ts behind : List Token} (hlen : behind.length < ts.length) {read : ReadAt TypeExpr behind}
    (hread : ∀ v, read = .ok v → P v.val.1) :
    ∀ v, wrapAt head hlen read = .ok v → P v.val.1 := by
  intro v hv
  cases read with
  | error f => cases hv
  | ok w =>
    cases hv
    exact hunary _ (hread w rfl)

/-- An opaque type is a name. -/
theorem opaqueAt_induction (hname : ∀ s, P (name s)) {first : Token} {behind rest : List Token}
    (hlen : rest.length < behind.length) :
    ∀ v, opaqueAt first hlen = .ok v → P v.val.1 := by
  intro v hv
  unfold opaqueAt at hv
  dsimp only at hv
  split at hv
  · cases hv
  · cases hv
    exact hname _

theorem nameAt_induction (hname : ∀ s, P (name s)) {x : String} {behind : List Token} :
    ∀ v, nameAt x behind = .ok v → P v.val.1 := by
  intro v hv
  unfold nameAt at hv
  split at hv
  · cases hv; exact hname _
  · cases hv
  · cases hv
  · cases hv; exact hname _

/-- What the rules of the notation keep holds of every type at the front of tokens. -/
theorem ofTokens_induction (hname : ∀ s, P (name s)) (hparam : ∀ x, P (param ⟨scope, x⟩))
    (hunary : ∀ head e, P e → P (compound head [e]))
    (hmap : ∀ key value, P key → P value → P (compound "map" [key, value])) (ts : List Token) :
    ∀ v, ofTokens scope ts = .ok v → P v.val.1 := by
  intro v hv
  fun_induction ofTokens scope ts with
  | case2 x rest =>
    cases hv
    exact hparam x
  | case5 | case6 | case7 | case12 | case15 | case16 =>
    rename_i ih
    exact wrapAt_induction (hunary _) _ ih v hv
  | case21 behind key behind' h hkey value rest h' hvalue _ _ ihkey ihvalue =>
    cases hv
    exact hmap key value (ihkey _ hkey) (ihvalue _ hvalue)
  | case25 | case27 | case28 | case30 | case32 => exact opaqueAt_induction hname _ v hv
  | case33 => exact nameAt_induction hname v hv
  | _ => cases hv

/-- What the rules of the notation keep holds of every type that a text denotes. -/
theorem ofText_induction (hname : ∀ s, P (name s)) (hparam : ∀ x, P (param ⟨scope, x⟩))
    (hunary : ∀ head e, P e → P (compound head [e]))
    (hmap : ∀ key value, P key → P value → P (compound "map" [key, value])) {text : String}
    {e : TypeExpr} (h : ofText scope text = .ok e) : P e := by
  unfold ofText at h
  split at h
  · cases h
  · cases h
  · rename_i ts _ _
    split at h
    · cases h
    · rename_i hread
      cases h
      exact ofTokens_induction hname hparam hunary hmap ts _ hread
    · cases h

end Induction

/-- A type that a text denotes has a text. -/
theorem ofText_isWritable {scope text : String} {e : TypeExpr} (h : ofText scope text = .ok e) :
    e.IsWritable :=
  ofText_induction .name (fun _ ↦ .param _) (fun head _ he ↦ .unary head he)
    (fun _ _ hk hv ↦ .map hk hv) h

theorem ofText_int : ofText "" "int" = .ok (name "int") :=
  DeclaredType.ofText_of_toOption (by decide +kernel)

theorem ofText_string : ofText "" "string" = .ok (name "string") :=
  DeclaredType.ofText_of_toOption (by decide +kernel)

end TypeExpr

/-- A declared type has a text in every scope. -/
theorem DeclaredType.isWritable_inScope (d : DeclaredType) (scope : String) :
    (d.inScope scope).IsWritable :=
  (TypeExpr.ofText_isWritable d.reads).substitute fun _ _ ↦ .param _

end ChannelGraph
