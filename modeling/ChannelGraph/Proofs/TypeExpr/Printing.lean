import ChannelGraph.Proofs.TypeExpr.Acceptance
import ChannelGraph.Proofs.TypeExpr.RoundTrip

/-!
# Types that were read are written with the same tokens

Which spaces stand in a text is lost when it is read, and with them what the customary spacing
would merge: dots that run together. Where none do (`Token.DotsApart`), the text of a type that was
read has exactly the tokens that were read (`Spells.exists_lexes`). So reading it again gives the
same type, and types that were read are equal exactly if their tokens are (`ofText_faithful`).

This holds with parameters and without the exception for channels of channels: a type that was read
has no arrow behind `chan` that does not belong to this word.
-/

namespace ChannelGraph

namespace Token

variable {ts : List Token}

/-- Three dots can run together only where two tokens of dots follow each other. -/
theorem dotsApart_of_pairs (hdot : ¬[mark .dot, mark .dot] <:+: ts)
    (hellipsis : ¬[mark .dot, mark .ellipsis] <:+: ts) : DotsApart ts := by
  have hpair : [mark .dot, mark .dot] <:+: [mark .dot, mark .dot, mark .dot] :=
    (List.prefix_append [mark .dot, mark .dot] [mark .dot]).isInfix
  exact ⟨hellipsis, fun hthree ↦ hdot (hpair.trans hthree)⟩

/-- An identifier on its own. -/
theorem lexes_ident {x : String} (hx : (ident x).Solid) : Lexes x [ident x] := by
  have hjoin : join [ident x] = x := String.append_empty
  have hlexes : Lexes (join [ident x]) (regroup [ident x]) :=
    lexes_join (List.forall_mem_singleton.2 hx)
  rw [hjoin] at hlexes
  exact hlexes

end Token

namespace TypeExpr

variable {scope text head s : String} {hts ts : List Token} {e elem : TypeExpr}

/-- A constructor in front of an argument that is written with the tokens that spell it. -/
theorem exists_lexes_unary (hhead : Unary head hts) (hsolid : ∀ t ∈ hts ++ ts, t.Solid)
    (hdots : Token.DotsApart (hts ++ ts))
    (ih : (∀ t ∈ ts, t.Solid) → Token.DotsApart ts → ∃ t, elem.written = .ok t ∧ Token.Lexes t ts) :
    ∃ t, (compound head [elem]).written = .ok t ∧ Token.Lexes t (hts ++ ts) := by
  have hpart : ts <:+: hts ++ ts := (List.suffix_append _ _).isInfix
  obtain ⟨t, ht, hlexes⟩ := ih (fun u hu ↦ hsolid u (hpart.subset hu)) (hdots.part hpart)
  exact ⟨_, written_unary_iff.2 ⟨t, ht, rfl⟩, hhead.lexes hlexes⟩

/-- The text of a name has the tokens that spell it. -/
theorem Spells.lexes_name (h : Spells scope ts (name s)) (hsolid : ∀ t ∈ ts, t.Solid)
    (hdots : Token.DotsApart ts) : ∃ t, (name s).written = .ok t ∧ Token.Lexes t ts := by
  have hlexes := Token.lexes_join hsolid
  rw [hdots.regroup_eq, ← h.eq_join] at hlexes
  exact ⟨s, rfl, hlexes⟩

/-- A type that is spelled by tokens has a text with exactly these tokens. -/
theorem Spells.exists_lexes (h : Spells scope ts e) (hsolid : ∀ t ∈ ts, t.Solid)
    (hdots : Token.DotsApart ts) : ∃ t, e.written = .ok t ∧ Token.Lexes t ts := by
  induction h with
  | param x =>
    have hident : Token.Lexes x [.ident x] := Token.lexes_ident (hsolid _ (by simp))
    exact ⟨_, rfl, hident.mark (m := .dollar) (by decide)⟩
  | pointer _ ih => exact exists_lexes_unary .pointer hsolid hdots ih
  | slice _ ih => exact exists_lexes_unary .slice hsolid hdots ih
  | array n _ ih => exact exists_lexes_unary (.array (hsolid _ (by simp))) hsolid hdots ih
  | receive _ ih => exact exists_lexes_unary .receive hsolid hdots ih
  | send _ ih => exact exists_lexes_unary .send hsolid hdots ih
  | chan _ _ ih => exact exists_lexes_unary .chan hsolid hdots ih
  | @map ks vs key value _ _ ihk ihv =>
    -- the tokens of key and value are parts of those of the map
    have hks : ks <:+: .ident "map" :: .mark .openBracket :: (ks ++ .mark .closeBracket :: vs) :=
      ⟨[.ident "map", .mark .openBracket], .mark .closeBracket :: vs, by simp⟩
    have hvs : vs <:+: .ident "map" :: .mark .openBracket :: (ks ++ .mark .closeBracket :: vs) :=
      ⟨.ident "map" :: .mark .openBracket :: (ks ++ [.mark .closeBracket]), [], by simp⟩
    obtain ⟨k, hk, hkey⟩ := ihk (fun t ht ↦ hsolid t (hks.subset ht)) (hdots.part hks)
    obtain ⟨v, hv, hvalue⟩ := ihv (fun t ht ↦ hsolid t (hvs.subset ht)) (hdots.part hvs)
    exact ⟨_, written_map_iff.2 ⟨k, v, hk, hv, rfl⟩, TypeExpr.lexes_map hkey hvalue⟩
  | func hargs hdollar =>
    exact Spells.lexes_name (.func hargs hdollar : Spells scope _ _) hsolid hdots
  | funcGroup hargs hresults hdollar =>
    exact Spells.lexes_name (.funcGroup hargs hresults hdollar : Spells scope _ _) hsolid hdots
  | funcType hargs h hdollar => exact (Spells.funcType hargs h hdollar).lexes_name hsolid hdots
  | block hx hbody hdollar =>
    exact Spells.lexes_name (.block hx hbody hdollar : Spells scope _ _) hsolid hdots
  | word hx => exact Spells.lexes_name (.word hx : Spells scope _ _) hsolid hdots
  | qualified hx y => exact Spells.lexes_name (.qualified hx y : Spells scope _ _) hsolid hdots

/-- What was read from a text is written with the tokens of the text. -/
theorem exists_written_of_ofText (hts : Token.ofText text.toList = .ok ts)
    (hdots : Token.DotsApart ts) (hread : ofText scope text = .ok e) :
    Spells scope ts e ∧ ∃ t, e.written = .ok t ∧ Token.ofText t.toList = .ok ts := by
  obtain ⟨us, hus, hspells⟩ := ofText_eq_ok_iff.1 hread
  obtain rfl : us = ts := Except.ok.inj (hus.symm.trans hts)
  obtain ⟨t, ht, hlexes⟩ := hspells.exists_lexes (Token.solid_of_ofText hts) hdots
  exact ⟨hspells, t, ht, hlexes.ofText_eq⟩

/-- What was read from a text in which no dots run together is written with exactly its tokens, and
from what is written, as from every text with these tokens, the same type is read. Two such texts
are read as the same type exactly if they have the same tokens. -/
theorem ofText_faithful (hts : Token.ofText text.toList = .ok ts) (hdots : Token.DotsApart ts)
    (hread : ofText scope text = .ok e) :
    (∃ t, e.written = .ok t ∧ Token.ofText t.toList = .ok ts ∧ ofText scope t = .ok e) ∧
    (∀ text', Token.ofText text'.toList = .ok ts → ofText scope text' = .ok e) ∧
    ∀ text' ts' e', Token.ofText text'.toList = .ok ts' → Token.DotsApart ts' →
      ofText scope text' = .ok e' → (e = e' ↔ ts = ts') := by
  obtain ⟨hspells, t, ht, hlexed⟩ := exists_written_of_ofText hts hdots hread
  have hagain : ∀ text', Token.ofText text'.toList = .ok ts → ofText scope text' = .ok e :=
    fun text' hts' ↦ ofText_eq_ok_iff.2 ⟨ts, hts', hspells⟩
  refine ⟨⟨t, ht, hlexed, hagain t hlexed⟩, hagain, fun text' ts' e' hts' hdots' hread' ↦ ?_⟩
  obtain ⟨hspells', t', ht', hlexed'⟩ := exists_written_of_ofText hts' hdots' hread'
  constructor
  · rintro rfl
    obtain rfl : t = t' := Except.ok.inj (ht.symm.trans ht')
    exact Except.ok.inj (hlexed.symm.trans hlexed')
  · rintro rfl
    exact hspells.unique hspells'

/-- A text with more spaces than are customary, with a parameter, an arrow behind `chan` and a
variable number of arguments, and the same tokens in a text with as few spaces as there can be. -/
theorem ofText_faithful_spaced :
    ∃ ts e t, ofText "" "map [ $K ]chan <- func( ... pkg . T ,)error" = .ok e ∧
      Token.DotsApart ts ∧ e.written = .ok t ∧ Token.ofText t.toList = .ok ts ∧
      ofText "" t = .ok e ∧ ofText "" "map[$K]chan<-func(...pkg.T,)error" = .ok e := by
  have hread : ofText "" "map [ $K ]chan <- func( ... pkg . T ,)error" =
      .ok (compound "map" [param ⟨"", "K"⟩,
        compound "chan<-" [name "func(...pkg.T,) error"]]) :=
    DeclaredType.ofText_of_toOption (by decide +kernel)
  obtain ⟨ts, hts, -⟩ := ofText_eq_ok_iff.1 hread
  -- both texts have the same tokens, and no two dots in a row are among them
  have hsame : (Token.ofText "map[$K]chan<-func(...pkg.T,)error".toList).toOption =
        (Token.ofText "map [ $K ]chan <- func( ... pkg . T ,)error".toList).toOption ∧
      ∀ ts ∈ (Token.ofText "map [ $K ]chan <- func( ... pkg . T ,)error".toList).toOption,
        ¬[.mark .dot, .mark .dot] <:+: ts ∧ ¬[.mark .dot, .mark .ellipsis] <:+: ts := by
    decide +kernel
  rw [hts] at hsame
  obtain ⟨hdot, hellipsis⟩ := hsame.2 ts rfl
  have hdots := Token.dotsApart_of_pairs hdot hellipsis
  obtain ⟨⟨t, ht, hlexed, hback⟩, hagain, -⟩ := ofText_faithful hts hdots hread
  refine ⟨ts, _, t, hread, hdots, ht, hlexed, hback, hagain _ ?_⟩
  cases hdense : Token.ofText "map[$K]chan<-func(...pkg.T,)error".toList with
  | error c =>
    rw [hdense] at hsame
    cases hsame.1
  | ok us =>
    rw [hdense] at hsame
    exact congrArg Except.ok (Option.some.inj hsame.1)

end TypeExpr

end ChannelGraph
