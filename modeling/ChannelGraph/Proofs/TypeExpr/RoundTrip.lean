import ChannelGraph.Proofs.TypeExpr.BuiltFrom
import ChannelGraph.Proofs.TypeExpr.Names
import ChannelGraph.TypeExpr.Written

/-!
# Written types that are read again

The text of a type is put together without parentheses. It is read back as the type with two
exceptions (`Legible.ofText_written`). A channel of channels that can only be received from is
written `chan <-chan T`, and an arrow behind `chan` belongs to that word, so this is read as
`chan<- (chan T)`. In a name the dots may be grouped anew. What is read in general is
`TypeExpr.reread`, and it is the type itself exactly if no such channel occurs in it and its names
are read from their own texts (`Legible.reread_eq_self_iff`).

The spaces in the text still tell the types apart: different types have different texts
(`Legible.eq_of_written`).

All this is said of the types that the notation can express (`TypeExpr.Legible`). Types that are
read from a text are of this kind (`Spells.builtFrom`).
-/

namespace ChannelGraph

namespace TypeExpr

variable {scope head s t t' : String} {hts ts ks vs : List Token} {e e' elem : TypeExpr}
  {r r' : List Char}

/-! ### What is read back -/

/-- Whether a type is a channel that can only be received from. -/
def isReceive : TypeExpr → Bool
  | compound head [_] => head == "<-chan"
  | _ => false

/-- Whether no channel is directly around one that can only be received from. -/
def isUnambiguous : TypeExpr → Bool
  | compound head [elem] => !(head == "chan" && elem.isReceive) && elem.isUnambiguous
  | compound _ [key, value] => key.isUnambiguous && value.isUnambiguous
  | _ => true

/-- What is read where `chan` is written before a type: the arrow of a channel that can only be
received from goes to the word in front of it. -/
def chanOver : TypeExpr → TypeExpr
  | compound head [elem] =>
    if head = "<-chan" then compound "chan<-" [chanOver elem]
    else compound "chan" [compound head [elem]]
  | e => compound "chan" [e]

/-- What is read from the text of a type. -/
def reread : TypeExpr → TypeExpr
  | name s => name (rereadName s)
  | compound head [elem] =>
    if head = "chan" then chanOver (reread elem) else compound head [reread elem]
  | compound head [key, value] => compound head [reread key, reread value]
  | e => e

/-- What is read in the place of a constructor of one argument. -/
theorem reread_unary (head : String) (elem : TypeExpr) :
    (compound head [elem]).reread =
      if head = "chan" then elem.reread.chanOver else compound head [elem.reread] := by
  rw [reread]

/-- The arrow moves, or the word stands for a channel of its own. -/
theorem chanOver_cases (e : TypeExpr) :
    (∃ x, e = compound "<-chan" [x] ∧ chanOver e = compound "chan<-" [chanOver x]) ∨
      e.isReceive = false ∧ chanOver e = compound "chan" [e] := by
  fun_cases chanOver e with
  | case1 elem => exact .inl ⟨elem, rfl, rfl⟩
  | case2 head elem hhead => exact .inr ⟨beq_false_of_ne hhead, rfl⟩
  | case3 e hother =>
    refine .inr ⟨?_, rfl⟩
    unfold isReceive
    split
    · exact absurd rfl (hother _ _)
    · rfl

theorem chanOver_of_isReceive (h : e.isReceive = false) : chanOver e = compound "chan" [e] := by
  obtain ⟨x, rfl, -⟩ | ⟨-, heq⟩ := chanOver_cases e
  · cases h
  · exact heq

theorem isReceive_chanOver (e : TypeExpr) : (chanOver e).isReceive = false := by
  obtain ⟨x, -, heq⟩ | ⟨-, heq⟩ := chanOver_cases e <;> rw [heq] <;> rfl

/-- Reading a type back makes no receiver and loses none. -/
theorem isReceive_reread (e : TypeExpr) : e.reread.isReceive = e.isReceive := by
  fun_cases reread e with
  | case2 elem => exact isReceive_chanOver _
  | _ => rfl

/-! ### Types of the notation -/

/-- The constructors of one argument, with the tokens that are written before the argument. -/
inductive Unary : String → List Token → Prop
  | pointer : Unary "*" [.mark .star]
  | slice : Unary "[]" [.mark .openBracket, .mark .closeBracket]
  | array {n : String} (hn : (Token.number n).Solid) :
    Unary ("[" ++ n ++ "]") [.mark .openBracket, .number n, .mark .closeBracket]
  | chan : Unary "chan" [.ident "chan"]
  | receive : Unary "<-chan" [.mark .arrow, .ident "chan"]
  | send : Unary "chan<-" [.ident "chan", .mark .arrow]

/-- The constructors of the notation, with the number of their arguments. -/
def IsConstructor (head : String) (arity : Nat) : Prop :=
  (arity = 1 ∧ ∃ hts, Unary head hts) ∨ (arity = 2 ∧ head = "map")

/-- The types without parameters that the notation can express. -/
inductive Legible : TypeExpr → Prop
  | name {s : String} (h : ReadsAsName s) : Legible (name s)
  | unary {head : String} {hts : List Token} {elem : TypeExpr} (hhead : Unary head hts)
    (helem : Legible elem) : Legible (compound head [elem])
  | map {key value : TypeExpr} (hk : Legible key) (hv : Legible value) :
    Legible (compound "map" [key, value])

/-- Every name in a type is read from its own text. -/
def NamesRead (e : TypeExpr) : Prop :=
  BuiltFrom IsName (fun _ _ ↦ True) e

/-- A type is read back as itself exactly if no arrow moves and no name changes. -/
theorem Legible.reread_eq_self_iff (h : Legible e) :
    e.reread = e ↔ e.isUnambiguous ∧ e.NamesRead := by
  induction h with
  | @name s h =>
    rw [reread, name.injEq, ← h.isName_iff, NamesRead, builtFrom_name_iff]
    simp [isUnambiguous]
  | @unary head hts elem _ _ ih =>
    have hnames : (compound head [elem]).NamesRead ↔ elem.NamesRead := by
      simp [NamesRead, builtFrom_compound_iff]
    rw [reread_unary, hnames]
    -- of the unary constructors only `chan` can be read back as another one
    split
    · rename_i hhead
      subst hhead
      cases hreceive : elem.isReceive with
      | false =>
        rw [chanOver_of_isReceive (by rw [isReceive_reread, hreceive])]
        simp [isUnambiguous, hreceive, ih]
      | true =>
        have hne : chanOver elem.reread ≠ compound "chan" [elem] := by
          rw [← isReceive_reread] at hreceive
          obtain ⟨x, -, hx⟩ | ⟨hother, -⟩ := chanOver_cases elem.reread
          · rw [hx]
            simp
          · rw [hother] at hreceive
            cases hreceive
        simp [isUnambiguous, hreceive, hne]
    · rename_i hhead
      simp [isUnambiguous, hhead, ih]
  | @map key value _ _ ihk ihv =>
    have hnames : (compound "map" [key, value]).NamesRead ↔ key.NamesRead ∧ value.NamesRead := by
      simp [NamesRead, builtFrom_compound_iff]
    rw [reread, hnames]
    simp only [compound.injEq, List.cons.injEq, true_and, and_true, ihk, ihv, isUnambiguous,
      Bool.and_eq_true]
    exact and_and_and_comm

/-- A concrete type with names and constructors of the notation is legible. -/
theorem BuiltFrom.legible (h : BuiltFrom ReadsAsName IsConstructor e) (hconcrete : e.isConcrete) :
    Legible e := by
  induction h with
  | name h => exact .name h
  | param p => cases hconcrete
  | @compound head args h _ ih =>
    have hargs : ∀ a ∈ args, Legible a := by
      intro a ha
      refine ih a ha (isConcrete_iff.2 (List.eq_nil_iff_forall_not_mem.2 fun p hp ↦ ?_))
      have hmem := mem_params_compound (h := head).2 ⟨a, ha, hp⟩
      rw [isConcrete_iff.1 hconcrete] at hmem
      exact List.not_mem_nil hmem
    rcases h with ⟨hone, hts, hhead⟩ | ⟨htwo, rfl⟩
    · obtain ⟨elem, rfl⟩ := List.length_eq_one_iff.1 hone
      exact .unary hhead (hargs elem (List.mem_singleton.2 rfl))
    · obtain ⟨key, value, rfl⟩ := List.length_eq_two.1 htwo
      exact .map (hargs key List.mem_cons_self) (hargs value (by simp))

/-! ### What is read from texts is of the notation -/

section BuiltFrom

variable {N : String → Prop}

/-- A constructor of one argument that is spelled in front of the argument. -/
theorem builtFrom_unary (hhead : Unary head hts) (hnames : ∀ us s, us <:+: hts ++ ts →
      Spells scope us (name s) → N s) (hsolid : ∀ t ∈ hts ++ ts, t.Solid)
    (ih : (∀ us s, us <:+: ts → Spells scope us (name s) → N s) → (∀ t ∈ ts, t.Solid) →
      BuiltFrom N IsConstructor e) : BuiltFrom N IsConstructor (compound head [e]) := by
  have hpart : ts <:+: hts ++ ts := (List.suffix_append _ _).isInfix
  have helem := ih (fun us s hus ↦ hnames us s (hus.trans hpart)) fun t ht ↦
    hsolid t (hpart.subset ht)
  exact .compound (.inl ⟨rfl, hts, hhead⟩) (List.forall_mem_singleton.2 helem)

/-- A type has the names that its tokens spell, and constructors of the notation. -/
theorem Spells.builtFrom (h : Spells scope ts e)
    (hnames : ∀ us s, us <:+: ts → Spells scope us (name s) → N s) (hsolid : ∀ t ∈ ts, t.Solid) :
    BuiltFrom N IsConstructor e := by
  induction h with
  | param x => exact .param _
  | pointer _ ih => exact builtFrom_unary .pointer hnames hsolid ih
  | slice _ ih => exact builtFrom_unary .slice hnames hsolid ih
  | array n _ ih => exact builtFrom_unary (.array (hsolid _ (by simp))) hnames hsolid ih
  | receive _ ih => exact builtFrom_unary .receive hnames hsolid ih
  | send _ ih => exact builtFrom_unary .send hnames hsolid ih
  | chan _ _ ih => exact builtFrom_unary .chan hnames hsolid ih
  | @map ks vs key value _ _ ihk ihv =>
    -- the tokens of key and value are parts of those of the map
    have hks : ks <:+: .ident "map" :: .mark .openBracket :: (ks ++ .mark .closeBracket :: vs) :=
      ⟨[.ident "map", .mark .openBracket], .mark .closeBracket :: vs, by simp⟩
    have hvs : vs <:+: .ident "map" :: .mark .openBracket :: (ks ++ .mark .closeBracket :: vs) :=
      ⟨.ident "map" :: .mark .openBracket :: (ks ++ [.mark .closeBracket]), [], by simp⟩
    have hkey := ihk (fun us s hus ↦ hnames us s (hus.trans hks)) fun t ht ↦
      hsolid t (hks.subset ht)
    have hvalue := ihv (fun us s hus ↦ hnames us s (hus.trans hvs)) fun t ht ↦
      hsolid t (hvs.subset ht)
    exact .compound (.inr ⟨rfl, rfl⟩)
      (List.forall_mem_cons.2 ⟨hkey, List.forall_mem_singleton.2 hvalue⟩)
  | func hargs hdollar => exact .name (hnames _ _ List.infix_rfl (.func hargs hdollar))
  | funcGroup hargs hresults hdollar =>
    exact .name (hnames _ _ List.infix_rfl (.funcGroup hargs hresults hdollar))
  | funcType hargs h hdollar =>
    exact .name (hnames _ _ List.infix_rfl (.funcType hargs h hdollar))
  | block hx hbody hdollar => exact .name (hnames _ _ List.infix_rfl (.block hx hbody hdollar))
  | word hx => exact .name (hnames _ _ List.infix_rfl (.word hx))
  | qualified hx y => exact .name (hnames _ _ List.infix_rfl (.qualified hx y))

end BuiltFrom

/-! ### What is read back from a text -/

/-- What is written in front of the argument of a constructor. -/
def frontText (head : String) : String :=
  if isChannelHead head then head ++ " " else head

/-- The text of a unary constructor is its front and the text of its argument. -/
theorem written_unary_iff :
    (compound head [elem]).written = .ok t ↔
      ∃ u, elem.written = .ok u ∧ t = frontText head ++ u := by
  have hwritten : (compound head [elem]).written = elem.written.map (frontText head ++ ·) := by
    rw [written, frontText]
    split <;> rfl
  rw [hwritten]
  cases elem.written <;> simp [Except.map, eq_comm]

theorem written_map_iff {key value : TypeExpr} :
    (compound "map" [key, value]).written = .ok t ↔
      ∃ k v, key.written = .ok k ∧ value.written = .ok v ∧ t = "map[" ++ (k ++ ("]" ++ v)) := by
  rw [written, if_pos rfl]
  cases key.written with
  | error m => simp
  | ok k => cases value.written <;> simp [Except.map, String.append_assoc, eq_comm]

theorem solid_ident_chan : (Token.ident "chan").Solid := by
  have hread : Token.ofChars? "chan".toList = some (.ident "chan", []) := by decide
  exact Token.solid_of_ofChars? hread

theorem solid_ident_map : (Token.ident "map").Solid := by
  have hread : Token.ofChars? "map".toList = some (.ident "map", []) := by decide
  exact Token.solid_of_ofChars? hread

/-- A length in brackets is no other constructor. -/
theorem arrayHead_ne (n : String) (hs : s.toList.head? ≠ some '[') : "[" ++ n ++ "]" ≠ s := by
  rintro rfl
  rw [String.append_assoc, String.toList_append] at hs
  exact hs rfl

theorem frontText_array (n : String) : frontText ("[" ++ n ++ "]") = "[" ++ n ++ "]" := by
  rw [frontText, isChannelHead, beq_false_of_ne (arrayHead_ne n (by decide)),
    beq_false_of_ne (arrayHead_ne n (by decide)), beq_false_of_ne (arrayHead_ne n (by decide))]
  rfl

/-- The text in front of an argument contributes the tokens of the constructor. -/
theorem Unary.lexes (h : Unary head hts) (ht : Token.Lexes t ts) :
    Token.Lexes (frontText head ++ t) (hts ++ ts) := by
  have hhead (s : String) : (" " ++ s).toList.head? = some ' ' := by
    rw [String.toList_append]
    rfl
  have hchan : Token.Lexes ("chan" ++ (" " ++ t)) (.ident "chan" :: ts) :=
    ht.space.word (t := .ident "chan") solid_ident_chan (by simp) (hhead t) (by decide)
  have hclose : Token.Lexes ("]" ++ t) (.mark .closeBracket :: ts) :=
    ht.mark (m := .closeBracket) (by decide)
  -- the text in front is split at its tokens, which are read from the last one to the first
  cases h with
  | pointer =>
    have hfront : frontText "*" = "*" := by decide
    rw [hfront]
    exact ht.mark (m := .star) (by decide)
  | slice =>
    have hfront : frontText "[]" = "[" ++ "]" := by decide
    rw [hfront, String.append_assoc]
    exact hclose.mark (m := .openBracket) (by decide)
  | @array n hn =>
    have hnumber : Token.Lexes (n ++ ("]" ++ t)) (.number n :: .mark .closeBracket :: ts) := by
      refine hclose.word (t := .number n) (c := ']') hn (by simp) ?_ (by decide)
      rw [String.toList_append]
      rfl
    rw [frontText_array, String.append_assoc, String.append_assoc]
    exact hnumber.mark (m := .openBracket) (by decide)
  | chan =>
    have hfront : frontText "chan" = "chan" ++ " " := by decide
    rw [hfront, String.append_assoc]
    exact hchan
  | receive =>
    have hfront : frontText "<-chan" = "<-" ++ ("chan" ++ " ") := by decide
    rw [hfront, String.append_assoc, String.append_assoc]
    exact hchan.mark (m := .arrow) (by decide)
  | send =>
    have hfront : frontText "chan<-" = "chan" ++ ("<-" ++ " ") := by decide
    have harrow : Token.Lexes ("<-" ++ (" " ++ t)) (.mark .arrow :: ts) :=
      ht.space.mark (m := .arrow) (by decide)
    rw [hfront, String.append_assoc, String.append_assoc]
    refine harrow.word (t := .ident "chan") (c := '<') solid_ident_chan (by simp) ?_ (by decide)
    rw [String.toList_append]
    rfl

/-- The text of a map has the tokens of its key and value between those of its own. -/
theorem lexes_map {k v : String} (hk : Token.Lexes k ks) (hv : Token.Lexes v vs) :
    Token.Lexes ("map[" ++ (k ++ ("]" ++ v)))
      (.ident "map" :: .mark .openBracket :: (ks ++ .mark .closeBracket :: vs)) := by
  have hfront : "map[" = "map" ++ "[" := by decide
  have hopen : Token.Lexes ("[" ++ (k ++ ("]" ++ v)))
      (.mark .openBracket :: (ks ++ .mark .closeBracket :: vs)) :=
    (hk.bracket hv).mark (m := .openBracket) (by decide)
  rw [hfront, String.append_assoc]
  refine hopen.word (t := .ident "map") (c := '[') solid_ident_map (by simp) ?_ (by decide)
  rw [String.toList_append]
  rfl

/-- No spelling of another type starts with an arrow. -/
theorem Spells.head_ne_arrow (h : Spells scope ts e) (hreceive : e.isReceive = false) :
    ts.head? ≠ some (.mark .arrow) := by
  cases h with
  | receive => cases hreceive
  | _ => simp

/-- The word in front of another type stands for a channel of it. -/
theorem Spells.chanOver (h : Spells scope ts e) (hreceive : e.isReceive = false) :
    Spells scope (.ident "chan" :: ts) (chanOver e) := by
  rw [chanOver_of_isReceive hreceive]
  exact .chan h (h.head_ne_arrow hreceive)

/-- The text of a type is read, and so is the text with `chan` in front of it. -/
theorem Legible.exists_spells (h : Legible e) : ∃ t ts, e.written = .ok t ∧ Token.Lexes t ts ∧
    ∀ scope, Spells scope ts e.reread ∧ Spells scope (.ident "chan" :: ts) e.reread.chanOver := by
  -- an arrow may come after any number of `chan`, so the word in front goes through the induction
  induction h with
  | @name s h =>
    obtain ⟨ts, hlexes, hspells⟩ := h.exists_spells
    exact ⟨s, ts, rfl, hlexes, fun scope ↦ ⟨hspells scope, (hspells scope).chanOver rfl⟩⟩
  | @unary head hts elem hhead _ ih =>
    obtain ⟨t, ts, ht, hlexes, hspells⟩ := ih
    refine ⟨_, _, written_unary_iff.2 ⟨t, ht, rfl⟩, hhead.lexes hlexes, fun scope ↦ ?_⟩
    obtain ⟨helem, hover⟩ := hspells scope
    cases hhead with
    | pointer => exact ⟨.pointer helem, Spells.chanOver (.pointer helem) rfl⟩
    | slice => exact ⟨.slice helem, Spells.chanOver (.slice helem) rfl⟩
    | @array n hn =>
      have hreread : (compound ("[" ++ n ++ "]") [elem]).reread =
          compound ("[" ++ n ++ "]") [elem.reread] :=
        if_neg (arrayHead_ne n (by decide))
      have hreceive : (compound ("[" ++ n ++ "]") [elem.reread]).isReceive = false :=
        beq_false_of_ne (arrayHead_ne n (by decide))
      rw [hreread]
      exact ⟨.array n helem, Spells.chanOver (.array n helem) hreceive⟩
    | chan => exact ⟨hover, hover.chanOver (isReceive_chanOver _)⟩
    | receive => exact ⟨.receive helem, .send hover⟩
    | send => exact ⟨.send helem, Spells.chanOver (.send helem) rfl⟩
  | map _ _ ihk ihv =>
    obtain ⟨k, ks, hk, hklexes, hkspells⟩ := ihk
    obtain ⟨v, vs, hv, hvlexes, hvspells⟩ := ihv
    refine ⟨_, _, written_map_iff.2 ⟨k, v, hk, hv, rfl⟩, lexes_map hklexes hvlexes, fun scope ↦ ?_⟩
    have hspells := Spells.map (hkspells scope).1 (hvspells scope).1
    exact ⟨hspells, hspells.chanOver rfl⟩

/-- The text of a type is read as the type with the arrows behind `chan` moved to this word. -/
theorem Legible.ofText_written (h : Legible e) :
    ∃ t, e.written = .ok t ∧ ∀ scope, ofText scope t = .ok e.reread := by
  obtain ⟨t, ts, ht, hlexes, hspells⟩ := h.exists_spells
  exact ⟨t, ht, fun scope ↦ ofText_eq_ok_iff.2 ⟨ts, hlexes.ofText_eq, (hspells scope).1⟩⟩

/-! ### Different types have different texts -/

theorem chanOver_eq_compound {x : TypeExpr} (h : chanOver e = compound head [x]) :
    head = "chan" ∨ head = "chan<-" := by
  obtain ⟨y, -, heq⟩ | ⟨-, heq⟩ := chanOver_cases e
  · rw [heq] at h
    injection h with h
    exact .inr h.symm
  · rw [heq] at h
    injection h with h
    exact .inl h.symm

/-- Constructors that are read alike are the same unless one is `chan` and the other `chan<-`. -/
theorem head_eq_of_reread_eq {head' : String} {elem' : TypeExpr}
    (h : (compound head [elem]).reread = (compound head' [elem']).reread)
    (hfirst : head = "chan" → head' ≠ "chan<-") (hsecond : head' = "chan" → head ≠ "chan<-") :
    head = head' := by
  rw [reread_unary, reread_unary] at h
  split at h
  · rename_i hhead
    split at h
    · rename_i hhead'
      exact hhead.trans hhead'.symm
    · rename_i hhead'
      rcases chanOver_eq_compound h with hchan | hsend
      · exact absurd hchan hhead'
      · exact absurd hsend (hfirst hhead)
  · rename_i hhead
    split at h
    · rename_i hhead'
      rcases chanOver_eq_compound h.symm with hchan | hsend
      · exact absurd hchan hhead
      · exact absurd hsend (hsecond hhead')
    · injection h

/-- The number of arguments of the outermost constructor. -/
def arity : TypeExpr → Nat
  | compound _ args => args.length
  | _ => 0

/-- Reading keeps the number of arguments. -/
theorem arity_reread (e : TypeExpr) : e.reread.arity = e.arity := by
  fun_cases reread e with
  | case2 elem => obtain ⟨x, -, heq⟩ | ⟨-, heq⟩ := chanOver_cases elem.reread <;> rw [heq] <;> rfl
  | _ => rfl

/-- The fifth character tells a channel from one that can only be sent to. -/
theorem frontText_chan_append_ne (cs cs' : List Char) :
    (frontText "chan").toList ++ cs ≠ (frontText "chan<-").toList ++ cs' := by
  intro h
  have hfifth := congrArg (fun l ↦ l[4]?) h
  exact absurd hfifth (by simp [frontText, isChannelHead])

/-- Types with the same text are read back as the same type. -/
theorem Legible.reread_eq (he : Legible e) (he' : Legible e') (ht : e.written = .ok t)
    (ht' : e'.written = .ok t) : e.reread = e'.reread := by
  obtain ⟨u, hu, hread⟩ := he.ofText_written
  obtain ⟨u', hu', hother⟩ := he'.ofText_written
  obtain rfl : u = t := Except.ok.inj (hu.symm.trans ht)
  obtain rfl : u' = u := Except.ok.inj (hu'.symm.trans ht')
  exact Except.ok.inj ((hread "").symm.trans (hother ""))

/-- Behind the text of a type no closing bracket goes on to the text of another one. -/
theorem Legible.eq_nil_of_append (he : Legible e) (he' : Legible e') (ht : e.written = .ok t)
    (ht' : e'.written = .ok t') (hr : Token.EndsType r) (htext : t'.toList = t.toList ++ r) :
    r = [] := by
  obtain ⟨u, ts, hu, hlexes, hspells⟩ := he.exists_spells
  obtain ⟨u', ts', hu', hlexes', hother⟩ := he'.exists_spells
  obtain rfl : u = t := Except.ok.inj (hu.symm.trans ht)
  obtain rfl : u' = t' := Except.ok.inj (hu'.symm.trans ht')
  have hread := hlexes'.ofText_eq
  rw [htext, hlexes r hr] at hread
  cases hbehind : Token.ofText r with
  | error c =>
    rw [hbehind] at hread
    cases hread
  | ok ws =>
    rw [hbehind] at hread
    obtain rfl : ts ++ ws = ts' := Except.ok.inj hread
    obtain hnil | ⟨us, rfl⟩ := hr.eq_nil_or_exists hbehind
    · exact hnil
    -- the reader would stop in front of the bracket, and it would not
    have hends : EndsSpelling (.mark .closeBracket :: us) := fun x hx ↦ (Option.some.inj hx).symm
    have hnone : EndsSpelling [] := fun x hx ↦ nomatch hx
    have hgo := (hother "").1.reads hnone
    rw [List.append_nil] at hgo
    cases ((hspells "").1.reads hends).unique hgo

/-- Where types end, texts that begin alike are the same. -/
theorem Legible.eq_of_append_eq (he : Legible e) (he' : Legible e') (ht : e.written = .ok t)
    (ht' : e'.written = .ok t') (hr : Token.EndsType r) (hr' : Token.EndsType r')
    (htext : t.toList ++ r = t'.toList ++ r') : t = t' ∧ r = r' := by
  have hpart {x y : List Char} (hxy : Token.EndsType (x ++ y)) : Token.EndsType x := by
    intro c hc
    obtain ⟨cs, rfl⟩ := List.head?_eq_some_iff.1 hc
    exact hxy c rfl
  obtain ⟨x, hx, rfl⟩ | ⟨x, hx, rfl⟩ := List.append_eq_append_iff.1 htext
  · obtain rfl := he.eq_nil_of_append he' ht ht' (hpart hr) hx
    rw [List.append_nil] at hx
    exact ⟨(String.toList_inj.1 hx).symm, rfl⟩
  · obtain rfl := he'.eq_nil_of_append he ht' ht (hpart hr') hx
    rw [List.append_nil] at hx
    exact ⟨String.toList_inj.1 hx, rfl⟩

/-- Different types of the notation have different texts. -/
theorem Legible.eq_of_written (he : Legible e) (he' : Legible e') (ht : e.written = .ok t)
    (ht' : e'.written = .ok t) : e = e' := by
  induction he generalizing e' t with
  | @name s h =>
    have harity := congrArg arity ((Legible.name h).reread_eq he' ht ht')
    rw [arity_reread, arity_reread] at harity
    cases he' with
    | name =>
      have hs := Except.ok.inj (ht.trans ht'.symm)
      rw [hs]
    | unary | map => simp [arity] at harity
  | @unary head hts elem hhead helem ih =>
    have hreread := (Legible.unary hhead helem).reread_eq he' ht ht'
    have harity := congrArg arity hreread
    rw [arity_reread, arity_reread] at harity
    cases he' with
    | @unary head' hts' elem' hhead' helem' =>
      obtain ⟨u, hu, rfl⟩ := written_unary_iff.1 ht
      obtain ⟨u', hu', htext⟩ := written_unary_iff.1 ht'
      replace htext := congrArg String.toList htext
      rw [String.toList_append, String.toList_append] at htext
      -- what is read leaves `chan` and `chan<-` in doubt, which are not written alike
      have hfirst : head = "chan" → head' ≠ "chan<-" := by
        rintro rfl rfl
        exact frontText_chan_append_ne _ _ htext
      have hsecond : head' = "chan" → head ≠ "chan<-" := by
        rintro rfl rfl
        exact frontText_chan_append_ne _ _ htext.symm
      obtain rfl := head_eq_of_reread_eq hreread hfirst hsecond
      obtain rfl := String.toList_inj.1 (List.append_cancel_left htext)
      rw [ih helem' hu hu']
    | name | map => simp [arity] at harity
  | @map key value hk hv ihk ihv =>
    have harity := congrArg arity ((Legible.map hk hv).reread_eq he' ht ht')
    rw [arity_reread, arity_reread] at harity
    cases he' with
    | @map key' value' hk' hv' =>
      obtain ⟨k, v, hkt, hvt, rfl⟩ := written_map_iff.1 ht
      obtain ⟨k', v', hkt', hvt', htext⟩ := written_map_iff.1 ht'
      replace htext := congrArg String.toList htext
      simp only [String.toList_append] at htext
      have hends (v : List Char) : Token.EndsType ("]".toList ++ v) :=
        fun c hc ↦ (Option.some.inj hc).symm
      obtain ⟨rfl, hbehind⟩ := hk.eq_of_append_eq hk' hkt hkt' (hends _) (hends _)
        (List.append_cancel_left htext)
      obtain rfl := String.toList_inj.1 (List.append_cancel_left hbehind)
      rw [ihk hk' hkt hkt', ihv hv' hvt hvt']
    | name | unary => simp [arity] at harity

end TypeExpr

end ChannelGraph
