import ChannelGraph.Proofs.TypeExpr.Grammar
import ChannelGraph.Proofs.TypeExpr.Tokens

/-!
# What the reader accepts

The grammar (`TypeExpr.Spells`) is the whole truth about the reader: a text denotes a type exactly
if it is more than white space and all its tokens, none left over, spell the type
(`ofText_exact`). The grammar decides what the type is (`Spells.unique`), and what it says about
spellings is therefore true of every type that is read: all parameters are in the given scope, every
constructor has the arity that its text needs, and another scope only moves the parameters
(`Spells.inScope`).
-/

namespace ChannelGraph

/-- A text is blank exactly if it has no tokens. -/
theorem Token.ofText_eq_nil_iff {cs : List Char} :
    Token.ofText cs = .ok [] ↔ ∀ c ∈ cs, Text.isBlank c := by
  rw [← List.dropWhile_eq_nil_iff, Token.ofText_eq, Text.trimLeft]
  cases cs.dropWhile Text.isBlank with
  | nil => exact iff_of_true rfl rfl
  | cons c rest =>
    refine iff_of_false ?_ (List.cons_ne_nil c rest)
    dsimp only
    intro htokens
    split at htokens
    · cases htokens
    · rename_i t behind _
      cases hbehind : Token.ofText behind with
      | error c =>
        rw [hbehind] at htokens
        cases htokens
      | ok ts =>
        rw [hbehind] at htokens
        cases htokens

namespace TypeExpr

variable {scope text : String} {ts : List Token} {e e' : TypeExpr}

/-! ### What a spelling decides -/

/-- Tokens spell at most one type. -/
theorem Spells.unique (h : Spells scope ts e) (h' : Spells scope ts e') : e = e' := by
  have hends : EndsSpelling [] := fun _ hmem ↦ nomatch hmem
  obtain ⟨_, hread⟩ := h.reads hends
  obtain ⟨_, hread'⟩ := h'.reads hends
  cases hread.symm.trans hread'
  rfl

/-- In another scope the same tokens spell the same type with its parameters in that scope. -/
theorem Spells.inScope (h : Spells scope ts e) (scope' : String) :
    Spells scope' ts (e.inScope scope') := by
  induction h with
  | param x => exact .param x
  | pointer _ ih => exact .pointer ih
  | slice _ ih => exact .slice ih
  | array n _ ih => exact .array n ih
  | receive _ ih => exact .receive ih
  | send _ ih => exact .send ih
  | chan _ harrow ih => exact .chan ih harrow
  | map _ _ ihk ihv => exact .map ihk ihv
  | func hargs hdollar => exact .func hargs hdollar
  | funcGroup hargs hresults hdollar => exact .funcGroup hargs hresults hdollar
  | funcType hargs _ hdollar ih => exact .funcType hargs ih hdollar
  | block hx hbody hdollar => exact .block hx hbody hdollar
  | word hx => exact .word hx
  | qualified hx y => exact .qualified hx y

/-- A spelled type has its parameters in the scope of the spelling. -/
theorem Spells.scope_of_mem_params (h : Spells scope ts e) : ∀ q ∈ e.params, q.scope = scope := by
  have hsame : e = e.inScope scope := h.unique (h.inScope scope)
  intro q hq
  rw [hsame, params_inScope] at hq
  obtain ⟨x, -, rfl⟩ := List.mem_map.1 hq
  rfl

/-- Every constructor of a spelled type has the arity that its text needs. -/
theorem Spells.isWritable (h : Spells scope ts e) : e.IsWritable := by
  induction h with
  | param x => exact .param _
  | pointer _ ih | slice _ ih | array _ _ ih | receive _ ih | send _ ih | chan _ _ ih =>
    exact .unary _ ih
  | map _ _ ihk ihv => exact .map ihk ihv
  | func | funcGroup | funcType | block | word | qualified => exact .name _

/-! ### What is accepted -/

/-- No type is spelled without tokens. -/
theorem Spells.ne_nil (h : Spells scope ts e) : ts ≠ [] := by
  obtain ⟨t, behind, rfl, -⟩ := h.exists_cons
  exact List.cons_ne_nil t behind

theorem toOption_ofText_eq_some_iff : (ofText scope text).toOption = some e ↔
    ∃ ts, Token.ofText text.toList = .ok ts ∧ Spells scope ts e := by
  rw [← ofText_eq_ok_iff]
  cases ofText scope text <;> simp [Except.toOption]

/-- Whether a text is accepted does not depend on the scope, and the scope only moves the
parameters of the type. -/
theorem ofText_inScope (scope scope' text : String) :
    (ofText scope' text).toOption = (ofText scope text).toOption.map (inScope scope') := by
  apply Option.ext
  intro e'
  rw [Option.map_eq_some_iff]
  simp only [toOption_ofText_eq_some_iff]
  constructor
  · rintro ⟨ts, hts, h⟩
    refine ⟨e'.inScope scope, ⟨ts, hts, h.inScope scope⟩, ?_⟩
    exact ((h.inScope scope).inScope scope').unique h
  · rintro ⟨e, ⟨ts, hts, h⟩, rfl⟩
    exact ⟨ts, hts, h.inScope scope'⟩

/-- A text is read as a type exactly if it is not blank, splits into tokens completely and all its
tokens spell the type, which is the only one that they spell; every other text is refused. What is
read has its parameters in the given scope and every constructor with the arity that its text needs,
and another scope changes neither what is accepted nor the type, apart from moving its
parameters. -/
theorem ofText_exact (scope text : String) :
    (∀ e, ofText scope text = .ok e ↔ (¬∀ c ∈ text.toList, Text.isBlank c) ∧
      ∃ ts, Token.ofText text.toList = .ok ts ∧ Spells scope ts e) ∧
    (∀ ts e e', Spells scope ts e → Spells scope ts e' → e = e') ∧
    ((∃ refusal, ofText scope text = .error refusal) ↔ (∀ c ∈ text.toList, Text.isBlank c) ∨
      ∀ ts, Token.ofText text.toList = .ok ts → ∀ e, ¬Spells scope ts e) ∧
    (∀ e, ofText scope text = .ok e → (∀ q ∈ e.params, q.scope = scope) ∧ e.IsWritable) ∧
    ∀ scope',
      (ofText scope' text).toOption = (ofText scope text).toOption.map (inScope scope') := by
  -- a blank text has no tokens, and these spell nothing
  have hblank : (∀ c ∈ text.toList, Text.isBlank c) →
      ∀ ts, Token.ofText text.toList = .ok ts → ∀ e, ¬Spells scope ts e := by
    intro hblank ts hts e h
    cases (Token.ofText_eq_nil_iff.2 hblank).symm.trans hts
    exact h.ne_nil rfl
  refine ⟨fun e ↦ ?_, fun ts e e' ↦ Spells.unique, ?_, fun e he ↦ ?_,
    fun scope' ↦ ofText_inScope scope scope' text⟩
  · rw [ofText_eq_ok_iff, iff_and_self]
    rintro ⟨ts, hts, h⟩ hall
    exact hblank hall ts hts e h
  · rw [or_iff_right_of_imp hblank]
    cases hread : ofText scope text with
    | error refusal =>
      refine iff_of_true ⟨refusal, rfl⟩ fun ts hts e h ↦ ?_
      cases hread.symm.trans (ofText_eq_ok_iff.2 ⟨ts, hts, h⟩)
    | ok e =>
      obtain ⟨ts, hts, h⟩ := ofText_eq_ok_iff.1 hread
      exact iff_of_false (fun ⟨_, herror⟩ ↦ nomatch herror) fun hnone ↦ hnone ts hts e h
  · obtain ⟨ts, -, h⟩ := ofText_eq_ok_iff.1 he
    exact ⟨h.scope_of_mem_params, h.isWritable⟩

end TypeExpr

end ChannelGraph
