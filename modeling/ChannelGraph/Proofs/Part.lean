import ChannelGraph.Proofs.Document.Parts
import ChannelGraph.Proofs.TypeExpr.Acceptance
import Mathlib

/-!
# Pins of parts

The pins of a part are collected in a map, so a pin whose name was used before would take the place
of the other one. That never happens: different numbers are written differently, and the pin without
a number has another stem, so broadcasts and gathers of any size have all their pins
(`Part.entries_pins_broadcast`, `Part.entries_pins_gather`). A block of code has exactly the pins
that its configuration declares, in the same order and each with the type and the direction that are
written there (`Part.forall₂_declares`).

The type of a pin is read once, in the empty scope. That it can be read in the scope of any node as
well, with nothing but the scopes changed, is what the grammar says about scopes
(`TypeExpr.ofText_moved`).
-/

namespace ChannelGraph

/-! ### Types in every scope -/

/-- What can be read in one scope can be read in every other, which only moves the parameters. -/
theorem TypeExpr.ofText_moved {scope text : String} {e : TypeExpr} (h : ofText scope text = .ok e)
    (scope' : String) : ofText scope' text = .ok (e.inScope scope') := by
  obtain ⟨ts, hts, hspells⟩ := ofText_eq_ok_iff.1 h
  exact ofText_eq_ok_iff.2 ⟨ts, hts, hspells.inScope scope'⟩

/-- A type that is read has all its parameters in the scope it is read in. -/
theorem TypeExpr.scope_of_ofText {scope text : String} {e : TypeExpr}
    (h : ofText scope text = .ok e) : ∀ p ∈ e.params, p.scope = scope := by
  obtain ⟨ts, -, hspells⟩ := ofText_eq_ok_iff.1 h
  exact hspells.scope_of_mem_params

namespace DeclaredType

/-- A declared type keeps the text that it was read from. -/
theorem text_of_ofText {s : String} {d : DeclaredType} (h : ofText s = .ok d) : d.text = s := by
  unfold ofText at h
  split at h <;> cases h
  rfl

end DeclaredType

/-! ### Tables in their order -/

namespace Checked

variable {α β : Type}

/-- A list of results has the result of each checked value in its place. -/
theorem forall₂_of_all {f : α → Checked β} {as : List α} {bs : List β} (h : all f as = .ok bs) :
    List.Forall₂ (fun a b ↦ f a = .ok b) as bs := by
  induction as generalizing bs with
  | nil =>
    cases h
    exact .nil
  | cons a as ih =>
    obtain ⟨g, bs', hg, hbs, rfl⟩ := ap_eq_ok_iff.1 h
    obtain ⟨b, hb, rfl⟩ := map_eq_ok_iff.1 hg
    exact .cons hb (ih hbs)

/-- A table with different keys has the results of the values under the same keys in the same
order. -/
theorem forall₂_of_entries {check : Json → Checked α} {es : List (String × Json)}
    {m : OrderedMap String α} (hkeys : (es.map Prod.fst).Nodup) (h : entries check es = .ok m) :
    List.Forall₂ (fun e r ↦ r.1 = e.1 ∧ check e.2 = .ok r.2) es m.entries := by
  obtain ⟨results, hresults, rfl⟩ := map_eq_ok_iff.1 h
  have hall : List.Forall₂ (fun (e : String × Json) r ↦ r.1 = e.1 ∧ check e.2 = .ok r.2) es
      results := by
    refine (forall₂_of_all hresults).imp fun e r hr ↦ ?_
    obtain ⟨a, ha, rfl⟩ := map_eq_ok_iff.1 hr
    exact ⟨rfl, inside_eq_ok_iff.1 ha⟩
  have hsame : es.map Prod.fst = results.map Prod.fst := by
    rw [← List.forall₂_eq_eq_eq, List.forall₂_map_left_iff, List.forall₂_map_right_iff]
    exact hall.imp fun e r hr ↦ hr.1.symm
  rwa [OrderedMap.entries_ofList (hsame ▸ hkeys)]

/-- A required field that passes its check is there. -/
theorem exists_of_required {check : Json → Checked α} {members : List (String × Json)}
    {key : String} {a : α} (h : required members key check = .ok a) :
    ∃ v, Json.member? key members = some v ∧ check v = .ok a := by
  have hread := inside_eq_ok_iff.1 h
  split at hread
  · cases hread
  · rename_i v hv
    exact ⟨v, hv, hread⟩

end Checked

/-! ### Texts and words -/

theorem Lenient.eq_string_of_text {v : Json} {s : String} (h : text v = .ok s) : v = .string s := by
  cases v <;> cases h
  rfl

/-- A value that is checked to be a declared type is its text. -/
theorem DeclaredType.eq_text_of_check {v : Json} {d : DeclaredType} (h : check v = .ok d) :
    v = .string d.text := by
  obtain ⟨s, hs, hread⟩ := Checked.bind_eq_ok_iff.1 h
  split at hread
  · rename_i hd
    cases hread
    rw [text_of_ofText hd]
    exact Lenient.eq_string_of_text (Checked.leaf_eq_ok_iff.1 hs)
  · cases hread

theorem Direction.eq_word_of_ofWord? {s : String} {d : Direction} (h : ofWord? s = some d) :
    s = d.word := by
  unfold ofWord? at h
  split at h <;> cases h <;> rfl

/-- A value that is checked to be a direction is its word. -/
theorem Direction.eq_word_of_check {v : Json} {d : Direction} (h : check v = .ok d) :
    v = .string d.word := by
  unfold check at h
  split at h
  · split at h
    · rename_i hd
      cases h
      rw [eq_word_of_ofWord? hd]
    · cases h
  · cases h

namespace Part

/-! ### Numbered pins -/

/-- Different numbers make different names of pins. -/
theorem numbered_injective (stem : String) : Function.Injective (numbered stem) :=
  fun _ _ h ↦ Nat.repr_inj.1 ((String.append_right_inj stem).1 h)

/-- The pins with the numbers below a bound. -/
def numberedPins (stem : String) (pin : Pin) (n : Nat) : List (String × Pin) :=
  (List.range n).map fun i ↦ (numbered stem i, pin)

/-- No name comes twice among numbered pins. -/
theorem nodup_numberedPins (stem : String) (pin : Pin) (n : Nat) :
    ((numberedPins stem pin n).map Prod.fst).Nodup := by
  rw [numberedPins, List.map_map]
  exact List.nodup_range.map (numbered_injective stem)

theorem length_numberedPins (stem : String) (pin : Pin) (n : Nat) :
    (numberedPins stem pin n).length = n := by
  rw [numberedPins, List.length_map, List.length_range]

/-- A name that begins with another letter than the stem is not among the names with numbers. -/
theorem not_mem_numberedPins {stem name : String} (hstem : stem.toList ≠ [])
    (h : name.toList.head? ≠ stem.toList.head?) (pin : Pin) (n : Nat) :
    name ∉ (numberedPins stem pin n).map Prod.fst := by
  rw [numberedPins, List.map_map]
  intro hmem
  obtain ⟨i, -, rfl⟩ := List.mem_map.1 hmem
  refine h ?_
  change (stem ++ toString i).toList.head? = _
  rw [String.toList_append, List.head?_append_of_ne_nil _ hstem]

/-- A broadcast has its input and behind it as many outputs as it was told, numbered in order. -/
theorem entries_pins_broadcast (n : Positive) : (broadcast n).pins.entries =
    ("input", ⟨.elem, .input⟩) :: numberedPins "output" ⟨.elem, .output⟩ n := by
  refine OrderedMap.entries_ofList (List.nodup_cons.2 ⟨?_, nodup_numberedPins _ _ _⟩)
  exact not_mem_numberedPins (by simp) (by simp) _ _

/-- A gather has as many inputs as it was told, numbered in order, and behind them its output. -/
theorem entries_pins_gather (n : Positive) : (gather n).pins.entries =
    numberedPins "input" ⟨.elem, .input⟩ n ++ [("output", ⟨.elem, .output⟩)] := by
  refine OrderedMap.entries_ofList ?_
  rw [List.map_append, List.nodup_append']
  refine ⟨nodup_numberedPins "input" _ _, List.nodup_singleton _, ?_⟩
  rw [List.map_singleton, List.disjoint_singleton]
  exact not_mem_numberedPins (by simp) (by simp) _ _

/-! ### Declared pins -/

/-- The members of a value, with repeated keys settled; other values than objects have none. -/
def members : Json → List (String × Json)
  | .object entries => Json.settle entries
  | _ => []

/-- The members that declare pins in the configuration of a block of code. -/
def declarations (config : Json) : List (String × Json) :=
  ((Json.member? "pins" (members config)).map members).getD []

/-- A member of a configuration declares a pin: it has the name of the pin as its key, and its
value has the text of the type and the word for the direction. -/
def Declares (declaration : String × Json) (entry : String × Pin) : Prop :=
  entry.1 = declaration.1 ∧
    Json.member? "type" (members declaration.2) = some (.string entry.2.type.text) ∧
    Json.member? "dir" (members declaration.2) = some (.string entry.2.direction.word)

theorem eq_members_of_membersOr {v : Json} {kind : FaultKind} {ms : List (String × Json)}
    (h : v.membersOr kind = .ok ms) : ms = members v := by
  cases v <;> cases h
  rfl

theorem members_of_isBlank {v : Json} (h : v.isBlank) : members v = [] := by
  cases v with
  | object entries =>
    cases List.isEmpty_iff.1 h
    rfl
  | _ => rfl

theorem nodup_keys_members (v : Json) : ((members v).map Prod.fst).Nodup := by
  cases v with
  | object entries =>
    rw [members, Json.settle_eq_ofList]
    exact OrderedMap.nodup _
  | _ => exact List.nodup_nil

/-- A value that is checked to be a pin declares it, under any name. -/
theorem declares_of_check {v : Json} {pin : Pin} (name : String) (h : Pin.check v = .ok pin) :
    Declares (name, v) (name, pin) := by
  obtain ⟨ms, hms, hread⟩ := Checked.bind_eq_ok_iff.1 h
  cases eq_members_of_membersOr hms
  obtain ⟨make, direction, hmake, hdirection, rfl⟩ :=
    Checked.ap_eq_ok_iff.1 (Checked.eq_ok_of_andCheck hread)
  obtain ⟨type, htype, rfl⟩ := Checked.map_eq_ok_iff.1 hmake
  obtain ⟨t, ht, hcheck⟩ := Checked.exists_of_required htype
  obtain ⟨w, hw, hcheck'⟩ := Checked.exists_of_required hdirection
  cases DeclaredType.eq_text_of_check hcheck
  cases Direction.eq_word_of_check hcheck'
  exact ⟨rfl, ht, hw⟩

/-- The pins of a table are those that its members declare, in their order. -/
theorem forall₂_declares_of_table {v : Json} {pins : OrderedMap String Pin}
    (h : Checked.table Pin.check v = .ok pins) :
    List.Forall₂ Declares (members v) pins.entries := by
  obtain ⟨es, hes, hread⟩ := Checked.bind_eq_ok_iff.1 h
  cases eq_members_of_membersOr hes
  refine (Checked.forall₂_of_entries (nodup_keys_members v) hread).imp fun e r hr ↦ ?_
  obtain ⟨name, pin⟩ := r
  obtain ⟨rfl, hpin⟩ := hr
  exact declares_of_check e.1 hpin

/-- The pins of a block of code are those that its configuration declares, in their order. -/
theorem forall₂_declares {config : Json} {block : CodeBlock}
    (h : codeBlock (members config) = .ok block) :
    List.Forall₂ Declares (declarations config) block.pins.entries := by
  obtain ⟨_, pins, htail, hpins, rfl⟩ := Checked.ap_eq_ok_iff.1 h
  obtain ⟨_, tail, hbody, -, rfl⟩ := Checked.ap_eq_ok_iff.1 htail
  obtain ⟨_, body, hhead, -, rfl⟩ := Checked.ap_eq_ok_iff.1 hbody
  obtain ⟨_, head, himports, -, rfl⟩ := Checked.ap_eq_ok_iff.1 hhead
  obtain ⟨imports, -, rfl⟩ := Checked.map_eq_ok_iff.1 himports
  rw [declarations]
  unfold Checked.optional at hpins
  split at hpins
  · rename_i hnone
    cases hpins
    rw [hnone]
    exact .nil
  · rename_i v hv
    rw [hv]
    exact forall₂_declares_of_table (Checked.inside_eq_ok_iff.1 hpins)

/-- A part that is a code block was read as one. -/
theorem codeBlock_of_ofMembers {kind : PartKind} {ms : List (String × Json)} {block : CodeBlock}
    (h : ofMembers kind ms = .ok (code block)) : codeBlock ms = .ok block := by
  cases kind with
  | code =>
    obtain ⟨block', hblock, heq⟩ := Checked.map_eq_ok_iff.1 h
    cases heq
    exact hblock
  | transform =>
    obtain ⟨make, body, hmake, -, heq⟩ := Checked.ap_eq_ok_iff.1 h
    obtain ⟨imports, -, rfl⟩ := Checked.map_eq_ok_iff.1 hmake
    cases heq
  | broadcast | gather =>
    obtain ⟨n, -, heq⟩ := Checked.map_eq_ok_iff.1 h
    cases heq
  | unslicer => cases h

/-- A part is read from the members of its configuration, of which a blank one has none. -/
theorem exists_ofMembers {word config : Json} {part : Part} (h : ofConfig word config = .ok part) :
    ∃ kind, ofMembers kind (members config) = .ok part := by
  unfold ofConfig at h
  split at h
  · cases h
  · rename_i kind _
    refine ⟨kind, ?_⟩
    cases hread : configure kind (if config.isBlank then .object [] else config) with
    | error faults =>
      rw [hread] at h
      cases h
    | ok part' =>
      rw [hread] at h
      cases h
      obtain ⟨ms, hms, hpart⟩ := Checked.bind_eq_ok_iff.1 hread
      have hmembers : ms = members config := by
        rw [eq_members_of_membersOr hms]
        split
        · rename_i hblank
          exact (members_of_isBlank hblank).symm
        · rfl
      exact hmembers ▸ Checked.eq_ok_of_andCheck hpart

/-- However a part was configured, none of its pins is lost: a broadcast has its input and then its
outputs, a gather its inputs and then its output, by number and as many as it was told, a block of
code has the pins that its configuration declares, in their order, and the others have their input
and their output. The type of each pin can be read in every scope, and the types read in two scopes
differ only by the scopes of their parameters. -/
theorem ofConfig_pins {word config : Json} {part : Part} (h : ofConfig word config = .ok part) :
    (∀ n, part = broadcast n → part.pins.size = n + 1 ∧ part.pins.entries =
      ("input", ⟨.elem, .input⟩) :: numberedPins "output" ⟨.elem, .output⟩ n) ∧
    (∀ n, part = gather n → part.pins.size = n + 1 ∧ part.pins.entries =
      numberedPins "input" ⟨.elem, .input⟩ n ++ [("output", ⟨.elem, .output⟩)]) ∧
    (∀ block, part = code block →
      List.Forall₂ Declares (declarations config) part.pins.entries) ∧
    (∀ imports body, part = transform imports body → part.pins.entries =
      [("input", ⟨.source, .input⟩), ("output", ⟨.target, .output⟩)]) ∧
    (part = unslicer → part.pins.entries =
      [("input", ⟨.slice, .input⟩), ("output", ⟨.elem, .output⟩)]) ∧
    ∀ entry ∈ part.pins.entries, ∀ scope, ∃ e,
      TypeExpr.ofText scope entry.2.type.text = .ok e ∧ (∀ p ∈ e.params, p.scope = scope) ∧
        ∀ scope', TypeExpr.ofText scope' entry.2.type.text = .ok (e.inScope scope') := by
  refine ⟨fun n hn ↦ ?_, fun n hn ↦ ?_, fun block hblock ↦ ?_, fun imports body hpart ↦ ?_,
    fun hpart ↦ ?_, fun entry _ scope ↦ ?_⟩
  · subst hn
    refine ⟨?_, entries_pins_broadcast n⟩
    rw [OrderedMap.size, entries_pins_broadcast, List.length_cons, length_numberedPins]
  · subst hn
    refine ⟨?_, entries_pins_gather n⟩
    rw [OrderedMap.size, entries_pins_gather, List.length_append, length_numberedPins]
    rfl
  · subst hblock
    obtain ⟨kind, hread⟩ := exists_ofMembers h
    exact forall₂_declares (codeBlock_of_ofMembers hread)
  · subst hpart
    exact OrderedMap.entries_ofList (by decide)
  · subst hpart
    exact OrderedMap.entries_ofList (by decide)
  · have hread : TypeExpr.ofText scope entry.2.type.text = .ok (entry.2.type.inScope scope) :=
      TypeExpr.ofText_moved entry.2.type.reads scope
    exact ⟨_, hread, TypeExpr.scope_of_ofText hread, TypeExpr.ofText_moved hread⟩

/-- Eleven outputs, the last of which has a number of two digits. -/
theorem ofConfig_pins_eleven :
    ofConfig (.string "broadcast") (.object [("output_num", .int 11)]) =
        .ok (broadcast ⟨11, by decide⟩) ∧
      (broadcast ⟨11, by decide⟩).pins.size = 12 ∧
      ("output10", ⟨.elem, .output⟩) ∈ (broadcast ⟨11, by decide⟩).pins.entries ∧
      TypeExpr.ofText "node" "$T" = .ok (.param ⟨"node", "T"⟩) := by
  have hread : ofConfig (.string "broadcast") (.object [("output_num", .int 11)]) =
      .ok (broadcast ⟨11, by decide⟩) := by rfl
  obtain ⟨hbroadcast, -, -, -, -, htypes⟩ := ofConfig_pins hread
  obtain ⟨hsize, hentries⟩ := hbroadcast _ rfl
  have hlast : ("output10", ⟨.elem, .output⟩) ∈ (broadcast ⟨11, by decide⟩).pins.entries := by
    rw [hentries]
    decide +kernel
  obtain ⟨e, he, -, hmoved⟩ := htypes _ hlast ""
  obtain rfl : DeclaredType.elem.tree = e := Except.ok.inj (DeclaredType.elem.reads.symm.trans he)
  exact ⟨hread, hsize, hlast, hmoved "node"⟩

end Part

end ChannelGraph
