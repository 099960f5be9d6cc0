import ChannelGraph.Document.Basic
import ChannelGraph.Proofs.Document.Checked
import ChannelGraph.Proofs.Json.Readable

/-!
# Documents that were read

The numbers of a document that was read can be read again (`Document.readable_of_ofText`), however
they were written: as numbers of the text, which the reader of values has kept within limits, or as
texts, truth values and numbers of another kind, from which they were made by lenient rules.

A check of values is described by what is true of all that it gives (`Checked.Gives`), provided that
the values can be read. What it takes for a record to be checked is taken apart field by field.
-/

namespace ChannelGraph

/-! ### Checks of values that can be read -/

namespace Checked

variable {α : Type} {check : Json → Checked α} {members : List (String × Json)} {key : String}
  {depth : Nat} {a : α} {P : α → Prop}

/-- A check of values gives what has a property, wherever the values can be read. -/
def Gives (check : Json → Checked α) (P : α → Prop) : Prop :=
  ∀ depth v a, v.Readable depth → check v = .ok a → P a

/-- What is true of the values that can be read and of nothing is true of an optional field. -/
theorem Gives.optional (hcheck : Gives check P) {default : α} (hdefault : P default)
    (hmembers : ∀ m ∈ members, m.2.Readable depth)
    (h : Checked.optional members key default check = .ok a) : P a := by
  unfold Checked.optional at h
  split at h
  · cases h
    exact hdefault
  · rename_i v hv
    exact hcheck depth v a (hmembers _ (mem_of_member? hv)) (inside_eq_ok_iff.1 h)

/-- What is true of all that a check gives is true of the values of a table of it. -/
theorem Gives.writtenTable (hcheck : Gives check P) :
    Gives (Checked.writtenTable check) fun m ↦ ∀ a ∈ m.values, P a := by
  intro depth v m hv h a ha
  cases hv with
  | noEntries =>
    obtain ⟨e, he, -⟩ := exists_of_entries h ha
    cases he
  | object hentries =>
    obtain ⟨e, he, hea⟩ := exists_of_entries h ha
    exact hcheck _ _ _ (hentries e he) hea
  | _ => cases h

end Checked

/-- The members of a value that can be read. -/
theorem Json.Readable.members {depth : Nat} {v : Json} {kind : FaultKind}
    {members : List (String × Json)} (h : v.Readable depth)
    (hmembers : v.membersOr kind = .ok members) : ∃ d, ∀ m ∈ members, m.2.Readable d := by
  cases h with
  | noEntries =>
    cases hmembers
    exact ⟨0, fun m hm ↦ nomatch hm⟩
  | @object d entries h =>
    cases hmembers
    refine ⟨d, fun m hm ↦ h m ?_⟩
    rw [settle_eq_ofList] at hm
    exact OrderedMap.mem_of_mem_ofList hm
  | _ => cases hmembers

/-! ### Numbers -/

namespace TextNumeral

variable {cs : List Char} {n : Int}

/-- A numeral is read as an integer only within the limit on digits. -/
theorem readable_of_strictInteger (h : strictInteger cs = .ok n) : Numeral.Readable n.natAbs := by
  unfold strictInteger at h
  split at h
  all_goals
    split at h
    · cases h
    rename_i d ds hwhole
    split at h
    · cases h
    split at h
    · cases h
    rename_i hlimit
    split at h
    · cases h
      have hrun : Numeral.IsRun (d :: ds) := hwhole ▸ Numeral.isRun_takeWhile _
      exact Numeral.readable_signed hrun (List.cons_ne_nil d ds) (Nat.not_lt.1 hlimit) _
    · cases h

/-- A numeral whose sign was read before is read as an integer only within the limit on digits. -/
theorem readable_of_unsignedInteger? {negative : Bool} (h : unsignedInteger? negative cs = some n) :
    Numeral.Readable n.natAbs := by
  obtain ⟨ds, -, h⟩ := Option.bind_eq_some_iff.1 h
  dsimp only at h
  cases hstrict : strictInteger (if negative then '-' :: (ungroup? (dropZeroFraction ds)).getD
      (dropZeroFraction ds) else (ungroup? (dropZeroFraction ds)).getD (dropZeroFraction ds)) with
  | error kind =>
    rw [hstrict] at h
    cases h
  | ok m =>
    rw [hstrict] at h
    cases h
    exact readable_of_strictInteger hstrict

/-- An integer from a text is read again, whichever of its writings the text has. -/
theorem readable_of_integer {s : String} (h : integer s = .ok n) : Numeral.Readable n.natAbs := by
  unfold integer at h
  dsimp only at h
  split at h
  · split at h
    · rename_i hfree
      cases h
      unfold freeInteger? at hfree
      split at hfree
      · cases hfree
      all_goals exact readable_of_unsignedInteger? hfree
    · cases h
  · exact readable_of_strictInteger h

/-- A float from a text is none of the numbers, or a number that rounding has produced. -/
theorem isKept_of_plainFloat? {x : Binary64} (h : plainFloat? cs = some x) : x.IsKept := by
  unfold plainFloat? at h
  dsimp only at h
  split at h
  · cases h
    trivial
  split at h
  · cases h
    trivial
  · obtain ⟨d, -, rfl⟩ := Option.map_eq_some_iff.1 h
    exact Binary64.isKept_ofDecimal _ _ _

/-- A float from a text with underscores between digits is none of the numbers, or one that rounding
has produced. -/
theorem isKept_of_float? {s : String} {x : Binary64} (h : float? s = some x) : x.IsKept := by
  unfold float? at h
  split at h
  · rename_i hplain
    cases h
    exact isKept_of_plainFloat? hplain
  · obtain ⟨ds, -, h⟩ := Option.bind_eq_some_iff.1 h
    exact isKept_of_plainFloat? h

end TextNumeral

namespace Lenient

variable {depth : Nat} {v : Json}

/-- A float gives an integer only within the bounds of a word. -/
theorem readable_of_integerOfFloat {x : Binary64} {n : Int} (h : integerOfFloat x = .ok n) :
    Numeral.Readable n.natAbs := by
  unfold integerOfFloat at h
  split at h
  · split at h
    · cases h
    · split at h
      · rename_i hbound
        cases h
        refine Numeral.readable_of_lt (k := 19) (by decide) (by decide) ?_
        unfold wordBound at hbound
        omega
      · cases h
  · cases h

/-- An integer from a value of any kind that may stand for one is read again. -/
theorem readable_of_integer {n : Int} (hv : v.Readable depth) (h : integer v = .ok n) :
    Numeral.Readable n.natAbs := by
  cases hv with
  | int hn =>
    cases h
    exact hn
  | bool b =>
    cases h
    cases b <;> exact Numeral.readable_of_lt Nat.one_pos (by decide) (by decide)
  | float _ => exact readable_of_integerOfFloat h
  | string s => exact TextNumeral.readable_of_integer h
  | _ => cases h

/-- A natural number in a document is read again. -/
theorem gives_natural : Checked.Gives (Checked.leaf natural) Numeral.Readable := by
  intro depth v n hv h
  obtain ⟨i, hi, hn⟩ := Checked.bind_eq_ok_iff.1 (Checked.leaf_eq_ok_iff.1 h)
  have hread := readable_of_integer hv hi
  split at hn
  · rename_i hnonneg
    obtain ⟨m, rfl⟩ := Int.eq_ofNat_of_zero_le hnonneg
    cases hn
    exact hread
  · cases hn

/-- A positive number in a document is read again. -/
theorem gives_positive :
    Checked.Gives (Checked.leaf positive) fun n : Positive ↦ Numeral.Readable n := by
  intro depth v n hv h
  obtain ⟨i, hi, hn⟩ := Checked.bind_eq_ok_iff.1 (Checked.leaf_eq_ok_iff.1 h)
  have hread := readable_of_integer hv hi
  unfold Positive.ofInt? at hn
  split at hn
  · rename_i p hp
    cases hn
    split at hp
    · rename_i hpos
      obtain ⟨m, rfl⟩ := Int.eq_ofNat_of_zero_le hpos.le
      cases hp
      exact hread
    · cases hp
  · cases hn

/-- A float in a document is kept. -/
theorem gives_float : Checked.Gives (Checked.leaf float) Binary64.IsKept := by
  intro depth v x hv h
  replace h := Checked.leaf_eq_ok_iff.1 h
  cases hv with
  | float hx =>
    cases h
    exact hx
  | int _ =>
    cases h
    exact Binary64.isKept_ofInt _
  | bool b =>
    cases h
    exact Binary64.isKept_ofInt _
  | string s =>
    rw [float] at h
    split at h
    · rename_i hs
      cases h
      exact TextNumeral.isKept_of_float? hs
    · cases h
  | _ => cases h

end Lenient

/-! ### Parts, nodes and channels -/

/-- A part whose number of pins, where it is counted, can be read. -/
def Part.Readable : Part → Prop
  | .broadcast n | .gather n => Numeral.Readable n
  | _ => True

/-- A stored node whose numbers can be read. -/
structure NodeRecord.Readable (r : NodeRecord) : Prop where
  /-- The number of pins of its part can be read. -/
  part : r.part.Readable
  /-- The number of its instances can be read. -/
  multiplicity : Numeral.Readable r.multiplicity
  /-- The first coordinate is in the form in which numbers are kept. -/
  x : r.x.IsKept
  /-- The second coordinate is in the form in which numbers are kept. -/
  y : r.y.IsKept

/-- A document whose numbers can be read. -/
structure Document.Readable (d : Document) : Prop where
  /-- The numbers of the nodes can be read. -/
  node : ∀ r ∈ d.nodes.values, r.Readable
  /-- The capacities of the channels can be read. -/
  channel : ∀ c ∈ d.channels.values, Numeral.Readable c.capacity

/-- The configuration of a part of any kind has numbers that are read again. -/
theorem Part.gives_configure (kind : PartKind) : Checked.Gives (configure kind) Readable := by
  intro depth v part hv h
  obtain ⟨members, hmembers, hpart⟩ := Checked.bind_eq_ok_iff.1 h
  obtain ⟨d, hd⟩ := hv.members hmembers
  have hof := Checked.eq_ok_of_andCheck hpart
  have htwo : Numeral.Readable 2 := Numeral.readable_of_lt Nat.one_pos (by decide) (by decide)
  cases kind with
  | code =>
    obtain ⟨block, -, rfl⟩ := Checked.map_eq_ok_iff.1 hof
    trivial
  | transform =>
    obtain ⟨make, body, himports, -, rfl⟩ := Checked.ap_eq_ok_iff.1 hof
    obtain ⟨imports, -, rfl⟩ := Checked.map_eq_ok_iff.1 himports
    trivial
  | broadcast =>
    obtain ⟨n, hn, rfl⟩ := Checked.map_eq_ok_iff.1 hof
    exact Lenient.gives_positive.optional htwo hd hn
  | gather =>
    obtain ⟨n, hn, rfl⟩ := Checked.map_eq_ok_iff.1 hof
    exact Lenient.gives_positive.optional htwo hd hn
  | unslicer =>
    cases hof
    trivial

/-- The capacity of a channel is read again. -/
theorem ChannelRecord.gives_check :
    Checked.Gives check fun c ↦ Numeral.Readable c.capacity := by
  intro depth v c hv h
  obtain ⟨members, hmembers, hrecord⟩ := Checked.bind_eq_ok_iff.1 h
  obtain ⟨d, hd⟩ := hv.members hmembers
  obtain ⟨capacity, hcapacity, rfl⟩ := Checked.map_eq_ok_iff.1 hrecord
  have hzero : Numeral.Readable 0 := Numeral.readable_of_lt Nat.one_pos (by decide) (by decide)
  exact Lenient.gives_natural.optional hzero hd hcapacity

/-- The numbers of a node are read again, in its part and in its place. -/
theorem NodeRecord.gives_check : Checked.Gives check Readable := by
  intro depth v r hv h
  obtain ⟨members, hmembers, hnode⟩ := Checked.bind_eq_ok_iff.1 h
  obtain ⟨d, hd⟩ := hv.members hmembers
  obtain ⟨⟨kind, config, make⟩, hfields, hmake⟩ := Checked.bind_eq_ok_iff.1 hnode
  obtain ⟨part, hpart, rfl⟩ := Checked.map_eq_ok_iff.1 hmake
  -- from the last field to the first
  obtain ⟨_, connections, h₇, -, heq⟩ := Checked.ap_eq_ok_iff.1 hfields
  obtain ⟨_, y, h₆, hy, rfl⟩ := Checked.ap_eq_ok_iff.1 h₇
  obtain ⟨_, x, h₅, hx, rfl⟩ := Checked.ap_eq_ok_iff.1 h₆
  obtain ⟨_, multiplicity, h₄, hmultiplicity, rfl⟩ := Checked.ap_eq_ok_iff.1 h₅
  obtain ⟨_, wait, h₃, -, rfl⟩ := Checked.ap_eq_ok_iff.1 h₄
  obtain ⟨_, enabled, h₂, -, rfl⟩ := Checked.ap_eq_ok_iff.1 h₃
  obtain ⟨_, config, h₁, hconfig, rfl⟩ := Checked.ap_eq_ok_iff.1 h₂
  obtain ⟨kind, -, rfl⟩ := Checked.map_eq_ok_iff.1 h₁
  cases heq
  have hobject : Checked.Gives (fun v ↦ (v.membersOr .notTable).map .object)
      fun config ↦ ∃ d, Json.Readable d config := by
    intro depth v config hv h
    obtain ⟨members, hmembers, rfl⟩ := Checked.map_eq_ok_iff.1 h
    obtain ⟨d, hd⟩ := hv.members hmembers
    exact ⟨d + 1, .object hd⟩
  obtain ⟨_, hreadable⟩ := hobject.optional ⟨0, .noEntries⟩ hd hconfig
  have hone : Numeral.Readable 1 := Numeral.readable_of_lt Nat.one_pos (by decide) (by decide)
  have hzero : (Binary64.zero false).IsKept := Binary64.isKept_zero false
  exact {
    part := Part.gives_configure kind _ config part hreadable hpart
    multiplicity := Lenient.gives_positive.optional hone hd hmultiplicity
    x := Lenient.gives_float.optional hzero hd hx
    y := Lenient.gives_float.optional hzero hd hy }

/-- All numbers of a document are read again. -/
theorem Document.gives_check : Checked.Gives check Readable := by
  intro depth v r hv h
  obtain ⟨members, hmembers, hdocument⟩ := Checked.bind_eq_ok_iff.1 h
  obtain ⟨d, hd⟩ := hv.members hmembers
  obtain ⟨_, channels, h₄, hchannels, rfl⟩ := Checked.ap_eq_ok_iff.1 hdocument
  obtain ⟨_, nodes, h₃, hnodes, rfl⟩ := Checked.ap_eq_ok_iff.1 h₄
  obtain ⟨_, isCommand, h₂, -, rfl⟩ := Checked.ap_eq_ok_iff.1 h₃
  obtain ⟨_, path, h₁, -, rfl⟩ := Checked.ap_eq_ok_iff.1 h₂
  obtain ⟨name, -, rfl⟩ := Checked.map_eq_ok_iff.1 h₁
  have hnone {α : Type} {P : α → Prop} : ∀ a ∈ (∅ : OrderedMap String α).values, P a :=
    fun _ ha ↦ nomatch ha
  exact {
    node := NodeRecord.gives_check.writtenTable.optional hnone hd hnodes
    channel := ChannelRecord.gives_check.writtenTable.optional hnone hd hchannels }

/-- The numbers of a document that was read from a text can be read again. -/
theorem Document.readable_of_ofText {text : String} {d : Document} (h : ofText text = .ok d) :
    d.Readable := by
  unfold ofText at h
  split at h
  · cases h
  · rename_i v hv
    exact gives_check _ v d (Json.readable_of_ofText? hv) h

end ChannelGraph
