import ChannelGraph.Document.Fields
import ChannelGraph.Proofs.OrderedMap

/-!
# Results of checks

A check succeeds if all that it is made of does, and everything in its result comes from something
that was checked (`Checked.exists_of_mem_all`, `Checked.exists_of_entries`). Where it is known what
is found in each part, the result of the whole check is the value with all that was found
(`Checked.andCheck`): so for lists (`Checked.all_map_eq`) and for tables (`Checked.entries_eq`).
Where nothing is found, what was written is checked to be the same (`Checked.list_written`,
`Checked.entries_written`).
-/

namespace ChannelGraph

/-! ### Members -/

namespace Json

/-- Setting a member is writing to a map. -/
theorem setMember_eq (key : String) (v : Json) (members : List (String × Json)) :
    setMember key v members = OrderedMap.insertEntry key v members := by
  induction members with
  | nil => rfl
  | cons m ms ih => rw [setMember, OrderedMap.insertEntry, ih]

/-- Settled members are those of the map that the entries make. -/
theorem settle_eq_ofList (entries : List (String × Json)) :
    settle entries = (OrderedMap.ofList entries).entries := by
  have hloop : ∀ (es : List (String × Json)) (m : OrderedMap String Json),
      es.foldl (fun ms e ↦ setMember e.1 e.2 ms) m.entries =
        (es.foldl (fun m e ↦ m.insert e.1 e.2) m).entries := by
    intro es
    induction es with
    | nil => exact fun _ ↦ rfl
    | cons e es ih =>
      intro m
      rw [List.foldl_cons, List.foldl_cons, setMember_eq]
      exact ih (m.insert e.1 e.2)
  exact hloop entries ∅

/-- Members with different keys are settled. -/
theorem settle_eq {entries : List (String × Json)} (h : (entries.map Prod.fst).Nodup) :
    settle entries = entries :=
  (settle_eq_ofList entries).trans (OrderedMap.entries_ofList h)

/-- An object with different keys, which are listed, has the members that it is written with. -/
theorem membersOr_object {entries : List (String × Json)} (keys : List String)
    (hkeys : entries.map Prod.fst = keys) (h : keys.Nodup) (kind : FaultKind) :
    membersOr kind (.object entries) = .ok entries := by
  rw [membersOr, settle_eq (hkeys ▸ h)]

end Json

/-! ### What succeeds -/

namespace Checked

variable {α β γ ε : Type} {check : Json → Checked α} {write : α → Json}
  {members : List (String × Json)} {key : String} {v : Json} {a : α} {b : β}

theorem map_eq_ok_iff {x : Except ε α} {f : α → β} :
    x.map f = .ok b ↔ ∃ a, x = .ok a ∧ f a = b := by
  cases x <;> simp [Except.map]

theorem bind_eq_ok_iff {x : Except ε α} {f : α → Except ε β} :
    x.bind f = .ok b ↔ ∃ a, x = .ok a ∧ f a = .ok b := by
  cases x <;> simp [Except.bind]

/-- Two checks side by side succeed exactly if both do. -/
theorem ap_eq_ok_iff {f : Checked (α → β)} {x : Checked α} :
    ap f x = .ok b ↔ ∃ g a, f = .ok g ∧ x = .ok a ∧ g a = b := by
  cases f <;> cases x <;> simp [ap]

/-- Naming the place of a check changes only its faults. -/
theorem inside_eq_ok_iff {step : PlaceStep} {x : Checked α} :
    inside step x = .ok a ↔ x = .ok a := by
  cases x <;> simp [inside, Except.mapError]

/-- A value at the end of a place is checked by reading it. -/
theorem leaf_eq_ok_iff {read : Json → Except FaultKind α} :
    leaf read v = .ok a ↔ read v = .ok a := by
  unfold leaf
  cases read v <;> simp [fail]

/-- A check with more faults to be found succeeds only with what it would give alone. -/
theorem eq_ok_of_andCheck {x : Checked α} {faults : List Fault} (h : andCheck x faults = .ok a) :
    x = .ok a := by
  unfold andCheck at h
  split at h
  · exact h
  · cases x <;> cases h

/-! ### Fields, lists and tables -/

/-- A member that is found is among the members. -/
theorem mem_of_member? (h : Json.member? key members = some v) : (key, v) ∈ members := by
  obtain ⟨before, behind, rfl, -⟩ := List.lookup_eq_some_iff.1 h
  exact List.mem_append_right _ List.mem_cons_self

/-- Everything in a list of results is the result of something in the checked list. -/
theorem exists_of_mem_all {f : α → Checked β} {as : List α} {bs : List β} (h : all f as = .ok bs)
    (hb : b ∈ bs) : ∃ a ∈ as, f a = .ok b := by
  induction as generalizing bs with
  | nil =>
    cases h
    cases hb
  | cons a as ih =>
    obtain ⟨g, bs', hg, hbs, rfl⟩ := ap_eq_ok_iff.1 h
    obtain ⟨b', hb', rfl⟩ := map_eq_ok_iff.1 hg
    rcases List.mem_cons.1 hb with rfl | hb
    · exact ⟨a, List.mem_cons_self, hb'⟩
    · obtain ⟨a', ha', heq⟩ := ih hbs hb
      exact ⟨a', List.mem_cons_of_mem _ ha', heq⟩

/-- Every value of a table is the result of one that was checked. -/
theorem exists_of_entries {es : List (String × Json)} {m : OrderedMap String α}
    (h : entries check es = .ok m) (ha : a ∈ m.values) : ∃ e ∈ es, check e.2 = .ok a := by
  obtain ⟨results, hresults, rfl⟩ := map_eq_ok_iff.1 h
  obtain ⟨r, hr, rfl⟩ := List.mem_map.1 ha
  obtain ⟨e, he, hresult⟩ := exists_of_mem_all hresults (OrderedMap.mem_of_mem_ofList hr)
  obtain ⟨a, hcheck, rfl⟩ := map_eq_ok_iff.1 hresult
  exact ⟨e, he, inside_eq_ok_iff.1 hcheck⟩

/-- An optional field that is there is checked, whatever its default is. -/
theorem optional_eq_ok (hv : Json.member? key members = some v) (ha : check v = .ok a)
    (default : α) : optional members key default check = .ok a := by
  rw [optional, hv]
  dsimp only
  rw [ha]
  rfl

/-- A required field that is there is checked. -/
theorem required_eq_ok (hv : Json.member? key members = some v) (ha : check v = .ok a) :
    required members key check = .ok a := by
  rw [required, hv]
  dsimp only
  rw [ha]
  rfl

/-! ### What is found -/

/-- Further faults are the faults of a check that has none itself. -/
theorem andCheck_eq_error {faults : List Fault} (h : faults ≠ []) (a : α) :
    andCheck (.ok a) faults = .error faults := by
  cases faults with
  | nil => exact absurd rfl h
  | cons => rfl

/-- Changing what a check gives does not change what further faults do to it. -/
theorem map_andCheck (f : α → β) (a : α) (faults : List Fault) :
    (andCheck (.ok a) faults).map f = andCheck (.ok (f a)) faults := by
  cases faults <;> rfl

/-- A further check that succeeds does not change what other faults do to what was checked. -/
theorem bind_andCheck {f : α → Checked β} (h : f a = .ok b) (faults : List Fault) :
    (andCheck (.ok a) faults).bind f = andCheck (.ok b) faults := by
  cases faults with
  | nil => exact h
  | cons => rfl

/-- The further faults of two checks side by side come one after the other. -/
theorem ap_andCheck (f : α → β) (a : α) (faults faults' : List Fault) :
    ap (andCheck (.ok f) faults) (andCheck (.ok a) faults') =
      andCheck (.ok (f a)) (faults ++ faults') := by
  cases faults with
  | nil => cases faults' <;> rfl
  | cons =>
    cases faults' with
    | nil =>
      rw [List.append_nil]
      rfl
    | cons => rfl

/-- Further faults are found in the place of the check. -/
theorem inside_andCheck (step : PlaceStep) (a : α) (faults : List Fault) :
    inside step (andCheck (.ok a) faults) =
      andCheck (.ok a) (faults.map fun f ↦ ⟨step :: f.place, f.kind⟩) := by
  cases faults <;> rfl

/-- What is found in a list is what is found in its items, one after the other. -/
theorem all_map_eq {f : β → Checked γ} {x : α → β} {y : α → γ} {found : α → List Fault}
    {as : List α} (h : ∀ a ∈ as, f (x a) = andCheck (.ok (y a)) (found a)) :
    all f (as.map x) = andCheck (.ok (as.map y)) (as.flatMap found) := by
  induction as with
  | nil => rfl
  | cons a as ih =>
    obtain ⟨ha, has⟩ := List.forall_mem_cons.1 h
    rw [List.map_cons, all, ha, ih has, map_andCheck, ap_andCheck]
    rfl

/-- A list is checked to be what its items are checked to be. -/
theorem all_map_eq_ok {f : β → Checked γ} {x : α → β} {y : α → γ} {as : List α}
    (h : ∀ a ∈ as, f (x a) = .ok (y a)) : all f (as.map x) = .ok (as.map y) := by
  have hfound : ∀ a ∈ as, f (x a) = andCheck (.ok (y a)) [] := h
  rw [all_map_eq hfound, List.flatMap_eq_nil_iff.2 fun _ _ ↦ rfl]
  rfl

/-! ### What was written -/

/-- A written table is checked to be the same, or what is wrong with its values is found. -/
theorem entries_eq {found : α → List Fault} {m : OrderedMap String α}
    (h : ∀ a ∈ m.values, check (write a) = andCheck (.ok a) (found a)) :
    entries check (m.entries.map fun e ↦ (e.1, write e.2)) = andCheck (.ok m)
      (m.entries.flatMap fun e ↦ (found e.2).map fun f ↦ ⟨.key e.1 :: f.place, f.kind⟩) := by
  have hall : all (fun e : String × Json ↦ (inside (.key e.1) (check e.2)).map (e.1, ·))
      (m.entries.map fun e ↦ (e.1, write e.2)) = andCheck (.ok (m.entries.map id))
        (m.entries.flatMap fun e ↦ (found e.2).map fun f ↦ ⟨.key e.1 :: f.place, f.kind⟩) := by
    refine all_map_eq fun e he ↦ ?_
    rw [h e.2 (OrderedMap.mem_values_of_mem_entries he), inside_andCheck, map_andCheck]
    rfl
  rw [entries, hall, List.map_id, map_andCheck, m.ofList_entries]

/-- A table that was written is checked to be the same. -/
theorem entries_written {m : OrderedMap String α} (h : ∀ a ∈ m.values, check (write a) = .ok a) :
    entries check (m.entries.map fun e ↦ (e.1, write e.2)) = .ok m := by
  have hfound : ∀ a ∈ m.values, check (write a) = andCheck (.ok a) [] := h
  have hnone : (m.entries.flatMap fun e ↦ ([] : List Fault).map fun f ↦
      (⟨.key e.1 :: f.place, f.kind⟩ : Fault)) = [] :=
    List.flatMap_eq_nil_iff.2 fun _ _ ↦ rfl
  rw [entries_eq hfound, hnone]
  rfl

/-- A table that was written from values that check as themselves checks as itself. -/
theorem table_written {m : OrderedMap String α} (h : ∀ a ∈ m.values, check (write a) = .ok a) :
    table check (.object (m.entries.map fun e ↦ (e.1, write e.2))) = .ok m := by
  rw [table, Json.membersOr_object m.keys List.map_map m.nodup_keys]
  exact entries_written h

/-- A list that was written is checked to be the same. -/
theorem list_written {as : List α} (h : ∀ a ∈ as, check (write a) = .ok a) :
    list check (.array (as.map write)) = .ok as := by
  have hall : all (fun m : Json × Nat ↦ inside (.index m.2) (check m.1))
      (as.zipIdx.map fun p ↦ (write p.1, p.2)) = .ok (as.zipIdx.map Prod.fst) := by
    refine all_map_eq_ok fun p hp ↦ ?_
    rw [h p.1 (List.fst_mem_of_mem_zipIdx hp)]
    rfl
  rw [list, List.zipIdx_map]
  rw [List.zipIdx_map_fst] at hall
  exact hall

/-- A list of texts checks as itself. -/
theorem list_texts (texts : List String) :
    list (leaf Lenient.text) (.array (texts.map .string)) = .ok texts :=
  list_written fun _ _ ↦ rfl

end Checked

end ChannelGraph
