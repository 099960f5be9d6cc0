import ChannelGraph.Proofs.TypeExpr.Reading
import ChannelGraph.Settings

/-!
# Settings from documents of every shape

A document may have a value of any kind in each of three places: where the tables of tools should
be, where the section should be, and where a setting should be. The first two are looked up without
asking what they are, so a value in them that is not a table stops the lookup, with a fault that is
not told (`Misplaced`); only a text or an array in place of the section that does not contain the
name of a setting is passed over (`PassedOver`). The third is always asked, so whatever is wrong
with it is told.

Past the first two places only the values of the two settings matter (`given?`, `ofValues`). So
there are three kinds of outcome, and each is characterized by the document alone: settings that
the document gives (`ofText_eq_ok_iff`), a fault that is not told (`ofText_eq_untold_iff`), and
a fault that is told in all other cases.
-/

namespace ChannelGraph

/-- The entries of a value that is a table. -/
def Toml.entries? : Toml → Option Toml.Entries
  | .table _ entries => some entries
  | _ => none

namespace Settings

variable {file root : Path} {text : String} {entries : Toml.Entries} {v : Toml}
  {f : SettingsFault} {settings : Settings}

/-! ### In place of the section -/

/-- To occur in a text is to be an infix of its characters. -/
theorem occursIn_iff {word cs : List Char} : occursIn word cs = true ↔ word <:+: cs := by
  induction cs with
  | nil => simp [occursIn]
  | cons c cs ih =>
    rw [occursIn, Bool.or_eq_true, List.isPrefixOf_iff_prefix, ih, List.infix_cons_iff]

/-- Texts and arrays that stand for a section without settings. -/
inductive PassedOver : Toml → Prop
  | text {s : String} (htype : ¬typeKey.toList <:+: s.toList)
      (hgraph : ¬graphKey.toList <:+: s.toList) : PassedOver (.string s)
  | array {grows : Bool} {items : List Toml} (htype : Toml.string typeKey ∉ items)
      (hgraph : Toml.string graphKey ∉ items) : PassedOver (.array grows items)

/-- A text mentions a name by containing it anywhere. -/
theorem mentions?_string_eq_some_false {name s : String} :
    mentions? name (.string s) = some false ↔ ¬name.toList <:+: s.toList := by
  rw [← occursIn_iff, mentions?, Option.some_inj, Bool.not_eq_true]

/-- An array mentions a name only by an item that is the name. -/
theorem mentions?_array_eq_some_false {name : String} {grows : Bool} {items : List Toml} :
    mentions? name (.array grows items) = some false ↔ Toml.string name ∉ items := by
  rw [mentions?, Option.some_inj, List.any_eq_false]
  constructor
  · intro h hmem
    simpa using h _ hmem
  · intro h v hv
    cases v with
    | string s =>
      rintro hs
      exact h (eq_of_beq hs ▸ hv)
    | _ => exact Bool.false_ne_true

/-- A value in place of the section is passed over exactly if it can be asked for both settings and
mentions neither. -/
theorem passedOver_iff :
    PassedOver v ↔ mentions? typeKey v = some false ∧ mentions? graphKey v = some false := by
  constructor
  · rintro (⟨htype, hgraph⟩ | ⟨htype, hgraph⟩)
    · exact ⟨mentions?_string_eq_some_false.2 htype, mentions?_string_eq_some_false.2 hgraph⟩
    · exact ⟨mentions?_array_eq_some_false.2 htype, mentions?_array_eq_some_false.2 hgraph⟩
  · rintro ⟨htype, hgraph⟩
    cases v with
    | string s =>
      exact .text (mentions?_string_eq_some_false.1 htype) (mentions?_string_eq_some_false.1 hgraph)
    | array grows items =>
      exact .array (mentions?_array_eq_some_false.1 htype) (mentions?_array_eq_some_false.1 hgraph)
    | _ => cases htype

/-! ### The places in a document -/

/-- The entries of the table at a key. -/
def tableAt? (key : String) (entries : Toml.Entries) : Option Toml.Entries :=
  (Toml.member? key entries).bind Toml.entries?

/-- The value that a document gives a setting. -/
def given? (key : String) (entries : Toml.Entries) : Option Toml :=
  ((tableAt? "tool" entries).bind (tableAt? "chanflow")).bind (Toml.member? key)

/-- What is in the way of the section in a document: something that is not a table has the place of
the tables around it, or its own place without being passed over. -/
inductive Misplaced (entries : Toml.Entries) : SettingsFault → Prop
  | tools {v : Toml} (hv : Toml.member? "tool" entries = some v) (hno : v.entries? = none) :
      Misplaced entries .noTools
  | ownPlace {tools : Toml.Entries} {v : Toml} (htools : tableAt? "tool" entries = some tools)
      (hv : Toml.member? "chanflow" tools = some v) (hno : v.entries? = none)
      (hpassed : ¬PassedOver v) : Misplaced entries .noSection

/-- The settings that the values of the two settings give. -/
def ofValues (root : Path) (type graph : Option Toml) : Except SettingsFault Settings :=
  match optional ChannelGraph.defaultType readType type with
  | .error f => .error f
  | .ok type =>
    (optional none (fun v ↦ (readGraph root v).map some) graph).map fun graph ↦
      ⟨type, graph, some root⟩

/-- A section that is a table is asked for the two settings. -/
theorem ofSection_of_entries? {es : Toml.Entries} (h : v.entries? = some es) :
    ofSection root v = ofValues root (Toml.member? typeKey es) (Toml.member? graphKey es) := by
  cases v with
  | table standing entries => cases h; rfl
  | _ => cases h

/-- A section that is passed over gives the settings that hold without one. -/
theorem ofSection_of_passedOver (h : PassedOver v) :
    ofSection root v = .ok { projectRoot := some root } := by
  have hmentions := passedOver_iff.1 h
  cases h <;> exact if_pos hmentions

/-- A value in place of the section that is no table and is not passed over is a fault. -/
theorem ofSection_of_not_passedOver (hno : v.entries? = none) (h : ¬PassedOver v) :
    ofSection root v = .error .noSection := by
  have hmentions := mt passedOver_iff.2 h
  unfold ofSection
  split
  · cases hno
  · exact if_neg hmentions

/-- In a table of tools the section is looked up; there need not be one. -/
theorem ofEntries_of_tableAt? {tools : Toml.Entries} (h : tableAt? "tool" entries = some tools) :
    ofEntries root entries =
      match Toml.member? "chanflow" tools with
      | none => .ok { projectRoot := some root }
      | some v => ofSection root v := by
  obtain ⟨t, ht, htools⟩ := Option.bind_eq_some_iff.1 h
  unfold ofEntries
  rw [ht]
  cases t with
  | table standing es => cases htools; rfl
  | _ => cases htools

/-- Whatever is in the way of the section is the fault that is found. -/
theorem Misplaced.ofEntries_eq (h : Misplaced entries f) (root : Path) :
    ofEntries root entries = .error f := by
  cases h with
  | tools hv hno =>
    unfold ofEntries
    rw [hv]
    split
    · rename_i heq
      cases heq
    · rename_i heq
      cases heq
      cases hno
    · rfl
  | ownPlace htools hv hno hpassed =>
    rw [ofEntries_of_tableAt? htools, hv]
    exact ofSection_of_not_passedOver hno hpassed

/-- A fault that is in the way of the section is not told. -/
theorem Misplaced.isTold_eq (h : Misplaced entries f) : f.isTold = false := by
  cases h <;> rfl

/-- If nothing is in the way of the section, only the values of the settings matter. -/
theorem ofEntries_of_forall_not_misplaced (h : ∀ f, ¬Misplaced entries f) (root : Path) :
    ofEntries root entries = ofValues root (given? typeKey entries) (given? graphKey entries) := by
  cases htool : Toml.member? "tool" entries with
  | none =>
    simp only [ofEntries, given?, tableAt?, htool]
    rfl
  | some t =>
    cases htable : t.entries? with
    | none => exact absurd (.tools htool htable) (h _)
    | some tools =>
      have htools : tableAt? "tool" entries = some tools := by rw [tableAt?, htool]; exact htable
      have hgiven (key : String) :
          given? key entries = (tableAt? "chanflow" tools).bind (Toml.member? key) := by
        rw [given?, htools]
        rfl
      -- A section that is absent or passed over gives no setting a value, as an empty table would.
      rw [ofEntries_of_tableAt? htools, hgiven, hgiven, tableAt?]
      cases hv : Toml.member? "chanflow" tools with
      | none => rfl
      | some v =>
        simp only [Option.bind_some]
        cases hes : v.entries? with
        | some es => exact ofSection_of_entries? hes
        | none =>
          have hpassed : PassedOver v :=
            not_not.1 fun hpassed ↦ h _ (.ownPlace htools hv hes hpassed)
          exact ofSection_of_passedOver hpassed

/-! ### The values of settings -/

/-- The default type that a value gives, if any. -/
inductive GivesType : Option Toml → TypeExpr → Prop
  | absent : GivesType none ChannelGraph.defaultType
  | text {text : String} {e : TypeExpr} (hread : TypeExpr.ofText "" text = .ok e)
      (hconcrete : e.isConcrete) : GivesType (some (.string text)) e

/-- The graph that a value gives, if any, seen from a folder. -/
inductive GivesGraph (root : Path) : Option Toml → Option Path → Prop
  | absent : GivesGraph root none none
  | absolute {text : String} (h : (Path.ofText text).isAbsolute) :
      GivesGraph root (some (.string text)) (some (.ofText text))
  | relative {text : String} (h : ¬(Path.ofText text).isAbsolute) :
      GivesGraph root (some (.string text))
        (some { root with segments := root.segments ++ (Path.ofText text).segments })

/-- A type that is given has no parameters, and neither has the one that holds otherwise. -/
theorem GivesType.isConcrete {value : Option Toml} {e : TypeExpr} (h : GivesType value e) :
    e.isConcrete := by
  cases h with
  | absent => rfl
  | text _ hconcrete => exact hconcrete

/-- A type that is given has a text. -/
theorem GivesType.isWritable {value : Option Toml} {e : TypeExpr} (h : GivesType value e) :
    e.IsWritable := by
  cases h with
  | absent => exact .name _
  | text hread _ => exact TypeExpr.ofText_isWritable hread

/-- A value is read as a type exactly if it is a text that spells a type without parameters. -/
theorem readType_eq_ok_iff {e : TypeExpr} : readType v = .ok e ↔ GivesType (some v) e := by
  constructor
  · intro h
    unfold readType at h
    split at h
    · split at h
      · cases h
      · rename_i hread
        split at h
        · rename_i hconcrete
          cases h
          exact .text hread hconcrete
        · cases h
    · cases h
  · rintro (_ | ⟨hread, hconcrete⟩)
    rw [readType, hread]
    exact if_pos hconcrete

/-- A setting that may be missing gives the default type where it is. -/
theorem optional_readType_eq_ok_iff {value : Option Toml} {e : TypeExpr} :
    optional ChannelGraph.defaultType readType value = .ok e ↔ GivesType value e := by
  cases value with
  | none =>
    constructor
    · intro h
      cases h
      exact .absent
    · rintro ⟨⟩
      rfl
  | some v => exact readType_eq_ok_iff

/-- A path is taken relative to the folder of the settings, and there may be none. -/
theorem optional_readGraph_eq_ok_iff {value : Option Toml} {graph : Option Path} :
    optional none (fun v ↦ (readGraph root v).map some) value = .ok graph ↔
      GivesGraph root value graph := by
  constructor
  · intro h
    cases value with
    | none =>
      cases h
      exact .absent
    | some v =>
      cases v with
      | string text =>
        simp only [optional, readGraph, Path.join] at h
        split at h
        · rename_i habsolute
          cases h
          exact .absolute habsolute
        · rename_i hrelative
          cases h
          exact .relative hrelative
      | _ => cases h
  · rintro (_ | h | h)
    · rfl
    · simp only [optional, readGraph, Path.join, if_pos h]
      rfl
    · simp only [optional, readGraph, Path.join, if_neg h]
      rfl

/-- What the settings of a document are. -/
structure Configured (root : Path) (entries : Toml.Entries) (settings : Settings) : Prop where
  /-- The default type is the one that is given, or the usual one. -/
  type : GivesType (given? typeKey entries) settings.defaultType
  /-- The graph is the one that is given, if any. -/
  graph : GivesGraph root (given? graphKey entries) settings.graph
  /-- The folder is the one of the document. -/
  root : settings.projectRoot = some root

/-- Settings are given by two values exactly if each gives its setting. -/
theorem ofValues_eq_ok_iff {type graph : Option Toml} :
    ofValues root type graph = .ok settings ↔
      GivesType type settings.defaultType ∧ GivesGraph root graph settings.graph ∧
        settings.projectRoot = some root := by
  rw [← optional_readType_eq_ok_iff, ← optional_readGraph_eq_ok_iff]
  unfold ofValues
  cases optional ChannelGraph.defaultType readType type with
  | error f => simp
  | ok e =>
    cases optional none (fun v ↦ (readGraph root v).map some) graph with
    | error f => simp [Except.map]
    | ok p =>
      cases settings
      simp [Except.map, eq_comm]

/-- Whatever is wrong with a type is told. -/
theorem isTold_of_readType_eq_error (h : readType v = .error f) : f.isTold := by
  unfold readType at h
  split at h
  · split at h
    · cases h
      rfl
    · split at h
      · cases h
      · cases h
        rfl
  · cases h
    rfl

/-- Whatever is wrong with a path is told. -/
theorem isTold_of_readGraph_eq_error (h : readGraph root v = .error f) : f.isTold := by
  unfold readGraph at h
  split at h
  · cases h
  · cases h
    rfl

/-- Whatever is wrong with the value of a setting is told. -/
theorem isTold_of_ofValues_eq_error {type graph : Option Toml}
    (h : ofValues root type graph = .error f) : f.isTold := by
  unfold ofValues at h
  split at h
  · rename_i htype
    cases h
    cases type with
    | none => cases htype
    | some v => exact isTold_of_readType_eq_error htype
  · cases graph with
    | none => cases h
    | some v =>
      simp only [optional] at h
      cases hread : readGraph root v with
      | ok p => rw [hread] at h; cases h
      | error f' =>
        rw [hread] at h
        cases h
        exact isTold_of_readGraph_eq_error hread

/-! ### Whole documents -/

/-- What a text does to the lookup of settings that is not told: it has a number that is too long to
be taken in, or something is in the way of the section. -/
inductive Untold (text : String) : SettingsFault → Prop
  | longInteger {digits : Nat} (h : Toml.ofText text = .error (.longInteger digits)) :
      Untold text (.longInteger digits)
  | misplaced {entries : Toml.Entries} {f : SettingsFault} (h : Toml.ofText text = .ok entries)
      (hf : Misplaced entries f) : Untold text f

/-- What a document gives depends only on its entries and on the folder that it is in. -/
theorem ofText_of_ok (h : Toml.ofText text = .ok entries) :
    ofText file text = ofEntries file.parent entries := by
  rw [ofText, h]

/-- The settings of a text are those that its document gives. -/
theorem ofText_eq_ok_iff :
    ofText file text = .ok settings ↔
      ∃ entries, Toml.ofText text = .ok entries ∧ (∀ f, ¬Misplaced entries f) ∧
        Configured file.parent entries settings := by
  constructor
  · intro h
    cases htoml : Toml.ofText text with
    | error r =>
      unfold ofText at h
      rw [htoml] at h
      cases r <;> cases h
    | ok entries =>
      rw [ofText_of_ok htoml] at h
      have hno (f : SettingsFault) : ¬Misplaced entries f := by
        intro hf
        rw [hf.ofEntries_eq] at h
        cases h
      rw [ofEntries_of_forall_not_misplaced hno] at h
      obtain ⟨htype, hgraph, hroot⟩ := ofValues_eq_ok_iff.1 h
      exact ⟨entries, rfl, hno, htype, hgraph, hroot⟩
  · rintro ⟨entries, htoml, hno, hconf⟩
    rw [ofText_of_ok htoml, ofEntries_of_forall_not_misplaced hno]
    exact ofValues_eq_ok_iff.2 ⟨hconf.type, hconf.graph, hconf.root⟩

/-- The lookup ends with a fault that is not told exactly for the texts that it cannot be done
in. -/
theorem ofText_eq_untold_iff :
    (ofText file text = .error f ∧ f.isTold = false) ↔ Untold text f := by
  constructor
  · rintro ⟨h, huntold⟩
    cases htoml : Toml.ofText text with
    | error r =>
      unfold ofText at h
      rw [htoml] at h
      cases r with
      | malformed => cases h; cases huntold
      | longInteger digits => cases h; exact .longInteger htoml
    | ok entries =>
      rw [ofText_of_ok htoml] at h
      -- values are looked at only if all sections are tables, and what is wrong with them is told
      by_cases hmisplaced : ∃ f, Misplaced entries f
      · obtain ⟨f', hf'⟩ := hmisplaced
        rw [hf'.ofEntries_eq] at h
        cases h
        exact .misplaced htoml hf'
      · rw [ofEntries_of_forall_not_misplaced (not_exists.1 hmisplaced)] at h
        rw [isTold_of_ofValues_eq_error h] at huntold
        cases huntold
  · rintro (htoml | ⟨htoml, hf⟩)
    · exact ⟨by rw [ofText, htoml], rfl⟩
    · exact ⟨(ofText_of_ok htoml).trans (hf.ofEntries_eq _), hf.isTold_eq⟩

end Settings

end ChannelGraph
