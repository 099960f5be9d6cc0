import ChannelGraph.Document.PartConfig
import ChannelGraph.Proofs.Document.Checked

/-!
# Configurations that were written

What is written for a value is checked to be that value: for texts, counts and the words of
directions, and so for the configuration of every part (`Part.configure_config`). A part that was
stored with the word for its kind is read again as it was (`Part.ofConfig_config`).
-/

namespace ChannelGraph

/-! ### Counts -/

/-- A positive number is one when it is read. -/
theorem Positive.ofInt?_natCast (n : Positive) : ofInt? (n : Nat) = some n := by
  have hpos : (0 : Int) < (n : Nat) := Int.natCast_pos.2 n.2
  rw [ofInt?, dif_pos hpos]
  rfl

/-- What is written for a positive number is checked to be that number. -/
theorem Positive.leaf_positive (n : Positive) :
    Checked.leaf Lenient.positive (.int (n : Nat)) = .ok n := by
  have hn : Lenient.positive (.int (n : Nat)) = .ok n := by
    rw [Lenient.positive, Lenient.integer, Except.bind, n.ofInt?_natCast]
  rw [Checked.leaf, hn]

/-! ### Parts -/

/-- The word of a direction is read as this direction. -/
theorem Direction.ofWord?_word (d : Direction) : ofWord? d.word = some d := by
  cases d <;> rfl

namespace DeclaredType

/-- The text of a declared type is read as this type. -/
theorem ofText_text (d : DeclaredType) : ofText d.text = .ok d := by
  obtain ⟨text, tree, reads⟩ := d
  unfold ofText
  split
  · rename_i hread
    cases reads.symm.trans hread
  · rename_i hread
    obtain rfl := Except.ok.inj (reads.symm.trans hread)
    rfl

end DeclaredType

namespace Part

/-- What is written for a pin is checked to be the pin. -/
theorem check_pinConfig (pin : Pin) : Pin.check (pinConfig pin) = .ok pin := by
  have htype : DeclaredType.check (.string pin.type.text) = .ok pin.type := by
    have hleaf : Checked.leaf Lenient.text (.string pin.type.text) = .ok pin.type.text := rfl
    rw [DeclaredType.check, hleaf, Except.bind, pin.type.ofText_text]
  have hdirection : Direction.check (.string pin.direction.word) = .ok pin.direction := by
    rw [Direction.check, Direction.ofWord?_word]
  rw [Pin.check, pinConfig, Json.membersOr_object ["type", "dir"] rfl (by decide)]
  show Checked.andCheck (Checked.ap ((Checked.required _ "type" _).map Pin.mk)
    (Checked.required _ "dir" _)) (Checked.unknownFields _ _) = _
  rw [Checked.required_eq_ok rfl htype, Checked.required_eq_ok rfl hdirection]
  rfl

/-- A count that was written is read. -/
theorem countField_int {members : List (String × Json)} {key : String} {n : Positive}
    (h : Json.member? key members = some (.int (n : Nat))) : countField members key = .ok n :=
  Checked.optional_eq_ok h n.leaf_positive _

/-- Imports that were written are read. -/
theorem importsField_texts {members : List (String × Json)} {imports : List String}
    (h : Json.member? "imports" members = some (textsJson imports)) :
    importsField members = .ok imports :=
  Checked.optional_eq_ok h (Checked.list_texts imports) _

/-- Code that was written is read. -/
theorem codeField_string {members : List (String × Json)} {key code : String}
    (h : Json.member? key members = some (.string code)) : codeField members key = .ok code := by
  have hcode : Checked.leaf Lenient.text (.string code) = .ok code := rfl
  exact Checked.optional_eq_ok h hcode _

/-- A part is configured by what is written for it. -/
theorem configure_config (part : Part) : configure part.kind part.config = .ok part := by
  cases part with
  | code block =>
    have hpins : Checked.table Pin.check
        (.object (block.pins.entries.map fun e ↦ (e.1, pinConfig e.2))) = .ok block.pins :=
      Checked.table_written fun pin _ ↦ check_pinConfig pin
    rw [config, kind, configure, Json.membersOr_object (knownKeys .code) rfl (by decide)]
    show Checked.andCheck ((codeBlock _).map code) (Checked.unknownFields _ _) = _
    rw [codeBlock, importsField_texts rfl, codeField_string rfl, codeField_string rfl,
      codeField_string rfl, Checked.optional_eq_ok rfl hpins]
    rfl
  | transform imports body =>
    rw [config, kind, configure, Json.membersOr_object (knownKeys .transform) rfl (by decide)]
    show Checked.andCheck (Checked.ap ((importsField _).map transform) (codeField _ _))
      (Checked.unknownFields _ _) = _
    rw [importsField_texts rfl, codeField_string rfl]
    rfl
  | broadcast n =>
    rw [config, kind, configure, Json.membersOr_object (knownKeys .broadcast) rfl (by decide)]
    show Checked.andCheck ((countField _ _).map broadcast) (Checked.unknownFields _ _) = _
    rw [countField_int rfl]
    rfl
  | gather n =>
    rw [config, kind, configure, Json.membersOr_object (knownKeys .gather) rfl (by decide)]
    show Checked.andCheck ((countField _ _).map gather) (Checked.unknownFields _ _) = _
    rw [countField_int rfl]
    rfl
  | unslicer => rfl

/-- A part that was stored with the word for its kind is read again as it was. -/
theorem ofConfig_config (part : Part) :
    ofConfig (.string part.kind.word) part.config = .ok part := by
  have hkind : PartKind.ofJson? (.string part.kind.word) = some part.kind :=
    PartKind.ofWord?_word part.kind
  have hblank : (if part.config.isBlank then .object [] else part.config) = part.config := by
    cases part <;> rfl
  rw [ofConfig, hkind]
  dsimp only
  rw [hblank, configure_config]
  rfl

end Part

end ChannelGraph
