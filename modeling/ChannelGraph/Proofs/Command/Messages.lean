import ChannelGraph.Command.Execution
import ChannelGraph.Proofs.Console.Quoting

/-!
# Messages about arguments

The lines in which commands tell about paths and about the name of a node, each with its source as
text in a style (`Run.source_loadingLine` and the like). Paths are put into them as they are, names
are escaped, and the name of a node that is not there is quoted as well. For each line it is said
with which arguments it is taken for its text (`Run.displays_loadingLine_iff` and the like) and with
which it can be told (`Run.isReadable_loadingLine` and the like). The second asks for less:
backslashes may be dropped, as long as no bracket opens a tag.

A line that is taken for its text shows what the text shows without markup. That is the text itself
unless it has the name of an emoji or a control character (`Markup.Displays.plain_eq_iff`).

The line about a graph that is not loaded ends in a reason, which is escaped. Which reason it is
makes no difference as long as it is taken for itself (`Run.displays_notLoadedLine_iff`), and all
reasons that commands give are (`Run.displays_of_mem_reasons`).
-/

namespace ChannelGraph

open Console Markup

namespace Run

/-! ### Lines -/

/-- The line that tells which graph is loaded. -/
def loadingLine (path : Path) : Markup :=
  .styled "cyan" ⟨"Loading graph from:"⟩ ++ ⟨" " ++ path.text⟩

/-- The line that tells that a graph could not be loaded. -/
def notLoadedLine (path : Path) (why : String) : Markup :=
  .styled "red" ⟨"✗ Could not load " ++ path.text ++ ":"⟩ ++ ⟨" "⟩ ++ .ofText why

/-- The line that tells that a node is unknown. -/
def unknownLine (node : String) : Markup :=
  .styled "red" (⟨"✗ "⟩ ++ ⟨"No node named " ++ Text.quoted (Markup.escape node)⟩)

/-- The line that tells where a graph was written. -/
def writtenLine (output : Path) : Markup :=
  .styled "green" ⟨"✓ Written to " ++ output.text⟩

/-- The line that tells where a graph was written without a node. -/
def deletedLine (node : String) (output : Path) : Markup :=
  .styled "green" (⟨"✓ Deleted "⟩ ++ .ofText node ++ ⟨", written to " ++ output.text⟩)

/-- The line that tells that there is no graph to load. -/
def noGraphLine : Markup :=
  .styled "red" (⟨"✗ "⟩ ++ (⟨"No graph given and no "⟩ ++ .ofText SettingsFault.sectionName ++
    ⟨" graph configured"⟩))

/-- The line that names a graph. -/
def graphLine (g : Graph) : Markup :=
  .styled "cyan" ⟨"Graph:"⟩ ++ ⟨" "⟩ ++
    .styled "bold" (.ofText (if g.name.isEmpty then g.packageName else g.name))

/-- The line that tells that a channel is gone. -/
def removedLine (channel : String) : Markup :=
  ⟨"  "⟩ ++ .styled "yellow" ⟨"•"⟩ ++ ⟨" removed channel "⟩ ++ .ofText channel

/-- The reasons that commands give for not loading a graph. -/
def reasons : List String :=
  "the document has faults" ::
    [FileFault.notFound, .isFolder, .notFolder, .tooLong, .badPath].map FileFault.message

/-- All reasons that are given for a failure are taken for themselves when they are escaped, since
they have no brackets and do not end in a backslash. -/
theorem displays_of_mem_reasons {why : String} (h : why ∈ reasons) :
    (Markup.ofText why).Displays why := by
  have hall : ∀ why ∈ reasons, '[' ∉ why.toList ∧ why.toList.getLast? ≠ some '\\' := by
    decide +kernel
  obtain ⟨hopen, hlast⟩ := hall why h
  refine displays_ofText (isInert_of_not_mem hopen) ?_
  rintro ⟨front, hfront, -⟩
  exact hlast (by rw [hfront, List.getLast?_concat])

/-- The path stands behind the closing tag. -/
theorem source_loadingLine (path : Path) :
    (loadingLine path).source.toList =
      inStyle "cyan" "Loading graph from:".toList ++ (" ".toList ++ path.text.toList) := by
  rw [loadingLine, toList_source_append, toList_source_styled]
  simp [String.toList_append]

/-- The path stands in front of the closing tag with a colon in between, and the escaped reason
behind it. -/
theorem source_notLoadedLine (path : Path) (why : String) :
    (notLoadedLine path why).source.toList =
      inStyle "red" ("✗ Could not load ".toList ++ (path.text.toList ++ [':'])) ++
        (" ".toList ++ (Markup.escape why).toList) := by
  rw [notLoadedLine, toList_source_append, toList_source_append, toList_source_styled]
  simp [String.toList_append, ofText]

/-- The name is escaped first and quoted then, in front of the closing tag. -/
theorem source_unknownLine (node : String) :
    (unknownLine node).source.toList =
      inStyle "red" ("✗ No node named ".toList ++ (Text.quoted (Markup.escape node)).toList) := by
  rw [unknownLine, toList_source_styled, toList_source_append]
  simp [String.toList_append]

/-- The path stands right in front of the closing tag. -/
theorem source_writtenLine (output : Path) :
    (writtenLine output).source.toList =
      inStyle "green" ("✓ Written to ".toList ++ output.text.toList) := by
  rw [writtenLine, toList_source_styled]
  simp [String.toList_append]

/-- The name is escaped and the path is not, and both stand in front of the closing tag. -/
theorem source_deletedLine (node : String) (output : Path) :
    (deletedLine node output).source.toList =
      inStyle "green" ("✓ Deleted ".toList ++ ((Markup.escape node).toList ++
        (", written to ".toList ++ output.text.toList))) := by
  rw [deletedLine, toList_source_styled, toList_source_append, toList_source_append]
  simp [String.toList_append, ofText]

theorem source_noGraphLine :
    noGraphLine.source.toList =
      inStyle "red" ("✗ No graph given and no ".toList ++
        ((Markup.escape SettingsFault.sectionName).toList ++ " graph configured".toList)) := by
  rw [noGraphLine, toList_source_styled, toList_source_append, toList_source_append,
    toList_source_append]
  simp [ofText]

/-- The name of the graph is escaped; it comes out of its file. -/
theorem source_graphLine (g : Graph) :
    (graphLine g).source.toList =
      inStyle "cyan" "Graph:".toList ++ ([' '] ++ inStyle "bold"
        (Markup.escape (if g.name.isEmpty then g.packageName else g.name)).toList) := by
  rw [graphLine, toList_source_append, toList_source_append, toList_source_styled,
    toList_source_styled]
  simp [ofText]

/-- The name of a removed channel is escaped. -/
theorem source_removedLine (channel : String) :
    (removedLine channel).source.toList =
      "  ".toList ++ (inStyle "yellow" "•".toList ++
        (" removed channel ".toList ++ (Markup.escape channel).toList)) := by
  rw [removedLine, toList_source_append, toList_source_append, toList_source_append,
    toList_source_styled]
  simp [ofText]

/-! ### What is taken for text -/

/-- Which character is the last one depends on what is in front only if nothing is behind. -/
theorem getLast?_append_eq_iff {c : Char} {front cs : List Char} (h : front.getLast? ≠ some c) :
    (front ++ cs).getLast? = some c ↔ cs.getLast? = some c := by
  rw [List.getLast?_append]
  cases cs.getLast? with
  | none => exact iff_of_false h nofun
  | some d => rfl

/-- A line in a style is taken for a text exactly if what is in the style is inert and does not end
in a backslash. -/
theorem displays_inStyle_iff {style : String} (h : IsPlainStyle style) {m : Markup} {t : String}
    (hsource : m.source.toList = inStyle style t.toList) :
    m.Displays t ↔ IsInert t.toList ∧ t.toList.getLast? ≠ some '\\' := by
  rw [displays_iff h (hsource.trans (List.append_nil _).symm) (List.append_nil _).symm nofun]
  exact ⟨fun h ↦ ⟨h.1, h.2.1⟩, fun h ↦ ⟨h.1, h.2, isInert_nil⟩⟩

/-- Behind the closing tag a path may end in a backslash. -/
theorem displays_loadingLine_iff (path : Path) :
    (loadingLine path).Displays ("Loading graph from: " ++ path.text) ↔
      IsInert path.text.toList := by
  rw [displays_iff (isPlainStyle_of_mem (by decide)) (source_loadingLine path)
      (by simp [String.toList_append]) (by simp; decide), isInert_append_of_forall (by simp)]
  exact ⟨fun h ↦ h.2.2, fun h ↦ ⟨isInert_of_not_mem (by simp), by simp, h⟩⟩

/-- The line is taken for its text exactly if the path is inert and the escaped reason is taken for
the reason. This holds for every reason, so it does not depend on how failures are worded. -/
theorem displays_notLoadedLine_iff (path : Path) (why : String) :
    (notLoadedLine path why).Displays ("✗ Could not load " ++ path.text ++ ": " ++ why) ↔
      IsInert path.text.toList ∧ (Markup.ofText why).Displays why := by
  rw [displays_inStyle_escape_iff (isPlainStyle_of_mem (by decide)) (source_notLoadedLine path why)
      (by simp [String.toList_append]), isInert_append_of_forall (by simp),
    isInert_append (isInert_of_not_mem (by simp)) rfl (by simp), ← List.append_assoc,
    List.getLast?_concat]
  exact ⟨fun h ↦ ⟨h.1, h.2.2⟩, fun h ↦ ⟨h.1, by simp, h.2⟩⟩

/-- In front of the closing tag a path may not end in a backslash. -/
theorem displays_writtenLine_iff (output : Path) :
    (writtenLine output).Displays ("✓ Written to " ++ output.text) ↔
      IsInert output.text.toList ∧ output.text.toList.getLast? ≠ some '\\' := by
  have hsource := source_writtenLine output
  rw [← String.toList_append] at hsource
  rw [displays_inStyle_iff (isPlainStyle_of_mem (by decide)) hsource, String.toList_append,
    isInert_append_of_forall (by simp), Ne, getLast?_append_eq_iff (by simp)]

/-- The line is taken for its text exactly if the name is inert and escaping leaves it alone. -/
theorem displays_unknownLine_iff (node : String) :
    (unknownLine node).Displays ("✗ No node named " ++ Text.quoted node) ↔
      IsInert node.toList ∧ ¬EndsAlone node.toList :=
  displays_quoted_iff (isPlainStyle_of_mem (by decide)) (by simp) (source_unknownLine node)
    String.toList_append

/-- The line about a deleted node is taken for its text if escaping changes nothing in it. -/
theorem displays_deletedLine {node : String} {output : Path}
    (h : IsInert (node ++ ", written to " ++ output.text).toList) (hnode : ¬EndsAlone node.toList)
    (hlast : output.text.toList.getLast? ≠ some '\\') :
    (deletedLine node output).Displays
      ("✓ Deleted " ++ node ++ ", written to " ++ output.text) := by
  rw [String.append_assoc, String.toList_append] at h
  have hsource := source_deletedLine node output
  rw [escape_eq_self h.tagFree.of_append_right hnode] at hsource
  simp only [← String.toList_append, ← String.append_assoc] at hsource
  refine (displays_inStyle_iff (isPlainStyle_of_mem (by decide)) hsource).2 ⟨?_, ?_⟩
  · rw [String.append_assoc, String.append_assoc, String.toList_append,
      isInert_append_of_forall (by simp), String.toList_append]
    exact h
  · rw [String.toList_append, Ne, getLast?_append_eq_iff]
    · exact hlast
    · rw [String.toList_append, List.getLast?_append]
      simp

/-! ### What can be told -/

/-- A path without tags can be told behind a closing tag, with or without backslashes in it. -/
theorem isReadable_loadingLine {path : Path} (h : IsTagFree path.text.toList) :
    IsReadable (loadingLine path).source.toList :=
  isReadable_of_inStyle_append (isPlainStyle_of_mem (by decide)) (source_loadingLine path)
    (isTagFree_of_not_mem (by simp)).isText (isTagFree_append_of_not_mem (by simp) h).isText

/-- Whatever the reason is, only a tag in the path can be in the way. -/
theorem isReadable_notLoadedLine {path : Path} (h : IsTagFree path.text.toList) (why : String) :
    IsReadable (notLoadedLine path why).source.toList := by
  have hinner : IsTagFree ("✗ Could not load ".toList ++ (path.text.toList ++ [':'])) :=
    isTagFree_append_of_not_mem (by simp) (h.append (isTagFree_of_not_mem (by simp)) rfl)
  exact isReadable_of_inStyle_append (isPlainStyle_of_mem (by decide))
    (source_notLoadedLine path why) hinner.isText (isText_append_escape (by simp) why)

/-- The name of the section of settings has brackets, and these are escaped. -/
theorem isReadable_noGraphLine : IsReadable noGraphLine.source.toList := by
  refine isReadable_of_inStyle (isPlainStyle_of_mem (by decide)) source_noGraphLine ?_
  exact isText_escape (by simp) _ (isTagFree_of_not_mem (by simp)) (by simp; decide)

/-- A graph can be told of whatever its name is. -/
theorem isReadable_graphLine (g : Graph) : IsReadable (graphLine g).source.toList := by
  rw [source_graphLine]
  generalize (if g.name.isEmpty then g.packageName else g.name) = name
  have hname := isText_append_escape (List.forall_mem_nil _) name
  have hbold : IsPlainStyle "bold" := isPlainStyle_of_mem (by decide)
  have hcyan : IsPlainStyle "cyan" := isPlainStyle_of_mem (by decide)
  have hback := hbold.isReadable_inStyle [' '] (by simp) hname isReadable_nil
  rw [List.append_nil] at hback
  exact hcyan.isReadable_inStyle [] nofun
    (isTagFree_of_not_mem (by simp)).isText hback

/-- A removed channel can be told of whatever its name is. -/
theorem isReadable_removedLine (channel : String) :
    IsReadable (removedLine channel).source.toList := by
  rw [source_removedLine]
  have hyellow : IsPlainStyle "yellow" := isPlainStyle_of_mem (by decide)
  exact hyellow.isReadable_inStyle _ (by simp) (isTagFree_of_not_mem (by simp)).isText
    (isText_append_escape (by simp) channel).isReadable

/-- A path without tags can be told even if it ends in a backslash and the closing tag becomes
text. -/
theorem isReadable_writtenLine {output : Path} (h : IsTagFree output.text.toList) :
    IsReadable (writtenLine output).source.toList :=
  isReadable_of_inStyle (isPlainStyle_of_mem (by decide)) (source_writtenLine output)
    (isTagFree_append_of_not_mem (by simp) h).isText

/-- Without tags there is nothing to escape, and quoting opens none. -/
theorem isReadable_unknownLine {node : String} (h : IsTagFree node.toList) :
    IsReadable (unknownLine node).source.toList := by
  refine isReadable_of_inStyle (isPlainStyle_of_mem (by decide)) (source_unknownLine node) ?_
  exact (isTagFree_append_of_not_mem (by simp) (isTagFree_quoted (isTagFree_escape h))).isText

/-- A bracket in the name of the node could be closed in the path. -/
theorem isReadable_deletedLine {node : String} {output : Path} (h : IsTagFree output.text.toList)
    (hapart : '[' ∉ node.toList ∨ upToClose? output.text.toList = none) :
    IsReadable (deletedLine node output).source.toList := by
  refine isReadable_of_inStyle (isPlainStyle_of_mem (by decide)) (source_deletedLine node output) ?_
  have houtput : IsTagFree (", written to ".toList ++ output.text.toList) :=
    isTagFree_append_of_not_mem (by simp) h
  rcases hapart with hnode | hclose
  · have hmem : '[' ∉ (Markup.escape node).toList := fun hmem ↦
      hnode ((mem_escape (by decide)).1 hmem)
    exact (isTagFree_append_of_not_mem (by simp) (isTagFree_append_of_not_mem hmem houtput)).isText
  · refine isText_escape (by simp) node houtput ?_
    rw [upToClose?_append_of_forall (by simp), hclose, Option.map_none]

end Run

end ChannelGraph
