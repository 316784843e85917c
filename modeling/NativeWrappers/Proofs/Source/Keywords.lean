import NativeWrappers.Proofs.Source.Spelling
/-!
# Spelling without bare keywords

Escaping puts backquotes around the hard keywords among the segments of a path. The segments of the
result are the escaped segments of the path, so none of them is a bare keyword, and without the
backquotes the path is back. A name whose simple part has no dot is spelled by the escaped form of
its full text or of its simple part, so the same goes for the spelled names of every file.
-/

namespace NativeWrappers.Source

variable {identifier path : String} {table : NameTable} {name : QualifiedName}

/-- No segment of the text is a hard keyword without backquotes. -/
def IsKeywordFree (text : String) : Prop :=
  ∀ segment ∈ Text.segments '.' text, segment ∉ hardKeywords

/-- The text stands for the path, with backquotes around keywords. -/
structure Escapes (text path : String) : Prop where
  keywordFree : IsKeywordFree text
  restored : unquoted text = path
  /-- A path without keywords needs no backquotes. -/
  unchanged : IsKeywordFree path → text = path

/-! ## Segments -/

theorem escape_not_mem_hardKeywords (identifier : String) :
    escape identifier ∉ hardKeywords := by
  have unquotedKeywords : ∀ keyword ∈ hardKeywords, '`' ∉ keyword.toList := by decide
  by_cases keyword : identifier ∈ hardKeywords
  · intro escaped
    apply unquotedKeywords _ escaped
    simp [escape, keyword]
  · rwa [escape_of_not_mem keyword]

theorem dot_not_mem_escape (undotted : '.' ∉ identifier.toList) :
    '.' ∉ (escape identifier).toList := by
  rw [escape]
  split
  · simpa [String.toList_append] using undotted
  · exact undotted

/-- Escaping keeps the dots where they are. -/
theorem segments_escapeDotted (path : String) :
    Text.segments '.' (escapeDotted path) = (Text.segments '.' path).map escape := by
  apply Text.segments_intercalate
  · simpa using Text.segments_ne_nil '.' path
  · intro text member
    rcases List.mem_map.mp member with ⟨segment, inPath, rfl⟩
    exact dot_not_mem_escape (Text.not_mem_and_subset_of_mem_segments inPath).1

/-! ## Escaped paths -/

theorem isKeywordFree_escapeDotted (path : String) : IsKeywordFree (escapeDotted path) := by
  intro segment member
  rw [segments_escapeDotted] at member
  rcases List.mem_map.mp member with ⟨bare, _, rfl⟩
  exact escape_not_mem_hardKeywords bare

theorem escapeDotted_of_isKeywordFree (free : IsKeywordFree path) : escapeDotted path = path := by
  have kept : (Text.segments '.' path).map escape = (Text.segments '.' path).map id :=
    List.map_congr_left fun segment member => escape_of_not_mem (free segment member)
  rw [escapeDotted, kept, List.map_id, Text.intercalate_segments]

theorem backquote_not_mem_unquoted (text : String) : '`' ∉ (unquoted text).toList := by
  simp [unquoted]

/-- Deleting the backquotes gives the path back, provided that they all come from escaping. -/
theorem escapes_escapeDotted_iff : Escapes (escapeDotted path) path ↔ '`' ∉ path.toList := by
  constructor
  · intro escapes
    rw [← escapes.restored]
    exact backquote_not_mem_unquoted _
  · intro plain
    refine ⟨isKeywordFree_escapeDotted path, ?_, escapeDotted_of_isKeywordFree⟩
    rw [unquoted_escapeDotted, unquoted_of_not_mem plain]

example : escapeDotted "in..when" = "`in`..`when`" := by decide

/-! ## Names -/

theorem escapes_spell_of_writesInFull (plain : name.IsPlain) (full : table.WritesInFull name) :
    Escapes (table.spell name) name.dotted := by
  rw [NameTable.spell_of_writesInFull full]
  exact escapes_escapeDotted_iff.mpr plain.unquoted

theorem escapes_spell_of_not_writesInFull (plain : name.IsPlain)
    (short : ¬ table.WritesInFull name) : Escapes (table.spell name) name.simple := by
  rw [NameTable.spell_of_not_writesInFull short, ← escapeDotted_of_not_mem plain.undotted]
  exact escapes_escapeDotted_iff.mpr (not_mem_simple_of_isPlain plain)

/-- The escaped form of a path stands for the path exactly if the path has no backquotes. So in
every file the spelling of a plain name stands for its full text if the name is written in full, and
for its simple part otherwise. -/
theorem escapes_paths_and_names :
    (∀ path : String, Escapes (escapeDotted path) path ↔ '`' ∉ path.toList) ∧
      ∀ (table : NameTable) (name : QualifiedName), name.IsPlain →
        table.WritesInFull name ∧ Escapes (table.spell name) name.dotted ∨
          ¬ table.WritesInFull name ∧ Escapes (table.spell name) name.simple := by
  refine ⟨fun path => escapes_escapeDotted_iff, fun table name plain => ?_⟩
  by_cases full : table.WritesInFull name
  · exact Or.inl ⟨full, escapes_spell_of_writesInFull plain full⟩
  · exact Or.inr ⟨full, escapes_spell_of_not_writesInFull plain full⟩

/-- A file that writes two types named `object` in full, and imports one named `fun`. -/
def NameTable.keywords : NameTable where
  package := "app"
  declared := ⟨"app", "StoreNative"⟩
  referenced := [⟨"app.data", "object"⟩, ⟨"app.in", "object"⟩, ⟨"lib", "fun"⟩]

theorem escapes_keywords :
    Escapes (escapeDotted "in..when") "in..when" ∧
      NameTable.keywords.spell ⟨"app.in", "object"⟩ = "app.`in`.`object`" ∧
      Escapes (NameTable.keywords.spell ⟨"app.in", "object"⟩) "app.in.object" ∧
      Escapes (NameTable.keywords.spell ⟨"lib", "fun"⟩) "fun" := by
  have full : NameTable.keywords.WritesInFull ⟨"app.in", "object"⟩ := ⟨by decide, by decide⟩
  have short : ¬ NameTable.keywords.WritesInFull ⟨"lib", "fun"⟩ := by
    rintro ⟨_, inFull⟩
    exact absurd inFull (by decide)
  refine ⟨(escapes_paths_and_names.1 "in..when").mpr (by decide), by decide, ?_, ?_⟩
  · rcases escapes_paths_and_names.2 .keywords ⟨"app.in", "object"⟩ (by decide) with
      ⟨_, escapes⟩ | ⟨notFull, _⟩
    · exact escapes
    · exact absurd full notFull
  · rcases escapes_paths_and_names.2 .keywords ⟨"lib", "fun"⟩ (by decide) with
      ⟨inFull, _⟩ | ⟨_, escapes⟩
    · exact absurd inFull short
    · exact escapes

end NativeWrappers.Source
