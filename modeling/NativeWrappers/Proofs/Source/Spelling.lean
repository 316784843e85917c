import NativeWrappers.Proofs.Source.NameTable
import NativeWrappers.Proofs.WrapperModel
import NativeWrappers.Source.Render
/-!
# One spelling, one name

Writing a colliding name in full keeps it apart from the others, unless the name has no package: in
full it then looks like any other name with that simple part. So a file in a package may hide a name
of the empty package, behind a type of its own package or behind one of the package `kotlin`, and
this is the only way in which two names come to be spelled alike.
-/

namespace NativeWrappers

/-- The name is made of identifiers: its simple part is one, without a dot, and it comes without
backquotes. -/
structure QualifiedName.IsPlain (name : QualifiedName) : Prop where
  undotted : '.' ∉ name.simple.toList
  unquoted : '`' ∉ name.dotted.toList

instance QualifiedName.decidableIsPlain (name : QualifiedName) : Decidable name.IsPlain :=
  decidable_of_iff ('.' ∉ name.simple.toList ∧ '`' ∉ name.dotted.toList)
    ⟨fun plain => ⟨plain.1, plain.2⟩, fun plain => ⟨plain.undotted, plain.unquoted⟩⟩

namespace Source

theorem not_mem_simple_of_isPlain {name : QualifiedName} (plain : name.IsPlain) :
    '`' ∉ name.simple.toList := by
  intro member
  apply plain.unquoted
  rw [QualifiedName.dotted]
  split
  · exact member
  · simp [String.toList_append, member]

section Plain

variable {table : NameTable} {name : QualifiedName}

theorem unquoted_spell_of_writesInFull (plain : name.IsPlain) (full : table.WritesInFull name) :
    unquoted (table.spell name) = name.dotted := by
  rw [NameTable.spell_of_writesInFull full, unquoted_escapeDotted,
    unquoted_of_not_mem plain.unquoted]

theorem unquoted_spell_of_not_writesInFull (plain : name.IsPlain)
    (short : ¬ table.WritesInFull name) : unquoted (table.spell name) = name.simple := by
  rw [NameTable.spell_of_not_writesInFull short, unquoted_escape,
    unquoted_of_not_mem (not_mem_simple_of_isPlain plain)]

end Plain

namespace Document

variable {document : Document} {name first second : QualifiedName}

/-- The name that the file declares, and those that it refers to. -/
def knownNames (document : Document) : List QualifiedName :=
  document.declared :: document.referenced

/-- No two known names are spelled alike. -/
def SpellsApart (document : Document) : Prop :=
  ∀ first ∈ document.knownNames, ∀ second ∈ document.knownNames,
    document.table.spell first = document.table.spell second → first = second

/-- The file, which is in a package, refers to a name without one, and a known name of its own
package or of the package `kotlin` has the same simple part. -/
def HidesRootName (document : Document) : Prop :=
  document.declared.package ≠ "" ∧
    ∃ name ∈ document.referenced, name.package = "" ∧
      ∃ other ∈ document.knownNames, other.simple = name.simple ∧
        (other.package = document.declared.package ∨ other.package = "kotlin")

instance decidableHidesRootName (document : Document) : Decidable document.HidesRootName :=
  inferInstanceAs (Decidable (_ ∧ _))

theorem mem_referenced_table : name ∈ document.table.referenced ↔ name ∈ document.referenced :=
  NameTable.mem_referenced_ofNames

theorem knows_table_iff : document.table.Knows name ↔ name ∈ document.knownNames := by
  rw [NameTable.Knows, mem_referenced_table, knownNames, List.mem_cons]
  rfl

theorem claims_table_iff : document.table.Claims name ↔
    name ∈ document.knownNames ∧
      (name.package = document.declared.package ∨ name.package = "kotlin") := by
  rw [← knows_table_iff]
  constructor
  · intro claims
    refine ⟨NameTable.knows_of_claims claims, ?_⟩
    rcases claims with isDeclared | ⟨_, visible⟩
    · exact Or.inl (congrArg QualifiedName.package isDeclared)
    · exact visible
  · rintro ⟨isDeclared | referenced, visible⟩
    · exact Or.inl isDeclared
    · exact Or.inr ⟨referenced, visible⟩

theorem hidesRootName_of_writesInFull (known : first ∈ document.knownNames)
    (short : ¬ document.table.WritesInFull first) (full : document.table.WritesInFull second)
    (rootName : second.package = "") (same : first.simple = second.simple) :
    document.HidesRootName := by
  have packaged : document.declared.package ≠ "" := by
    intro empty
    have claimed := NameTable.claimant?_of_package_eq rfl full.1
      (rootName.trans empty.symm)
    exact NameTable.not_writesInFull_claimant claimed full
  refine ⟨packaged, second, mem_referenced_table.mp full.1, rootName, ?_⟩
  rcases claimed : document.table.claimant? second.simple with _ | owner
  · -- then no other name shares the simple part with the first, and the second would be it
    rw [← same] at claimed
    have only := NameTable.sharing_of_not_writesInFull claimed (knows_table_iff.mpr known) short
    have shares := NameTable.mem_sharing.mpr ⟨full.1, same.symm⟩
    rw [only] at shares
    rw [List.mem_singleton.mp shares] at full
    exact absurd full short
  · rcases NameTable.claims_of_claimant? claimed with ⟨claims, named⟩
    rcases claims_table_iff.mp claims with ⟨ownerKnown, visible⟩
    exact ⟨owner, ownerKnown, named, visible⟩

/-- A name of the empty package looks the same in full, so the name that hides it is spelled
alike. -/
theorem not_spellsApart_of_hidesRootName (plain : ∀ name ∈ document.knownNames, name.IsPlain)
    (hides : document.HidesRootName) : ¬ document.SpellsApart := by
  intro apart
  rcases hides with ⟨packaged, name, referenced, rootName, other, otherKnown, sameSimple, visible⟩
  have nameKnown : name ∈ document.knownNames := List.mem_cons_of_mem _ referenced
  have otherClaims := claims_table_iff.mpr ⟨otherKnown, visible⟩
  rcases claimed : document.table.claimant? name.simple with _ | owner
  · exact NameTable.claimant?_eq_none_iff.mp claimed other otherClaims sameSimple
  rcases NameTable.claims_of_claimant? claimed with ⟨ownerClaims, ownerSimple⟩
  rcases claims_table_iff.mp ownerClaims with ⟨ownerKnown, ownerPackage⟩
  have different : name ≠ owner := by
    rintro rfl
    rw [rootName] at ownerPackage
    rcases ownerPackage with atHome | builtIn
    · exact packaged atHome.symm
    · exact absurd builtIn (by decide)
  have full := NameTable.writesInFull_of_claimant?_ne claimed
    (mem_referenced_table.mpr referenced) different
  rw [← ownerSimple] at claimed
  apply different
  apply apart name nameKnown owner ownerKnown
  rw [NameTable.spell_of_writesInFull full,
    NameTable.spell_of_not_writesInFull (NameTable.not_writesInFull_claimant claimed),
    QualifiedName.dotted_of_package_empty rootName,
    escapeDotted_of_not_mem (plain name nameKnown).undotted, ownerSimple]

theorem spell_ne_of_writesInFull (plain : ∀ name ∈ document.knownNames, name.IsPlain)
    (noneHidden : ¬ document.HidesRootName) (firstKnown : first ∈ document.knownNames)
    (secondKnown : second ∈ document.knownNames) (short : ¬ document.table.WritesInFull first)
    (full : document.table.WritesInFull second) :
    document.table.spell first ≠ document.table.spell second := by
  intro same
  have sameText := congrArg unquoted same
  rw [unquoted_spell_of_not_writesInFull (plain first firstKnown) short,
    unquoted_spell_of_writesInFull (plain second secondKnown) full, QualifiedName.dotted] at sameText
  split at sameText
  · next rootName =>
      exact noneHidden (hidesRootName_of_writesInFull firstKnown short full rootName sameText)
  · -- the full form has a dot, and the short one has none
    apply (plain first firstKnown).undotted
    rw [sameText]
    simp [String.toList_append]

/-- The names that a file knows are spelled apart exactly when it hides no name of the empty
package. -/
theorem spellsApart_iff_not_hidesRootName (plain : ∀ name ∈ document.knownNames, name.IsPlain) :
    document.SpellsApart ↔ ¬ document.HidesRootName := by
  constructor
  · intro apart hides
    exact not_spellsApart_of_hidesRootName plain hides apart
  · intro noneHidden first firstKnown second secondKnown same
    have sameText := congrArg unquoted same
    have firstPlain := plain first firstKnown
    have secondPlain := plain second secondKnown
    by_cases firstFull : document.table.WritesInFull first
    · by_cases secondFull : document.table.WritesInFull second
      · rw [unquoted_spell_of_writesInFull firstPlain firstFull,
          unquoted_spell_of_writesInFull secondPlain secondFull] at sameText
        exact QualifiedName.eq_of_dotted_eq firstPlain.undotted secondPlain.undotted sameText
      · exact absurd same.symm (spell_ne_of_writesInFull plain noneHidden secondKnown firstKnown
          secondFull firstFull)
    · by_cases secondFull : document.table.WritesInFull second
      · exact absurd same (spell_ne_of_writesInFull plain noneHidden firstKnown secondKnown
          firstFull secondFull)
      · rw [unquoted_spell_of_not_writesInFull firstPlain firstFull,
          unquoted_spell_of_not_writesInFull secondPlain secondFull] at sameText
        exact NameTable.eq_of_not_writesInFull (knows_table_iff.mpr firstKnown)
          (knows_table_iff.mpr secondKnown) firstFull secondFull sameText

/-- The class of a session refers to a user without a package, which nothing hides. -/
theorem spellsApart_session :
    Batch.session.generate {} = .ok WrapperModel.session ∧
      ∀ wrapper ∈ WrapperModel.session.classes, (wrapperDocument {} wrapper).SpellsApart := by
  refine ⟨Batch.generate_session, ?_⟩
  intro wrapper member
  rw [List.mem_singleton.mp member]
  exact (spellsApart_iff_not_hidesRootName (by decide)).mpr (by decide)

end Document

end Source

/-- A translator from a type without a package to the type of the same simple name that needs no
import. -/
def Batch.translator : Batch where
  declarations :=
    [{ name := ⟨"app", "Translator"⟩, kind := .interface
       methods :=
        [{ name := "translate"
           parameters := [⟨"word", ⟨⟨"", "String"⟩, [], false⟩⟩]
           result? := some ⟨⟨"kotlin", "String"⟩, [], false⟩ }]
       markers := { interface? := some {} } }]
  nodup := by decide

/-- The interface of the translator. -/
def Wrapper.translator : Wrapper where
  origin := ⟨"app", "Translator"⟩
  name := ⟨"app", "TranslatorNativeProtocol"⟩
  methods :=
    [{ name := "translate"
       parameters := [⟨"word", ⟨⟨"", "String"⟩, [], false⟩⟩]
       result := ⟨⟨"kotlin", "String"⟩, [], false⟩ }]

theorem Batch.interfaceTable_translator :
    translator.interfaceTable {} = .ok { wrappers := [.translator], nodup := by decide } := by
  cbv

theorem Batch.generate_translator :
    translator.generate {} = .ok { interfaces := [.translator] } := by
  refine generate_eq_ok_iff.mpr ⟨.empty, _, rfl, interfaceTable_translator, rfl, rfl, rfl, ?_⟩
  decide

/-- The file of the translator's interface spells both types `String`. -/
theorem Source.Document.not_spellsApart_translator :
    Batch.translator.generate {} = .ok { interfaces := [.translator] } ∧
      ¬ (wrapperDocument {} .translator).SpellsApart := by
  refine ⟨Batch.generate_translator, ?_⟩
  exact not_spellsApart_of_hidesRootName (by decide) (by decide)

end NativeWrappers
