import NativeWrappers.Proofs.Source.Imports
import NativeWrappers.Proofs.Source.Spelling
/-!
# What a simple name stands for

A simple name stands for what the file imports under it, else for what is declared under it in the
file's own package, and only then for a built-in name, one of the package `kotlin`. The name table
of a file looks at the names that the file refers to and at nothing else. So it writes a built-in
name in full where the file itself refers to a name of its package with the same simple part, but a
declaration of the package that the file does not refer to captures the built-in name.
-/

namespace NativeWrappers

namespace Source.Document

variable {document : Document} {world : List QualifiedName} {name : QualifiedName}

/-- The name of the file's package with this simple part. -/
def atHome (document : Document) (simple : String) : QualifiedName :=
  document.declared.sibling simple

/-- What a simple name stands for when the names of `world` are declared. -/
def resolve (document : Document) (world : List QualifiedName) (simple : String) :
    QualifiedName :=
  match document.table.imports.find? (·.simple == simple) with
  | some imported => imported
  | none => if document.atHome simple ∈ world then document.atHome simple else ⟨"kotlin", simple⟩

/-- Where the file writes a built-in name short, no name of its package is declared that has the
same simple part. -/
def KeepsBuiltIns (document : Document) (world : List QualifiedName) : Prop :=
  ∀ name, document.SpellsShort name → name.package = "kotlin" →
    document.atHome name.simple ∉ world

theorem spellsShort_iff (packaged : name.package ≠ "") :
    document.SpellsShort name ↔
      name ∈ document.spelledNames ∧ ¬ document.table.WritesInFull name := by
  refine and_congr_right fun _ => ?_
  constructor
  · exact NameTable.not_writesInFull_of_spell_eq packaged
  · exact NameTable.spell_of_not_writesInFull

theorem claimant?_of_atHome_mem (known : document.atHome name.simple ∈ document.knownNames) :
    document.table.claimant? name.simple = some (document.atHome name.simple) := by
  rcases knows_table_iff.mpr known with isDeclared | referenced
  · have simple : name.simple = document.table.declared.simple := by
      rw [← isDeclared]
      rfl
    rw [isDeclared, simple]
    exact NameTable.claimant?_declared
  · exact NameTable.claimant?_of_package_eq rfl referenced rfl

section BuiltIn

variable (builtIn : name.package = "kotlin")

include builtIn

theorem atHome_eq_iff :
    document.atHome name.simple = name ↔ document.declared.package = "kotlin" := by
  rw [← builtIn]
  constructor
  · intro same
    rw [← same]
    rfl
  · intro samePackage
    exact congrArg (QualifiedName.mk · name.simple) samePackage

/-- The claimant of the simple part of a built-in name that the file refers to is that name itself,
unless the file knows a name of its own package with that simple part. -/
theorem claimant?_builtIn (known : name ∈ document.knownNames)
    (unknown : document.declared.package = "kotlin" ∨
      document.atHome name.simple ∉ document.knownNames) :
    document.table.claimant? name.simple = some name := by
  rcases claimed : document.table.claimant? name.simple with _ | owner
  · have claims := claims_table_iff.mpr ⟨known, Or.inr builtIn⟩
    exact absurd rfl (NameTable.claimant?_eq_none_iff.mp claimed name claims)
  · rcases NameTable.claims_of_claimant? claimed with ⟨claims, simple⟩
    rcases claims_table_iff.mp claims with ⟨ownerKnown, package⟩
    suffices samePackage : owner.package = name.package from
      congrArg some (congrArg₂ QualifiedName.mk samePackage simple)
    rcases package with atHome | alsoBuiltIn
    · have isHome : document.atHome name.simple = owner :=
        congrArg₂ QualifiedName.mk atHome.symm simple.symm
      rw [isHome] at unknown
      rcases unknown with homeBuiltIn | ownerUnknown
      · rw [atHome, homeBuiltIn, builtIn]
      · exact absurd ownerKnown ownerUnknown
    · rw [alsoBuiltIn, builtIn]

/-- The file writes a built-in name in full exactly where it knows a name of its own package with
the same simple part. -/
theorem writesInFull_builtIn_iff (referenced : name ∈ document.referenced) :
    document.table.WritesInFull name ↔
      document.declared.package ≠ "kotlin" ∧
        document.atHome name.simple ∈ document.knownNames := by
  have known : name ∈ document.knownNames := List.mem_cons_of_mem _ referenced
  constructor
  · intro full
    by_contra unknown
    rw [not_and_or, not_not] at unknown
    exact NameTable.not_writesInFull_claimant (claimant?_builtIn builtIn known unknown) full
  · rintro ⟨different, homeKnown⟩
    apply NameTable.writesInFull_of_claimant?_ne (claimant?_of_atHome_mem homeKnown)
    · exact mem_referenced_table.mpr referenced
    · intro same
      exact different ((atHome_eq_iff builtIn).mp same.symm)

/-- A built-in name that the file refers to does not compete with an import. -/
theorem resolve_builtIn (referenced : name ∈ document.referenced) :
    document.resolve world name.simple =
      if document.atHome name.simple ∈ world then document.atHome name.simple else name := by
  have claims : document.table.Claims name :=
    claims_table_iff.mpr ⟨List.mem_cons_of_mem _ referenced, Or.inr builtIn⟩
  have notImported : document.table.imports.find? (·.simple == name.simple) = none := by
    apply List.find?_eq_none.mpr
    intro imported member same
    exact NameTable.not_claims_of_mem_imports member claims (beq_iff_eq.mp same).symm
  rw [resolve, notImported, ← builtIn]

/-- Its simple part stands for the name itself, unless something of that simple part is declared in
the package of the file. -/
theorem resolve_eq_iff (referenced : name ∈ document.referenced) :
    document.resolve world name.simple = name ↔
      document.declared.package = "kotlin" ∨ document.atHome name.simple ∉ world := by
  rw [resolve_builtIn builtIn referenced]
  split
  · next declared => simp only [atHome_eq_iff builtIn, declared, not_true_eq_false, or_false]
  · next free => simp only [free, not_false_eq_true, or_true]

end BuiltIn

/-- The built-in names are kept exactly when every declared name that could capture one is known to
the file, and the file is not itself in the package `kotlin`. -/
theorem keepsBuiltIns_iff
    (agree : ∀ name, name ∈ document.spelledNames ↔ name ∈ document.referenced) :
    document.KeepsBuiltIns world ↔
      ∀ name ∈ document.spelledNames, name.package = "kotlin" →
        document.atHome name.simple ∈ world →
          document.declared.package ≠ "kotlin" ∧
            document.atHome name.simple ∈ document.knownNames := by
  have packaged {name : QualifiedName} (builtIn : name.package = "kotlin") :
      name.package ≠ "" := by
    rw [builtIn]
    decide
  constructor
  · intro keeps name spelled builtIn declared
    rw [← writesInFull_builtIn_iff builtIn ((agree name).mp spelled)]
    by_contra short
    exact keeps name ((spellsShort_iff (packaged builtIn)).mpr ⟨spelled, short⟩) builtIn declared
  · intro known name spelledShort builtIn declared
    rcases (spellsShort_iff (packaged builtIn)).mp spelledShort with ⟨spelled, short⟩
    rw [writesInFull_builtIn_iff builtIn ((agree name).mp spelled)] at short
    exact short (known name spelled builtIn declared)

end Source.Document

namespace Batch

open Source

variable {batch : Batch} {conventions : Conventions} {model : WrapperModel}

/-- All that is declared once the files are there: the declarations of the batch and the outputs. -/
def declaredNames (batch : Batch) (model : WrapperModel) : List QualifiedName :=
  batch.names ++ model.outputs.map (·.1)

theorem mem_spelledNames_iff_of_generate (generated : batch.generate conventions = .ok model)
    {document : Document} (member : document ∈ model.documents conventions.runtime)
    (name : QualifiedName) : name ∈ document.spelledNames ↔ name ∈ document.referenced := by
  rcases List.mem_append.mp member with ofAccessor | ofWrapper
  · rcases List.mem_map.mp ofAccessor with ⟨accessor, _, rfl⟩
    exact mem_spelledNames_accessorDocument_iff
  · rcases List.mem_map.mp ofWrapper with ⟨wrapper, wrapperMember, rfl⟩
    exact mem_spelledNames_wrapperDocument_iff (constructsTypes_of_generate generated wrapperMember)

/-- A file keeps its built-in names exactly when it knows every declaration of its package that
could capture one. A built-in name that it writes short stands for itself unless its package has a
declaration with the same simple part. -/
theorem keepsBuiltIns_iff_knows (generated : batch.generate conventions = .ok model) :
    ∀ document ∈ model.documents conventions.runtime,
      (document.KeepsBuiltIns (batch.declaredNames model) ↔
        ∀ name ∈ document.spelledNames, name.package = "kotlin" →
          document.atHome name.simple ∈ batch.declaredNames model →
            document.declared.package ≠ "kotlin" ∧
              document.atHome name.simple ∈ document.knownNames) ∧
      ∀ name, document.SpellsShort name → name.package = "kotlin" →
        (document.resolve (batch.declaredNames model) name.simple = name ↔
          document.declared.package = "kotlin" ∨
            document.atHome name.simple ∉ batch.declaredNames model) := by
  intro document member
  have agree := mem_spelledNames_iff_of_generate generated member
  refine ⟨Document.keepsBuiltIns_iff agree, ?_⟩
  intro name spelledShort builtIn
  exact Document.resolve_eq_iff builtIn ((agree name).mp spelledShort.1)

/-- The files of the session keep the built-in names that they spell. -/
theorem keepsBuiltIns_session :
    session.generate {} = .ok WrapperModel.session ∧
      ∀ document ∈ WrapperModel.session.documents {},
        document.KeepsBuiltIns (session.declaredNames WrapperModel.session) := by
  refine ⟨generate_session, ?_⟩
  intro document member
  apply (keepsBuiltIns_iff_knows generate_session document member).1.mpr
  revert document
  decide

end Batch

/-- An article with a title, in a package that declares a class `String` of its own. -/
def Batch.article : Batch where
  declarations :=
    [{ name := ⟨"app", "Article"⟩, kind := .class
       properties := [{ name := "title", type := ⟨⟨"kotlin", "String"⟩, [], false⟩ }]
       markers := { class? := some {} } },
     { name := ⟨"app", "String"⟩, kind := .class }]
  nodup := by decide

/-- The class of the article. -/
def Wrapper.article : Wrapper where
  origin := ⟨"app", "Article"⟩
  name := ⟨"app", "ArticleNative"⟩
  shape := .class ⟨"app", "Article"⟩ none
  properties :=
    [{ name := "title", type := ⟨⟨"kotlin", "String"⟩, [], false⟩
       getter? := some ⟨.direct, .property "title"⟩ }]

namespace Batch

open Source

theorem generate_article : article.generate {} = .ok { classes := [.article] } := by
  refine generate_eq_ok_iff.mpr ⟨.empty, .empty, rfl, ?_, ?_, rfl, rfl, ?_⟩
  · cbv
  · cbv
  · decide

/-- The file of the article's class writes the built-in type of the title as `String`, which stands
for the class of the package. -/
theorem not_keepsBuiltIns_article :
    article.generate {} = .ok { classes := [.article] } ∧
      ¬ (wrapperDocument {} .article).KeepsBuiltIns
        (article.declaredNames { classes := [.article] }) ∧
      (wrapperDocument {} .article).resolve
        (article.declaredNames { classes := [.article] }) "String" = ⟨"app", "String"⟩ := by
  refine ⟨generate_article, ?_, ?_⟩
  · have agree := mem_spelledNames_iff_of_generate generate_article List.mem_cons_self
    rw [Document.keepsBuiltIns_iff agree]
    decide
  · have title : ⟨"kotlin", "String"⟩ ∈ (wrapperDocument {} .article).referenced := by decide
    have captured : ⟨"app", "String"⟩ ∈ article.declaredNames { classes := [.article] } := by decide
    exact (Document.resolve_builtIn rfl title).trans (if_pos captured)

end Batch

end NativeWrappers
