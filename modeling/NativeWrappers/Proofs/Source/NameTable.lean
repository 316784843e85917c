import NativeWrappers.Proofs.QualifiedName
import NativeWrappers.Proofs.Source.Identifier
import NativeWrappers.Source.NameTable
/-!
# Which names are written short

Of the known names with one simple name, at most one is written short: the one that claims the
simple name, or the only one there is when nobody claims it. A name is imported exactly when it is
that only one and has a package to be imported from, so an import never meets another name under
its simple name.
-/

namespace NativeWrappers.Source.NameTable

variable {table : NameTable} {name other owner : QualifiedName} {simple : String}

/-- The name is the declared one, or one that the file refers to. -/
def Knows (table : NameTable) (name : QualifiedName) : Prop :=
  name = table.declared ∨ name ∈ table.referenced

/-- The file sees the name by its simple name without an import. -/
def Claims (table : NameTable) (name : QualifiedName) : Prop :=
  name = table.declared ∨
    name ∈ table.referenced ∧ (name.package = table.package ∨ name.package = "kotlin")

/-- The file refers to the name and writes it in full. -/
def WritesInFull (table : NameTable) (name : QualifiedName) : Prop :=
  name ∈ table.referenced ∧ table.spelling name = .inFull

theorem knows_of_claims (claims : table.Claims name) : table.Knows name := by
  rcases claims with isDeclared | ⟨referenced, _⟩
  · exact Or.inl isDeclared
  · exact Or.inr referenced

theorem mem_referenced_ofNames {package : String} {declared : QualifiedName}
    {names : List QualifiedName} :
    name ∈ (ofNames package declared names).referenced ↔ name ∈ names := by
  rw [ofNames, (QualifiedName.sort_perm _).mem_iff, List.mem_eraseDups]

theorem mem_sharing :
    name ∈ table.sharing simple ↔ name ∈ table.referenced ∧ name.simple = simple := by
  simp [sharing]

/-! ## The text of a name -/

theorem spell_of_writesInFull (full : table.WritesInFull name) :
    table.spell name = escapeDotted name.dotted := by
  simp [spell, full.1, full.2]

theorem spell_of_not_writesInFull (short : ¬ table.WritesInFull name) :
    table.spell name = escape name.simple := by
  rw [spell, if_neg]
  intro full
  rw [Bool.and_eq_true, List.contains_iff_mem, beq_iff_eq] at full
  exact short full

/-- A name in a package is longer in full, whatever backquotes it gets. -/
theorem not_writesInFull_of_spell_eq (packaged : name.package ≠ "")
    (same : table.spell name = escape name.simple) : ¬ table.WritesInFull name := by
  intro full
  rw [spell_of_writesInFull full] at same
  have sameText := congrArg unquoted same
  rw [unquoted_escapeDotted, unquoted_escape, QualifiedName.dotted, if_neg packaged,
    unquoted_append, unquoted_append] at sameText
  have sameLength := congrArg String.length sameText
  have dot : (unquoted ".").length = 1 := rfl
  rw [String.length_append, String.length_append, dot] at sameLength
  omega

/-! ## The claimant of a simple name -/

theorem claims_of_claimant? (claimed : table.claimant? simple = some owner) :
    table.Claims owner ∧ owner.simple = simple := by
  rw [claimant?] at claimed
  split at claimed
  · next isDeclared =>
      cases claimed
      exact ⟨Or.inl rfl, isDeclared.symm⟩
  · rcases (Option.orElse_eq_some ..).mp claimed with found | ⟨_, found⟩
    · have shares := mem_sharing.mp (List.mem_of_find?_eq_some found)
      have atHome : owner.package = table.package := by
        simpa [QualifiedName.inPackage] using List.find?_some found
      exact ⟨Or.inr ⟨shares.1, Or.inl atHome⟩, shares.2⟩
    · have shares := mem_sharing.mp (List.mem_of_find?_eq_some found)
      have builtIn : owner.package = "kotlin" := by
        simpa [QualifiedName.inPackage] using List.find?_some found
      exact ⟨Or.inr ⟨shares.1, Or.inr builtIn⟩, shares.2⟩

/-- Nobody claims a simple name exactly when no name could. -/
theorem claimant?_eq_none_iff :
    table.claimant? simple = none ↔ ∀ name, table.Claims name → name.simple ≠ simple := by
  constructor
  · intro none name claims named
    rw [claimant?] at none
    split at none
    · cases none
    · next notDeclared =>
        rcases claims with isDeclared | ⟨referenced, visible⟩
        · exact notDeclared (isDeclared ▸ named.symm)
        · rw [Option.orElse_eq_none] at none
          have shares := mem_sharing.mpr ⟨referenced, named⟩
          have notAtHome := List.find?_eq_none.mp none.1 name shares
          have notBuiltIn := List.find?_eq_none.mp none.2 name shares
          rw [QualifiedName.inPackage, beq_iff_eq] at notAtHome notBuiltIn
          exact visible.elim notAtHome notBuiltIn
  · intro unclaimed
    rcases found : table.claimant? simple with _ | owner
    · rfl
    · have claims := claims_of_claimant? found
      exact absurd claims.2 (unclaimed owner claims.1)

theorem claimant?_declared : table.claimant? table.declared.simple = some table.declared :=
  if_pos rfl

/-- A type of the file's package is not outdone by one of the package `kotlin`. -/
theorem claimant?_of_package_eq (atHome : table.declared.package = table.package)
    (referenced : name ∈ table.referenced) (package : name.package = table.package) :
    table.claimant? name.simple = some name := by
  rw [claimant?]
  split
  · next isDeclared =>
      rw [Option.some.injEq]
      cases name
      exact congrArg₂ QualifiedName.mk (atHome.trans package.symm) isDeclared.symm
  · have present : ((table.sharing name.simple).find? (·.inPackage table.package)).isSome := by
      rw [List.find?_isSome]
      exact ⟨name, mem_sharing.mpr ⟨referenced, rfl⟩, beq_iff_eq.mpr package⟩
    rcases Option.isSome_iff_exists.mp present with ⟨found, isFound⟩
    have shares := mem_sharing.mp (List.mem_of_find?_eq_some isFound)
    have foundPackage : found.package = table.package := by
      simpa [QualifiedName.inPackage] using List.find?_some isFound
    have same : found = name :=
      congrArg₂ QualifiedName.mk (foundPackage.trans package.symm) shares.2
    rw [isFound, same]
    rfl

/-! ## How a name is written -/

theorem eq_claimant_of_not_writesInFull (claimed : table.claimant? name.simple = some owner)
    (known : table.Knows name) (short : ¬ table.WritesInFull name) : name = owner := by
  rcases known with isDeclared | referenced
  · rw [isDeclared, claimant?_declared] at claimed
    rw [isDeclared]
    exact Option.some.inj claimed
  · by_contra different
    exact short ⟨referenced, by rw [spelling, claimed]; exact if_neg different⟩

theorem not_writesInFull_claimant (claimed : table.claimant? name.simple = some name) :
    ¬ table.WritesInFull name := by
  rintro ⟨_, full⟩
  rw [spelling, claimed] at full
  dsimp only at full
  rw [if_pos rfl] at full
  cases full

theorem writesInFull_of_claimant?_ne (claimed : table.claimant? name.simple = some owner)
    (referenced : name ∈ table.referenced) (different : name ≠ owner) :
    table.WritesInFull name :=
  ⟨referenced, by rw [spelling, claimed]; exact if_neg different⟩

/-- A name that nobody claims is written short only when no other name shares its simple part. -/
theorem sharing_of_not_writesInFull (unclaimed : table.claimant? name.simple = none)
    (known : table.Knows name) (short : ¬ table.WritesInFull name) :
    table.sharing name.simple = [name] := by
  have referenced : name ∈ table.referenced := by
    refine known.resolve_left fun isDeclared => ?_
    exact claimant?_eq_none_iff.mp unclaimed name (Or.inl isDeclared) rfl
  have shares := mem_sharing.mpr ⟨referenced, rfl⟩
  rcases names : table.sharing name.simple with _ | ⟨only, _ | ⟨next, rest⟩⟩
  · rw [names] at shares
    cases shares
  · rw [names] at shares
    rw [List.mem_singleton.mp shares]
  · exact absurd ⟨referenced, by rw [spelling, unclaimed, names]⟩ short

/-- Two names that are written short differ in their simple parts. -/
theorem eq_of_not_writesInFull (known : table.Knows name) (known' : table.Knows other)
    (short : ¬ table.WritesInFull name) (short' : ¬ table.WritesInFull other)
    (same : name.simple = other.simple) : name = other := by
  rcases claimed : table.claimant? name.simple with _ | owner
  · have only := sharing_of_not_writesInFull claimed known short
    rw [same] at claimed only
    have only' := sharing_of_not_writesInFull claimed known' short'
    rw [only'] at only
    exact (List.singleton_inj.mp only).symm
  · rw [eq_claimant_of_not_writesInFull claimed known short]
    rw [same] at claimed
    rw [eq_claimant_of_not_writesInFull claimed known' short']

/-! ## Imports -/

theorem not_writesInFull_of_spelling_eq (imported : table.spelling name = .imported) :
    ¬ table.WritesInFull name := by
  rintro ⟨_, full⟩
  rw [imported] at full
  cases full

theorem mem_imports_iff :
    name ∈ table.imports ↔ table.claimant? name.simple = none ∧
      table.sharing name.simple = [name] ∧ name.package ≠ "" := by
  rw [imports, List.mem_filter, beq_iff_eq]
  constructor
  · rintro ⟨referenced, imported⟩
    have short := not_writesInFull_of_spelling_eq imported
    rw [spelling] at imported
    split at imported
    · split at imported <;> cases imported
    · next unclaimed =>
        have only := sharing_of_not_writesInFull unclaimed (Or.inr referenced) short
        refine ⟨unclaimed, only, fun noPackage => ?_⟩
        rw [only] at imported
        dsimp only at imported
        rw [if_pos noPackage] at imported
        cases imported
  · rintro ⟨unclaimed, only, packaged⟩
    have shares : name ∈ table.sharing name.simple := by
      rw [only]
      exact List.mem_singleton_self name
    refine ⟨(mem_sharing.mp shares).1, ?_⟩
    rw [spelling, unclaimed, only]
    exact if_neg packaged

theorem spell_of_mem_imports (imported : name ∈ table.imports) :
    table.spell name = escape name.simple := by
  rw [imports, List.mem_filter, beq_iff_eq] at imported
  exact spell_of_not_writesInFull (not_writesInFull_of_spelling_eq imported.2)

theorem mem_referenced_of_mem_imports (imported : name ∈ table.imports) :
    name ∈ table.referenced :=
  List.mem_of_mem_filter imported

/-- No name that the file sees by its simple name shares it with an import. -/
theorem not_claims_of_mem_imports (imported : name ∈ table.imports) (claims : table.Claims other) :
    other.simple ≠ name.simple :=
  claimant?_eq_none_iff.mp (mem_imports_iff.mp imported).1 other claims

theorem eq_of_mem_imports (imported : name ∈ table.imports) (known : table.Knows other)
    (same : other.simple = name.simple) : other = name := by
  rcases known with isDeclared | referenced
  · exact absurd same (not_claims_of_mem_imports imported (Or.inl isDeclared))
  · have shares := mem_sharing.mpr ⟨referenced, same⟩
    rw [(mem_imports_iff.mp imported).2.1] at shares
    exact List.mem_singleton.mp shares

theorem nodup_simple_imports (table : NameTable) : (table.imports.map (·.simple)).Nodup := by
  rw [List.nodup_iff_count_le_one]
  intro simple
  by_cases present : simple ∈ table.imports.map (·.simple)
  · rcases List.mem_map.mp present with ⟨name, imported, rfl⟩
    have alone : (table.imports.filter (·.simple == name.simple)).Sublist [name] := by
      rw [← (mem_imports_iff.mp imported).2.1]
      exact List.filter_sublist.filter _
    rw [List.count_eq_length_filter, List.filter_map, List.length_map]
    exact alone.length_le
  · rw [List.count_eq_zero_of_not_mem present]
    exact Nat.zero_le 1

/-- What is written short is imported, unless the file sees it without an import. -/
theorem mem_imports_of_not_writesInFull (known : table.Knows name)
    (short : ¬ table.WritesInFull name) (packaged : name.package ≠ "")
    (hidden : ¬ table.Claims name) : name ∈ table.imports := by
  have unclaimed : table.claimant? name.simple = none := by
    rcases claimed : table.claimant? name.simple with _ | owner
    · rfl
    · rw [eq_claimant_of_not_writesInFull claimed known short] at hidden
      exact absurd (claims_of_claimant? claimed).1 hidden
  exact mem_imports_iff.mpr ⟨unclaimed, sharing_of_not_writesInFull unclaimed known short, packaged⟩

end NativeWrappers.Source.NameTable
