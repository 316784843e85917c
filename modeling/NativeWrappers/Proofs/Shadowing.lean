import NativeWrappers.Proofs.Hierarchy.Cycles
import NativeWrappers.Proofs.Hierarchy.Walk
import NativeWrappers.Proofs.WrapperModel
/-!
# Overrides and what they override

Among members of one key the first along the walk is collected. It need not be the most derived one:
where a declaration has several supertypes, the walk goes to everything above the first of them, and
there it may find a member that a later supertype overrides. This is the only way in which an
overridden member can be preferred. So overrides shadow what they override exactly in hierarchies
without such a fork.
-/

namespace NativeWrappers

instance (declaration : Declaration) (key : MemberKey) : Decidable (declaration.Offers key) :=
  match key with
  | .method key => inferInstanceAs (Decidable (key ∈ declaration.reachableMethods.map (·.key)))
  | .property name =>
    inferInstanceAs (Decidable (name ∈ declaration.reachableProperties.map (·.name)))

/-! ## Where a collected member is from -/

section Sourced

variable {α κ : Type} [DecidableEq κ] {key : α → κ} {membersOf : Declaration → List α}
  {lineage : List Declaration}

/-- The first member of each key along a lineage, with the declaration that declares it. -/
def sourced (key : α → κ) (membersOf : Declaration → List α) (lineage : List Declaration) :
    List (Declaration × α) :=
  distinctBy (key ·.2) (lineage.flatMap fun source => (membersOf source).map (source, ·))

theorem map_snd_sourced (key : α → κ) (membersOf : Declaration → List α)
    (lineage : List Declaration) :
    (sourced key membersOf lineage).map (·.2) = distinctBy key (lineage.flatMap membersOf) := by
  have members : (lineage.flatMap fun source => (membersOf source).map (source, ·)).map (·.2)
      = lineage.flatMap membersOf := by
    rw [List.map_flatMap]
    simp
  have keyed (entry : Declaration × α) : key entry.2 = id (key entry.2) := rfl
  rw [sourced, ← members]
  exact (distinctBy_map Function.injective_id keyed _).symm

/-- The member of a key is from the first declaration that has one. -/
theorem exists_mem_sourced_iff {wanted : κ} {source : Declaration} :
    (∃ member, (source, member) ∈ sourced key membersOf lineage ∧ key member = wanted) ↔
      lineage.find? (fun declaration => wanted ∈ (membersOf declaration).map key)
        = some source := by
  have distinct : ((sourced key membersOf lineage).map (key ·.2)).Nodup := nodup_map_distinctBy _
  have first (declaration : Declaration) :
      (((membersOf declaration).map (declaration, ·)).find? (key ·.2 == wanted)).map (·.1)
        = Option.guard (fun declaration => wanted ∈ (membersOf declaration).map key)
          declaration := by
    rw [List.find?_map, Option.map_map]
    by_cases listed : wanted ∈ (membersOf declaration).map key
    · have isFound : ((membersOf declaration).find? (key · == wanted)).isSome := by
        simpa using listed
      rcases Option.isSome_iff_exists.mp isFound with ⟨member, own⟩
      rw [Option.guard, if_pos (decide_eq_true listed)]
      exact congrArg (Option.map _) own
    · have own : (membersOf declaration).find? (key · == wanted) = none := by
        simpa using listed
      rw [Option.guard, if_neg (by simpa using listed)]
      exact congrArg (Option.map _) own
  have found : ((sourced key membersOf lineage).find? (key ·.2 == wanted)).map (·.1)
      = lineage.find? fun declaration => wanted ∈ (membersOf declaration).map key := by
    calc ((sourced key membersOf lineage).find? (key ·.2 == wanted)).map (·.1)
        = ((lineage.flatMap fun source => (membersOf source).map (source, ·)).find?
            (key ·.2 == wanted)).map (·.1) := congrArg _ (find?_distinctBy _ wanted)
      _ = lineage.findSome? fun source =>
            (((membersOf source).map (source, ·)).find? (key ·.2 == wanted)).map (·.1) := by
          rw [List.find?_flatMap, List.map_findSome?]
          rfl
      _ = lineage.find? fun declaration => wanted ∈ (membersOf declaration).map key := by
          rw [funext first]
          exact List.findSome?_guard
  rw [← found, Option.map_eq_some_iff]
  constructor
  · rintro ⟨member, sourceMember, keyed⟩
    exact ⟨_, (find?_key_eq_some_iff distinct).mpr ⟨sourceMember, keyed⟩, rfl⟩
  · rintro ⟨⟨_, member⟩, foundMember, rfl⟩
    exact ⟨member, (find?_key_eq_some_iff distinct).mp foundMember⟩

end Sourced

namespace Batch

/-- The collected methods, each with the declaration it is from. -/
def methodSources (batch : Batch) (declaration : Declaration) : List (Declaration × Method) :=
  sourced (·.key) (·.reachableMethods) (batch.ancestry declaration)

/-- The collected properties, each with the declaration it is from. -/
def propertySources (batch : Batch) (declaration : Declaration) : List (Declaration × Property) :=
  sourced (·.name) (·.reachableProperties) (batch.ancestry declaration)

/-- No collected member is overridden on the way: the declaration itself, and whatever is above it
and still below the source of the member, has no reachable member of the same key. -/
structure ShadowsOverridden (batch : Batch) (declaration : Declaration) : Prop where
  methods : ∀ source method, (source, method) ∈ batch.methodSources declaration →
    ∀ other, Relation.ReflTransGen batch.Lists declaration other →
      Relation.TransGen batch.Lists other source → ¬ other.Offers (.method method.key)
  properties : ∀ source property, (source, property) ∈ batch.propertySources declaration →
    ∀ other, Relation.ReflTransGen batch.Lists declaration other →
      Relation.TransGen batch.Lists other source → ¬ other.Offers (.property property.name)

/-- The declaration that a collected member of this key is from. -/
def supplier? (batch : Batch) (key : MemberKey) (declaration : Declaration) : Option Declaration :=
  (batch.ancestry declaration).find? (·.Offers key)

/-- The declaration has no member of the key itself, and among its supertypes this one is the first
that has one. The others after it are not asked. -/
structure Defers (batch : Batch) (key : MemberKey) (declaration supertype : Declaration)
    (after : List QualifiedName) : Prop where
  lacks : ¬ declaration.Offers key
  member : supertype ∈ batch.declarations
  has : (batch.members supertype).Has key
  first : ∃ before, declaration.supertypes = before ++ supertype.name :: after ∧
    ∀ other ∈ batch.declarations, other.name ∈ before → ¬ (batch.members other).Has key

/-- The declaration gets its member of the key from the source, supertype by supertype. -/
inductive Supplies (batch : Batch) (key : MemberKey) (source : Declaration) :
    Declaration → Prop where
  | own (offers : source.Offers key) : Supplies batch key source source
  | above {declaration supertype : Declaration} {after : List QualifiedName}
      (defers : batch.Defers key declaration supertype after)
      (supplies : Supplies batch key source supertype) : Supplies batch key source declaration

/-- On the way to the source of the member there is a fork: a supertype that is not asked leads to
another declaration with a member of the key, and this one is below the source. -/
inductive Forks (batch : Batch) (key : MemberKey) : Declaration → Prop where
  | here {declaration supertype source later other : Declaration} {after : List QualifiedName}
      (defers : batch.Defers key declaration supertype after)
      (supplies : batch.Supplies key source supertype) (laterMember : later ∈ batch.declarations)
      (notAsked : later.name ∈ after) (chain : Relation.ReflTransGen batch.Lists later other)
      (overrides : Relation.TransGen batch.Lists other source) (offers : other.Offers key) :
      Forks batch key declaration
  | above {declaration supertype : Declaration} {after : List QualifiedName}
      (defers : batch.Defers key declaration supertype after)
      (forks : Forks batch key supertype) : Forks batch key declaration

section Sources

variable {batch : Batch} {declaration source : Declaration} {key : MemberKey}

theorem map_snd_methodSources (batch : Batch) (declaration : Declaration) :
    (batch.methodSources declaration).map (·.2) = (batch.members declaration).methods :=
  map_snd_sourced _ _ _

theorem map_snd_propertySources (batch : Batch) (declaration : Declaration) :
    (batch.propertySources declaration).map (·.2) = (batch.members declaration).properties :=
  map_snd_sourced _ _ _

theorem shadowsOverridden_iff :
    batch.ShadowsOverridden declaration ↔
      ∀ key source, batch.supplier? key declaration = some source →
        ∀ other, Relation.ReflTransGen batch.Lists declaration other →
          Relation.TransGen batch.Lists other source → ¬ other.Offers key := by
  constructor
  · intro shadows key source supplied
    cases key with
    | method key =>
        rcases exists_mem_sourced_iff.mpr supplied with ⟨method, member, rfl⟩
        exact shadows.methods source method member
    | property name =>
        rcases exists_mem_sourced_iff.mpr supplied with ⟨property, member, rfl⟩
        exact shadows.properties source property member
  · intro shadows
    refine ⟨?_, ?_⟩
    · intro source method member
      exact shadows (.method method.key) source (exists_mem_sourced_iff.mp ⟨method, member, rfl⟩)
    · intro source property member
      exact shadows (.property property.name) source
        (exists_mem_sourced_iff.mp ⟨property, member, rfl⟩)

theorem supplier?_eq_none_iff :
    batch.supplier? key declaration = none ↔ ¬ (batch.members declaration).Has key := by
  rw [supplier?, List.find?_eq_none, members, Members.has_ofLineage_iff]
  simp

theorem Defers.lists {supertype : Declaration} {after : List QualifiedName}
    (defers : batch.Defers key declaration supertype after) :
    batch.Lists declaration supertype := by
  rcases defers.first with ⟨before, split, _⟩
  exact ⟨defers.member, by simp [split]⟩

theorem Defers.lists_of_mem_after {supertype later : Declaration} {after : List QualifiedName}
    (defers : batch.Defers key declaration supertype after) (member : later ∈ batch.declarations)
    (notAsked : later.name ∈ after) : batch.Lists declaration later := by
  rcases defers.first with ⟨before, split, _⟩
  exact ⟨member, by simp [split, notAsked]⟩

/-- A member is from the declaration itself or from where the first supertype that has it gets it
from. -/
theorem supplier?_eq_some_iff (acyclic : batch.Acyclic)
    (member : declaration ∈ batch.declarations) :
    batch.supplier? key declaration = some source ↔
      (declaration.Offers key ∧ declaration = source) ∨
        ∃ supertype after, batch.Defers key declaration supertype after ∧
          batch.supplier? key supertype = some source := by
  by_cases offers : declaration.Offers key
  · have own : batch.supplier? key declaration = some declaration := by
      rw [supplier?, ancestry_eq_cons, List.find?_cons, decide_eq_true offers]
    rw [own, Option.some.injEq]
    constructor
    · exact fun same => .inl ⟨offers, same⟩
    · rintro (⟨_, same⟩ | ⟨_, _, defers, _⟩)
      · exact same
      · exact absurd offers defers.lacks
  · rw [supplier?, find?_ancestry acyclic member (decide_eq_false offers),
      List.findSome?_eq_some_iff]
    constructor
    · rintro ⟨before, name, after, split, foundAbove, noneBefore⟩
      rcases Option.bind_eq_some_iff.mp foundAbove with ⟨supertype, found, supplied⟩
      rcases get?_eq_some_iff.mp found with ⟨supertypeMember, named⟩
      refine .inr ⟨supertype, after, ⟨offers, supertypeMember, ?_, before, ?_, ?_⟩, supplied⟩
      · by_contra lacks
        rw [← supplier?_eq_none_iff, supplier?, supplied] at lacks
        cases lacks
      · rw [named, split]
      · intro other otherMember inBefore
        have missed := noneBefore other.name inBefore
        rw [get?_name otherMember, Option.bind_some] at missed
        exact supplier?_eq_none_iff.mp missed
    · rintro (⟨offers', _⟩ | ⟨supertype, after, defers, supplied⟩)
      · exact absurd offers' offers
      · rcases defers.first with ⟨before, split, noneBefore⟩
        refine ⟨before, supertype.name, after, split, ?_, ?_⟩
        · rw [get?_name defers.member, Option.bind_some]
          exact supplied
        · intro name inBefore
          rw [Option.bind_eq_none_iff]
          intro other found
          rcases get?_eq_some_iff.mp found with ⟨otherMember, rfl⟩
          exact supplier?_eq_none_iff.mpr (noneBefore other otherMember inBefore)

theorem supplies_iff (acyclic : batch.Acyclic) (member : declaration ∈ batch.declarations) :
    batch.Supplies key source declaration ↔ batch.supplier? key declaration = some source := by
  constructor
  · intro supplies
    induction supplies with
    | own offers => exact (supplier?_eq_some_iff acyclic member).mpr (.inl ⟨offers, rfl⟩)
    | above defers _ ih =>
        exact (supplier?_eq_some_iff acyclic member).mpr (.inr ⟨_, _, defers, ih defers.member⟩)
  · induction declaration, member using acyclic.induction with
    | step declaration member ih =>
        intro supplied
        rcases (supplier?_eq_some_iff acyclic member).mp supplied with
          ⟨offers, rfl⟩ | ⟨supertype, after, defers, suppliedAbove⟩
        · exact .own offers
        · exact .above defers (ih supertype defers.lists suppliedAbove)

/-- A member that is overridden on the way is from a fork. -/
theorem forks_iff (acyclic : batch.Acyclic) (member : declaration ∈ batch.declarations) :
    batch.Forks key declaration ↔
      ∃ source other, batch.supplier? key declaration = some source ∧
        Relation.ReflTransGen batch.Lists declaration other ∧
        Relation.TransGen batch.Lists other source ∧ other.Offers key := by
  constructor
  · intro forks
    induction forks with
    | here defers supplies laterMember notAsked chain overrides offers =>
        refine ⟨_, _, (supplier?_eq_some_iff acyclic member).mpr (.inr ⟨_, _, defers, ?_⟩), ?_,
          overrides, offers⟩
        · exact (supplies_iff acyclic defers.member).mp supplies
        · exact .head (defers.lists_of_mem_after laterMember notAsked) chain
    | above defers _ ih =>
        rcases ih defers.member with ⟨source, other, supplied, chain, overrides, offers⟩
        exact ⟨source, other, (supplier?_eq_some_iff acyclic member).mpr
          (.inr ⟨_, _, defers, supplied⟩), .head defers.lists chain, overrides, offers⟩
  · induction declaration, member using acyclic.induction with
    | step declaration member ih =>
        rintro ⟨source, other, supplied, chain, overrides, offers⟩
        rcases (supplier?_eq_some_iff acyclic member).mp supplied with
          ⟨_, rfl⟩ | ⟨supertype, after, defers, suppliedAbove⟩
        · exact absurd (overrides.trans_right chain) (acyclic declaration)
        · rcases Relation.ReflTransGen.cases_head chain with rfl | ⟨next, step, chainAbove⟩
          · exact absurd offers defers.lacks
          · rcases defers.first with ⟨before, split, noneBefore⟩
            have listed := step.2
            rw [split, List.mem_append, List.mem_cons] at listed
            rcases listed with inBefore | isFirst | notAsked
            · exact absurd ((has_members_iff step.1).mpr ⟨other, chainAbove, offers⟩)
                (noneBefore next step.1 inBefore)
            · rw [List.inj_on_of_nodup_map batch.nodup step.1 defers.member isFirst] at chainAbove
              exact .above defers (ih supertype defers.lists
                ⟨source, other, suppliedAbove, chainAbove, overrides, offers⟩)
            · exact .here defers ((supplies_iff acyclic defers.member).mpr suppliedAbove) step.1
                notAsked chainAbove overrides offers

/-- Where every declaration has at most one supertype, there is no fork. -/
theorem not_forks_of_length_le_one
    (single : ∀ other ∈ batch.declarations, other.supertypes.length ≤ 1)
    (member : declaration ∈ batch.declarations) : ¬ batch.Forks key declaration := by
  intro forks
  induction forks with
  | here defers _ _ notAsked _ _ _ =>
      rcases defers.first with ⟨before, split, _⟩
      have short := single _ member
      rw [split, List.length_append, List.length_cons] at short
      have positive := List.length_pos_of_mem notAsked
      omega
  | above defers _ ih => exact ih defers.member

end Sources

/-- Without cycles, the members collected for a declaration shadow everything that they override,
unless the walk to one of them leaves an override aside at a fork. -/
theorem shadowsOverridden_iff_not_forks {batch : Batch} (acyclic : batch.Acyclic)
    {declaration : Declaration} (member : declaration ∈ batch.declarations) :
    (batch.methodSources declaration).map (·.2) = (batch.members declaration).methods ∧
      (batch.propertySources declaration).map (·.2) = (batch.members declaration).properties ∧
      (batch.ShadowsOverridden declaration ↔ ∀ key, ¬ batch.Forks key declaration) := by
  refine ⟨map_snd_methodSources _ _, map_snd_propertySources _ _, ?_⟩
  simp only [shadowsOverridden_iff, forks_iff acyclic member, not_exists, not_and]
  constructor
  · exact fun shadows key source other supplied => shadows key source supplied other
  · exact fun shadows key source supplied other => shadows key source other supplied

/-- In three levels the method of the leaf shadows that of the base. -/
theorem shadowsOverridden_threeLevels :
    threeLevels.ShadowsOverridden threeLevels.declarations[2] := by
  have acyclic : threeLevels.Acyclic := .of_supertypesFirst ⟨by decide, by decide⟩
  have member : threeLevels.declarations[2] ∈ threeLevels.declarations := List.getElem_mem _
  exact (shadowsOverridden_iff_not_forks acyclic member).2.2.mpr fun _ =>
    not_forks_of_length_le_one (by decide) member

/-- A reader of texts behind a buffer. Its first supertype inherits a method that its second one
overrides. -/
def bufferedReader : Batch where
  declarations :=
    [{ name := ⟨"", "Source"⟩, kind := .interface
       methods := [{ name := "next", result? := some ⟨⟨"kotlin", "Any"⟩, [], false⟩ }] },
     { name := ⟨"", "BufferedSource"⟩, kind := .interface, supertypes := [⟨"", "Source"⟩] },
     { name := ⟨"", "TextSource"⟩, kind := .interface, supertypes := [⟨"", "Source"⟩]
       methods := [{ name := "next", result? := some ⟨⟨"kotlin", "String"⟩, [], false⟩ }] },
     { name := ⟨"", "Reader"⟩, kind := .class
       supertypes := [⟨"", "BufferedSource"⟩, ⟨"", "TextSource"⟩] }]
  nodup := by decide

/-- The reader gets the method of the source, although a supertype of the reader overrides it. -/
theorem not_shadowsOverridden_bufferedReader :
    bufferedReader.Acyclic ∧ bufferedReader.declarations[3] ∈ bufferedReader.declarations ∧
      ¬ bufferedReader.ShadowsOverridden bufferedReader.declarations[3] := by
  refine ⟨.of_supertypesFirst ⟨by decide, by decide⟩, List.getElem_mem _, ?_⟩
  intro shadows
  have fromSource : bufferedReader.methodSources bufferedReader.declarations[3]
      = [(bufferedReader.declarations[0],
        { name := "next", result? := some ⟨⟨"kotlin", "Any"⟩, [], false⟩ })] := by
    cbv
  refine shadows.methods bufferedReader.declarations[0] _
    (by rw [fromSource]; exact List.mem_cons_self) bufferedReader.declarations[2] ?_ ?_ (by decide)
  · exact .single ⟨by decide, by decide⟩
  · exact .single ⟨by decide, by decide⟩

end Batch

end NativeWrappers
