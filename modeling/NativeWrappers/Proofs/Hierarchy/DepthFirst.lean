import Mathlib.Data.List.Induction
import NativeWrappers.Proofs.Hierarchy.Walk
/-!
# Collecting members by the definition

What is collected has a definition that knows of no state: visit the ancestors in depth-first
preorder, where entering a declaration visits everything above it before the names that come after
it, put their members one after the other, and keep each whose key no earlier one has. The walk and
the collection are just this, on hierarchies of every shape.
-/

namespace NativeWrappers

/-! ## The first element of each key -/

section FirstOfEach

variable {α κ : Type} [DecidableEq κ] {key : α → κ}

/-- The elements whose key is that of no element before them. -/
def firstOfEach (key : α → κ) (list : List α) : List α :=
  (list.zipIdx.filter fun (element, index) => key element ∉ (list.take index).map key).map Prod.fst

theorem firstOfEach_concat (list : List α) (last : α) :
    firstOfEach key (list ++ [last]) =
      firstOfEach key list ++ if key last ∈ list.map key then [] else [last] := by
  have front : list.zipIdx.filter (fun (element, index) =>
        key element ∉ ((list ++ [last]).take index).map key)
      = list.zipIdx.filter fun (element, index) => key element ∉ (list.take index).map key := by
    apply List.filter_congr
    intro pair member
    have before : (list ++ [last]).take pair.2 = list.take pair.2 :=
      List.take_append_of_le_length (List.snd_lt_of_mem_zipIdx member).le
    simp only [before]
  have back : ([last].zipIdx (0 + list.length)).filter (fun (element, index) =>
        key element ∉ ((list ++ [last]).take index).map key)
      = if key last ∈ list.map key then [] else [(last, list.length)] := by
    simp only [List.zipIdx_cons, List.zipIdx_nil, List.filter_cons, List.filter_nil, Nat.zero_add,
      List.take_left, decide_not, Bool.not_eq_true', decide_eq_false_iff_not, ite_not]
  rw [firstOfEach, List.zipIdx_append, List.filter_append, front, back, List.map_append,
    firstOfEach]
  split <;> rfl

theorem distinctBy_append (list more : List α) :
    distinctBy key (list ++ more) = distinctBy key list ++
      (distinctBy key more).filter fun other => key other ∉ list.map key := by
  induction list with
  | nil => simp [distinctBy]
  | cons first rest ih =>
      rw [List.cons_append, distinctBy, ih, distinctBy, List.filter_append, List.filter_filter,
        List.cons_append]
      congr 2
      apply List.filter_congr
      intro other _
      rw [List.map_cons, Bool.eq_iff_iff]
      simp only [Bool.and_eq_true, decide_eq_true_iff, List.mem_cons, not_or, ne_eq]

theorem firstOfEach_eq_distinctBy (list : List α) : firstOfEach key list = distinctBy key list := by
  induction list using List.reverseRecOn with
  | nil => rfl
  | append_singleton list last ih =>
      rw [firstOfEach_concat, distinctBy_append, ih]
      congr 1
      by_cases repeated : key last ∈ list.map key
      · simp only [distinctBy, List.filter_nil, List.filter_cons, repeated, not_true, decide_false,
          Bool.false_eq_true, if_true, if_false]
      · simp only [distinctBy, List.filter_nil, List.filter_cons, repeated, not_false_iff,
          decide_true, if_true, if_false]

theorem distinctBy_prefix (list more : List α) :
    distinctBy key list <+: distinctBy key (list ++ more) :=
  ⟨_, (distinctBy_append list more).symm⟩

end FirstOfEach

/-- The members of these declarations, one after the other, without those that have the key or the
name of an earlier one. -/
def Members.flattened (lineage : List Declaration) : Members where
  methods := firstOfEach (·.key) (lineage.flatMap (·.reachableMethods))
  properties := firstOfEach (·.name) (lineage.flatMap (·.reachableProperties))

theorem Members.ofLineage_eq_flattened (lineage : List Declaration) :
    Members.ofLineage lineage = Members.flattened lineage := by
  rw [ofLineage, flattened, firstOfEach_eq_distinctBy, firstOfEach_eq_distinctBy]

/-! ## Depth-first preorder -/

namespace Batch

variable {batch : Batch} {declaration other : Declaration} {visited pending : List QualifiedName}
  {order order' : List Declaration}

/-- The order in which a depth-first walk from the pending names enters declarations of the batch.
Entering one visits all that is above it before the names that come after it, and nothing that was
visited is entered again. -/
inductive DepthFirst (batch : Batch) :
    (visited pending : List QualifiedName) → (order : List Declaration) → Prop
  | done (visited : List QualifiedName) : DepthFirst batch visited [] []
  | outside {visited rest : List QualifiedName} {name : QualifiedName} {order : List Declaration}
      (absent : batch.get? name = none) (onward : DepthFirst batch visited rest order) :
      DepthFirst batch visited (name :: rest) order
  | again {visited rest : List QualifiedName} {name : QualifiedName} {order : List Declaration}
      (seen : name ∈ visited) (onward : DepthFirst batch visited rest order) :
      DepthFirst batch visited (name :: rest) order
  | enter {visited rest : List QualifiedName} {name : QualifiedName} {entered : Declaration}
      {above others : List Declaration} (found : batch.get? name = some entered)
      (new : name ∉ visited)
      (inner : DepthFirst batch (name :: visited) entered.supertypes above)
      (onward : DepthFirst batch (above.map (·.name) ++ name :: visited) rest others) :
      DepthFirst batch visited (name :: rest) (entered :: (above ++ others))

/-- There is at most one such order. -/
theorem DepthFirst.unique (walk : DepthFirst batch visited pending order)
    (walk' : DepthFirst batch visited pending order') : order = order' := by
  induction walk generalizing order' with
  | done visited =>
      cases walk'
      rfl
  | outside absent _ ih =>
      cases walk' with
      | outside _ onward' => exact ih onward'
      | again _ onward' => exact ih onward'
      | enter found => rw [absent] at found; cases found
  | again seen _ ih =>
      cases walk' with
      | outside _ onward' => exact ih onward'
      | again _ onward' => exact ih onward'
      | enter _ new => exact absurd seen new
  | enter found new _ _ ihInner ihOnward =>
      cases walk' with
      | outside absent => rw [absent] at found; cases found
      | again seen => exact absurd seen new
      | enter found' _ inner' onward' =>
          rw [found] at found'
          cases found'
          cases ihInner inner'
          cases ihOnward onward'
          rfl

/-- The declarations whose names are not among the visited ones. -/
def unvisited (batch : Batch) (visited : List QualifiedName) : List Declaration :=
  batch.declarations.filter (·.name ∉ visited)

theorem nodup_unvisited (batch : Batch) (visited : List QualifiedName) :
    ((batch.unvisited visited).map (·.name)).Nodup :=
  batch.nodup.sublist (List.filter_sublist.map _)

theorem find?_unvisited (batch : Batch) (visited : List QualifiedName) (name : QualifiedName) :
    (batch.unvisited visited).find? (·.name == name) =
      if name ∈ visited then none else batch.get? name := by
  rw [unvisited, find?_filter_key (fun name => decide (name ∉ visited)), get?]
  by_cases seen : name ∈ visited <;> simp [seen]

theorem withoutName_unvisited (batch : Batch) (visited : List QualifiedName)
    (name : QualifiedName) :
    withoutName (batch.unvisited visited) name = batch.unvisited (name :: visited) := by
  rw [withoutName, unvisited, unvisited, List.filter_filter]
  apply List.filter_congr
  intro other _
  rw [Bool.eq_iff_iff]
  simp

/-- What is left when these are visited too. -/
theorem filter_unvisited {above : List Declaration} (inBatch : above ⊆ batch.declarations) :
    (batch.unvisited visited).filter (· ∉ above)
      = batch.unvisited (above.map (·.name) ++ visited) := by
  rw [unvisited, unvisited, List.filter_filter]
  apply List.filter_congr
  intro other member
  have named : other.name ∈ above.map (·.name) ↔ other ∈ above := by
    constructor
    · intro inNames
      rcases List.mem_map.mp inNames with ⟨visited, visitedMember, same⟩
      rwa [← List.inj_on_of_nodup_map batch.nodup (inBatch visitedMember) member same]
    · exact fun inAbove => List.mem_map.mpr ⟨other, inAbove, rfl⟩
  rw [Bool.eq_iff_iff]
  simp only [Bool.and_eq_true, decide_eq_true_iff, List.mem_append, named, not_or]

theorem preorder_subset (unvisited : List Declaration) (pending : List QualifiedName) :
    preorder unvisited pending ⊆ unvisited := by
  induction unvisited, pending using preorder.induct with
  | case1 unvisited =>
      rw [preorder]
      exact List.nil_subset _
  | case2 unvisited name rest absent ih =>
      rwa [preorder_of_find?_eq_none absent]
  | case3 unvisited name rest visited found ih =>
      rw [preorder_of_find?_eq_some found, List.cons_subset]
      exact ⟨List.mem_of_find?_eq_some found, fun _ member => (mem_withoutName.mp (ih member)).1⟩

/-- The walk that keeps what is pending in one list is depth first. Each declaration that is entered
leaves fewer unvisited ones, and the walk above it is split off by `preorder_append`. -/
theorem depthFirst_preorder (batch : Batch) (visited pending : List QualifiedName) :
    batch.DepthFirst visited pending (preorder (batch.unvisited visited) pending) := by
  induction size : (batch.unvisited visited).length using Nat.strong_induction_on
    generalizing visited pending with
  | _ bound ih =>
      induction pending with
      | nil =>
          rw [preorder]
          exact .done visited
      | cons name rest ihRest =>
          by_cases seen : name ∈ visited
          · rw [preorder_of_find?_eq_none (by rw [find?_unvisited, if_pos seen])]
            exact .again seen ihRest
          · have lookup := batch.find?_unvisited visited name
            rw [if_neg seen] at lookup
            cases found : batch.get? name with
            | none =>
                rw [preorder_of_find?_eq_none (lookup.trans found)]
                exact .outside found ihRest
            | some entered =>
                have named : entered.name = name := name_of_get? found
                have fewer : (batch.unvisited (name :: visited)).length < bound := by
                  rw [← size, ← withoutName_unvisited, ← named]
                  exact length_withoutName_lt (List.mem_of_find?_eq_some (lookup.trans found))
                have above : preorder (batch.unvisited (name :: visited)) entered.supertypes
                    ⊆ batch.declarations :=
                  fun other member => List.mem_of_mem_filter (preorder_subset _ _ member)
                rw [preorder_of_find?_eq_some (lookup.trans found), named, withoutName_unvisited,
                  preorder_append (batch.nodup_unvisited _), filter_unvisited above]
                refine .enter found seen (ih _ fewer _ _ rfl) (ih _ ?_ _ _ rfl)
                rw [← filter_unvisited above]
                exact (List.length_filter_le _ _).trans_lt fewer

/-- A declaration lists one of the batch whose name is not closed. -/
def ListsOutside (batch : Batch) (closed : QualifiedName → Prop) (lower upper : Declaration) :
    Prop :=
  batch.Lists lower upper ∧ ¬ closed upper.name

theorem reaches_withoutName_iff {name : QualifiedName} :
    Reaches (withoutName batch.declarations name) pending other ↔
      ∃ first, first ∈ batch.declarations ∧ first.name ∈ pending ∧ first.name ≠ name ∧
        Relation.ReflTransGen (batch.ListsOutside (· = name)) first other := by
  constructor
  · intro reached
    induction reached with
    | pending member named =>
        rcases mem_withoutName.mp member with ⟨inBatch, different⟩
        exact ⟨_, inBatch, named, different, .refl⟩
    | above _ member listed ih =>
        rcases mem_withoutName.mp member with ⟨inBatch, different⟩
        rcases ih with ⟨first, firstInBatch, named, firstDifferent, chain⟩
        exact ⟨first, firstInBatch, named, firstDifferent,
          chain.tail ⟨⟨inBatch, listed⟩, different⟩⟩
  · rintro ⟨first, firstInBatch, named, firstDifferent, chain⟩
    induction chain with
    | refl => exact .pending (mem_withoutName.mpr ⟨firstInBatch, firstDifferent⟩) named
    | tail _ step ih =>
        rcases step with ⟨⟨inBatch, listed⟩, different⟩
        exact .above ih (mem_withoutName.mpr ⟨inBatch, different⟩) listed

/-- The walk above a declaration finds what chains of supertypes lead to that do not come back to
its name. -/
theorem mem_preorder_withoutName_iff :
    other ∈ preorder (withoutName batch.declarations declaration.name) declaration.supertypes ↔
      Relation.TransGen (batch.ListsOutside (· = declaration.name)) declaration other := by
  rw [mem_preorder_iff (nodup_withoutName _ batch.nodup), reaches_withoutName_iff,
    Relation.TransGen.head'_iff]
  simp only [ListsOutside, Lists, and_assoc, ne_eq]

/-- A chain that comes back to where it started can be shortened. -/
theorem eq_or_transGen_of_ancestor
    (settled : ∀ other ∈ batch.declarations, other.name = declaration.name → other = declaration)
    (chain : Relation.ReflTransGen batch.Lists declaration other) :
    other = declaration ∨
      Relation.TransGen (batch.ListsOutside (· = declaration.name)) declaration other := by
  induction chain with
  | refl => exact .inl rfl
  | @tail middle last _ step ih =>
      by_cases back : last.name = declaration.name
      · exact .inl (settled last step.1 back)
      · rcases ih with atStart | onward
        · rw [atStart] at step
          exact .inr (.single ⟨step, back⟩)
        · exact .inr (onward.tail ⟨step, back⟩)

/-- What it means that these members are those of a declaration and of the ancestors above it. The
batch may have another declaration in place of this one, which is then not entered. -/
structure Flattens (batch : Batch) (declaration : Declaration) (above : List Declaration)
    (members : Members) : Prop where
  visitedOnce : ((declaration :: above).map (·.name)).Nodup
  ancestors : ∀ other, other ∈ above ↔
    Relation.TransGen (batch.ListsOutside (· = declaration.name)) declaration other
  methodKeys : (members.methods.map (·.key)).Nodup
  propertyNames : (members.properties.map (·.name)).Nodup
  ownMethods : firstOfEach (·.key) declaration.reachableMethods <+: members.methods
  ownProperties : firstOfEach (·.name) declaration.reachableProperties <+: members.properties
  complete : (∀ other ∈ batch.declarations, other.name = declaration.name → other = declaration) →
    ∀ ancestor key, Relation.ReflTransGen batch.Lists declaration ancestor →
      ancestor.Offers key → members.Has key

theorem name_not_mem_preorder_withoutName {declarations : List Declaration} {name : QualifiedName}
    {pending : List QualifiedName} :
    name ∉ (preorder (withoutName declarations name) pending).map (·.name) := by
  intro again
  rcases List.mem_map.mp again with ⟨other, member, same⟩
  exact (mem_withoutName.mp (preorder_subset _ _ member)).2 same

theorem nodup_preorder {unvisited : List Declaration} {pending : List QualifiedName} :
    ((preorder unvisited pending).map (·.name)).Nodup := by
  induction unvisited, pending using preorder.induct with
  | case1 unvisited =>
      rw [preorder]
      exact List.nodup_nil
  | case2 unvisited name rest absent ih => rwa [preorder_of_find?_eq_none absent]
  | case3 unvisited name rest visited found ih =>
      rw [preorder_of_find?_eq_some found, List.map_cons, List.nodup_cons]
      exact ⟨name_not_mem_preorder_withoutName, ih⟩

theorem flattens_members (batch : Batch) (declaration : Declaration) :
    batch.Flattens declaration
      (preorder (withoutName batch.declarations declaration.name) declaration.supertypes)
      (batch.members declaration) where
  visitedOnce := by
    rw [List.map_cons, List.nodup_cons]
    exact ⟨name_not_mem_preorder_withoutName, nodup_preorder⟩
  ancestors other := mem_preorder_withoutName_iff
  methodKeys := nodup_map_distinctBy _
  propertyNames := nodup_map_distinctBy _
  ownMethods := by
    rw [firstOfEach_eq_distinctBy]
    exact distinctBy_prefix _ _
  ownProperties := by
    rw [firstOfEach_eq_distinctBy]
    exact distinctBy_prefix _ _
  complete settled ancestor key chain offers := by
    rw [members, Members.has_ofLineage_iff, ancestry_eq_cons]
    refine ⟨ancestor, ?_, offers⟩
    rw [List.mem_cons, mem_preorder_withoutName_iff]
    exact eq_or_transGen_of_ancestor settled chain

/-- The members of a declaration are those of the definition: there is one depth-first preorder of
what is above it, and along the declaration and this order the first member of each key is kept. -/
theorem members_eq_flattened (batch : Batch) (declaration : Declaration) :
    ∃ above,
      (∀ order, batch.DepthFirst [declaration.name] declaration.supertypes order ↔
        order = above) ∧
      batch.members declaration = Members.flattened (declaration :: above) ∧
      batch.Flattens declaration above (batch.members declaration) := by
  have walk := batch.depthFirst_preorder [declaration.name] declaration.supertypes
  have started : batch.unvisited [declaration.name]
      = withoutName batch.declarations declaration.name := by
    rw [← withoutName_unvisited]
    simp [unvisited]
  rw [started] at walk
  refine ⟨_, fun order => ⟨fun walk' => walk'.unique walk, fun same => same ▸ walk⟩, ?_,
    flattens_members batch declaration⟩
  rw [members, Members.ofLineage_eq_flattened, ancestry_eq_cons]

end Batch

namespace Knot

/-- An interface above itself, below two that are above each other. -/
def reader : Declaration where
  name := ⟨"", "Reader"⟩
  kind := .interface
  supertypes := [⟨"", "Reader"⟩, ⟨"", "Source"⟩, ⟨"", "Closeable"⟩]
  methods := [{ name := "close" }, { name := "read" }, { name := "close" }]

/-- One of the two above, which is below the first interface too and names a type that is not
declared. -/
def source : Declaration where
  name := ⟨"", "Source"⟩
  kind := .interface
  supertypes := [⟨"", "Closeable"⟩, ⟨"", "Reader"⟩, ⟨"", "Absent"⟩]
  methods := [{ name := "read" }, { name := "skip" }]

/-- The other of the two above. -/
def closeable : Declaration where
  name := ⟨"", "Closeable"⟩
  kind := .interface
  supertypes := [⟨"", "Source"⟩]
  methods := [{ name := "close" }, { name := "flush" }]

/-- The three interfaces. -/
def batch : Batch where
  declarations := [reader, closeable, source]
  nodup := by decide

theorem depthFirst_reader :
    batch.DepthFirst [reader.name] reader.supertypes [source, closeable] := by
  have aboveCloseable :
      batch.DepthFirst [closeable.name, source.name, reader.name] closeable.supertypes [] :=
    .again (by decide) (.done _)
  have afterCloseable :
      batch.DepthFirst [closeable.name, source.name, reader.name]
        [⟨"", "Reader"⟩, ⟨"", "Absent"⟩] [] :=
    .again (by decide) (.outside rfl (.done _))
  have aboveSource :
      batch.DepthFirst [source.name, reader.name] source.supertypes [closeable] :=
    .enter rfl (by decide) aboveCloseable afterCloseable
  have afterSource :
      batch.DepthFirst [closeable.name, source.name, reader.name] [⟨"", "Closeable"⟩] [] :=
    .again (by decide) (.done _)
  exact .again (by decide) (.enter rfl (by decide) aboveSource afterSource)

theorem members_eq_flattened_reader :
    (batch.members reader).methods.map (·.name) = ["close", "read", "skip", "flush"] ∧
      batch.Flattens reader [source, closeable] (batch.members reader) := by
  rcases batch.members_eq_flattened reader with ⟨above, walk, _, flattens⟩
  have inOrder : [source, closeable] = above := (walk _).mp depthFirst_reader
  rw [inOrder]
  exact ⟨by cbv, flattens⟩

end Knot

end NativeWrappers
