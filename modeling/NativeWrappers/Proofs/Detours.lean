import NativeWrappers.Proofs.Flattening
import NativeWrappers.Proofs.Hierarchy.DepthFirst
/-!
# Detours to what is left out

What a generated interface leaves to inheritance are direct supertypes with an interface of their
own. They are only passed over as direct supertypes: the walk still enters one of them when it comes
to it from below, through another supertype. So an interface lists exactly what is above its
declaration apart from the supertypes that are left out, unless such a detour leads to one of them.
-/

namespace NativeWrappers

/-- The name is that of a direct supertype whose members are inherited. -/
def Declaration.LeavesOut (declaration : Declaration) (inherited : QualifiedName → Bool)
    (name : QualifiedName) : Prop :=
  name ∈ declaration.supertypes ∧ inherited name = true

namespace Batch

variable {batch : Batch} {declaration other : Declaration} {inherited : QualifiedName → Bool}

/-- Exactly what a chain of supertypes leads to that goes through no supertype left out is
visited. -/
def PassesOver (batch : Batch) (declaration : Declaration) (inherited : QualifiedName → Bool) :
    Prop :=
  ∀ other, other ∈ batch.lineage declaration inherited ↔
    Relation.ReflTransGen (batch.ListsOutside (declaration.LeavesOut inherited)) declaration other

/-- The other declaration is a direct supertype that is entered, or above one, without a chain that
comes back to the declaration. -/
def Enters (batch : Batch) (declaration : Declaration) (inherited : QualifiedName → Bool)
    (other : Declaration) : Prop :=
  ∃ first, batch.ListsOutside (· = declaration.name) declaration first ∧
    inherited first.name = false ∧
    Relation.ReflTransGen (batch.ListsOutside (· = declaration.name)) first other

/-- A direct supertype that is left out is also above one that is entered. -/
def Detours (batch : Batch) (declaration : Declaration) (inherited : QualifiedName → Bool) : Prop :=
  ∃ other, declaration.LeavesOut inherited other.name ∧ batch.Enters declaration inherited other

theorem Enters.name_ne (enters : batch.Enters declaration inherited other) :
    other.name ≠ declaration.name := by
  rcases enters with ⟨first, lists, _, chain⟩
  rcases chain.cases_tail with same | ⟨_, _, step⟩
  · exact same ▸ lists.2
  · exact step.2

theorem mem_lineage_iff_enters :
    other ∈ batch.lineage declaration inherited ↔
      other = declaration ∨ batch.Enters declaration inherited other := by
  rw [mem_lineage_iff, reaches_withoutName_iff]
  refine or_congr_right (exists_congr fun first => ?_)
  constructor
  · rintro ⟨inBatch, named, different, chain⟩
    rcases List.mem_filter.mp named with ⟨listed, entered⟩
    exact ⟨⟨⟨inBatch, listed⟩, different⟩, by simpa using entered, chain⟩
  · rintro ⟨⟨⟨inBatch, listed⟩, different⟩, entered, chain⟩
    exact ⟨inBatch, List.mem_filter.mpr ⟨listed, by simp [entered]⟩, different, chain⟩

/-- What is visited can be reached without the supertypes that are left out, unless a detour leads
to one of them. -/
theorem reflTransGen_of_enters (straight : ¬ batch.Detours declaration inherited)
    (enters : batch.Enters declaration inherited other) :
    Relation.ReflTransGen (batch.ListsOutside (declaration.LeavesOut inherited)) declaration
      other := by
  rcases enters with ⟨first, lists, entered, chain⟩
  induction chain with
  | refl =>
      refine .single ⟨lists.1, fun leftOut => ?_⟩
      rw [leftOut.2] at entered
      cases entered
  | @tail middle last chain step ih =>
      exact ih.tail ⟨step.1, fun leftOut =>
        straight ⟨last, leftOut, first, lists, entered, chain.tail step⟩⟩

/-- A chain without the supertypes that are left out starts with one that is entered. -/
theorem mem_lineage_of_reflTransGen
    (settled : ∀ other ∈ batch.declarations, other.name = declaration.name → other = declaration)
    (chain : Relation.ReflTransGen (batch.ListsOutside (declaration.LeavesOut inherited))
      declaration other) : other ∈ batch.lineage declaration inherited := by
  rw [mem_lineage_iff_enters]
  induction chain with
  | refl => exact .inl rfl
  | @tail middle last _ step ih =>
      rcases step with ⟨lists, kept⟩
      by_cases back : last.name = declaration.name
      · exact .inl (settled last lists.1 back)
      · rcases ih with atStart | ⟨first, listsFirst, entered, chain⟩
        · rw [atStart] at lists
          have notInherited : inherited last.name = false :=
            Bool.eq_false_iff.mpr fun isInherited => kept ⟨lists.2, isInherited⟩
          exact .inr ⟨last, ⟨lists, back⟩, notInherited, .refl⟩
        · exact .inr ⟨first, listsFirst, entered, chain.tail ⟨lists, back⟩⟩

theorem not_detours_of_passesOver (passes : batch.PassesOver declaration inherited) :
    ¬ batch.Detours declaration inherited := by
  rintro ⟨other, leftOut, enters⟩
  have chain := (passes other).mp (mem_lineage_iff_enters.mpr (.inr enters))
  rcases chain.cases_tail with same | ⟨_, _, step⟩
  · exact enters.name_ne (congrArg _ same)
  · exact step.2 leftOut

theorem passesOver_of_not_detours
    (settled : ∀ other ∈ batch.declarations, other.name = declaration.name → other = declaration)
    (straight : ¬ batch.Detours declaration inherited) :
    batch.PassesOver declaration inherited := by
  intro other
  refine ⟨fun visited => ?_, mem_lineage_of_reflTransGen settled⟩
  rcases mem_lineage_iff_enters.mp visited with same | enters
  · rw [same]
  · exact reflTransGen_of_enters straight enters

/-- The direct supertypes that are inherited are passed over, and so is what is only above them,
exactly if no detour leads to one of them. Without detours, an interface of a built table lists
nothing that only comes from supertypes with an interface. -/
theorem passesOver_iff_not_detours
    (settled : ∀ other ∈ batch.declarations, other.name = declaration.name → other = declaration)
    (inherited : QualifiedName → Bool) :
    (batch.PassesOver declaration inherited ↔ ¬ batch.Detours declaration inherited) ∧
      ∀ conventions table interface, batch.interfaceTable conventions = .ok table →
        table.get? declaration.name = some interface →
        ¬ batch.Detours declaration batch.isInterfaceTarget →
        ∀ key, interface.Lists key →
          ∃ other, Relation.ReflTransGen
            (batch.ListsOutside (declaration.LeavesOut batch.isInterfaceTarget)) declaration other ∧
            other.Offers key := by
  refine ⟨⟨not_detours_of_passesOver, passesOver_of_not_detours settled⟩, ?_⟩
  intro conventions table interface built found straight key lists
  rcases exists_settled_of_interfaceTable built with ⟨order, reordered, _, inTable⟩
  rcases inTable.exists_target_of_get? found with ⟨target, targetMember, named⟩
  have inBatch := subset_declarations_of_perm reordered targetMember
  have same : target = declaration := settled target inBatch named
  rw [same] at targetMember
  rcases (inTable.lists_iff targetMember found).mp lists with ⟨other, visited, offers⟩
  rw [inTable.contains_eq reordered] at visited
  exact ⟨other, (passesOver_of_not_detours settled straight other).mp visited, offers⟩

end Batch

/-! ## A file among resources -/

namespace Resources

/-- Has an interface, so that who names it leaves it out. -/
def resource : Declaration where
  name := ⟨"", "Resource"⟩
  kind := .interface
  methods := [{ name := "close" }]
  markers := { interface? := some {} }

/-- Has no interface, and a supertype that has one. -/
def handle : Declaration where
  name := ⟨"", "Handle"⟩
  kind := .interface
  supertypes := [⟨"", "Resource"⟩]

/-- Names one supertype directly, which is above the other. -/
def file : Declaration where
  name := ⟨"", "File"⟩
  kind := .interface
  supertypes := [⟨"", "Resource"⟩, ⟨"", "Handle"⟩]
  markers := { interface? := some {} }

/-- Has no interface and no supertypes. -/
def channel : Declaration where
  name := ⟨"", "Channel"⟩
  kind := .interface
  methods := [{ name := "send" }]

/-- Names two supertypes, neither of which is above the other. -/
def socket : Declaration where
  name := ⟨"", "Socket"⟩
  kind := .interface
  supertypes := [⟨"", "Resource"⟩, ⟨"", "Channel"⟩]
  markers := { interface? := some {} }

/-- The resources, with and without a detour. -/
def batch : Batch where
  declarations := [resource, handle, file, channel, socket]
  nodup := by decide

/-- The interfaces of the resources. -/
def table : InterfaceTable where
  wrappers :=
    [{ origin := ⟨"", "Resource"⟩, name := ⟨"", "ResourceNativeProtocol"⟩
       methods := [{ name := "close", result := .unit }] },
     { origin := ⟨"", "File"⟩, name := ⟨"", "FileNativeProtocol"⟩
       supertypes := [⟨"", "ResourceNativeProtocol"⟩]
       methods := [{ name := "close", result := .unit, isOverride := true }] },
     { origin := ⟨"", "Socket"⟩, name := ⟨"", "SocketNativeProtocol"⟩
       supertypes := [⟨"", "ResourceNativeProtocol"⟩]
       methods := [{ name := "send", result := .unit }] }]
  nodup := by decide

theorem interfaceTable_batch : batch.interfaceTable {} = .ok table := by
  cbv

/-- Nothing is above the channel, which is all that the socket enters. -/
theorem not_detours_socket : ¬ batch.Detours socket batch.isInterfaceTarget := by
  rintro ⟨other, ⟨_, leftOut⟩, first, ⟨⟨inBatch, listed⟩, _⟩, entered, chain⟩
  have onlyChannel : ∀ first ∈ batch.declarations, first.name ∈ socket.supertypes →
      batch.isInterfaceTarget first.name = false → first = channel := by decide
  have isChannel : first = channel := onlyChannel first inBatch listed entered
  subst isChannel
  rcases chain.cases_head with same | ⟨next, ⟨⟨_, above⟩, _⟩, _⟩
  · rw [← same, entered] at leftOut
    cases leftOut
  · cases above

/-- The socket leaves the resource out and enters the channel. -/
theorem passesOver_socket :
    socket.LeavesOut batch.isInterfaceTarget resource.name ∧
      batch.PassesOver socket batch.isInterfaceTarget ∧
      table.get? socket.name = some table.wrappers[2] ∧
      table.wrappers[2].Lists (.method ⟨"send", []⟩) ∧
      ∃ other, Relation.ReflTransGen
        (batch.ListsOutside (socket.LeavesOut batch.isInterfaceTarget)) socket other ∧
        other.Offers (.method ⟨"send", []⟩) := by
  have settled : ∀ other ∈ batch.declarations, other.name = socket.name → other = socket := by
    decide
  have lists : (⟨"send", []⟩ : MethodKey) ∈ table.wrappers[2].methodKeys := by decide
  rcases Batch.passesOver_iff_not_detours settled batch.isInterfaceTarget with ⟨passes_iff, reached⟩
  refine ⟨⟨by decide, by decide⟩, passes_iff.mpr not_detours_socket, rfl, lists, ?_⟩
  exact reached {} table _ interfaceTable_batch rfl not_detours_socket (.method ⟨"send", []⟩) lists

theorem eq_file_or_handle {other : Declaration}
    (chain : Relation.ReflTransGen
      (batch.ListsOutside (file.LeavesOut batch.isInterfaceTarget)) file other) :
    other = file ∨ other = handle := by
  induction chain with
  | refl => exact .inl rfl
  | @tail middle last _ step ih =>
      rcases step with ⟨⟨inBatch, listed⟩, kept⟩
      have above : ∀ last ∈ batch.declarations, last.name ∈ file.supertypes →
          last = resource ∨ last = handle := by decide
      have named : last.name ∈ file.supertypes := by
        rcases ih with rfl | rfl
        · exact listed
        · exact List.mem_cons.mpr (.inl (List.mem_singleton.mp listed))
      rcases above last inBatch named with isResource | isHandle
      · rw [isResource] at kept
        exact absurd ⟨by decide, by decide⟩ kept
      · exact .inr isHandle

/-- The handle leads the file to the resource, which the file leaves out. Its interface lists a
member that only the resource has. -/
theorem not_passesOver_file :
    ¬ batch.PassesOver file batch.isInterfaceTarget ∧
      batch.interfaceTable {} = .ok table ∧
      table.get? file.name = some table.wrappers[1] ∧
      table.wrappers[1].Lists (.method ⟨"close", []⟩) ∧
      ¬ ∃ other, Relation.ReflTransGen
        (batch.ListsOutside (file.LeavesOut batch.isInterfaceTarget)) file other ∧
        other.Offers (.method ⟨"close", []⟩) := by
  have lists : (⟨"close", []⟩ : MethodKey) ∈ table.wrappers[1].methodKeys := by decide
  refine ⟨fun passes => ?_, interfaceTable_batch, rfl, lists, ?_⟩
  · have toHandle : batch.ListsOutside (· = file.name) file handle :=
      ⟨⟨by decide, by decide⟩, by decide⟩
    have toResource : batch.ListsOutside (· = file.name) handle resource :=
      ⟨⟨by decide, by decide⟩, by decide⟩
    exact Batch.not_detours_of_passesOver passes
      ⟨resource, ⟨by decide, by decide⟩, handle, toHandle, by decide, .single toResource⟩
  · have fileOffersNone : (⟨"close", []⟩ : MethodKey) ∉ file.reachableMethods.map (·.key) := by
      decide
    have handleOffersNone : (⟨"close", []⟩ : MethodKey) ∉ handle.reachableMethods.map (·.key) := by
      decide
    rintro ⟨other, chain, offers⟩
    rcases eq_file_or_handle chain with rfl | rfl
    · exact fileOffersNone offers
    · exact handleOffersNone offers

end Resources

end NativeWrappers
