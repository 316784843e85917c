import NativeWrappers.Proofs.Refusal
import NativeWrappers.Proofs.Shadowing
/-!
# Who is blamed for a malformed stream

The members of a target are collected along its lineage, so a malformed stream among them may come
from an ancestor. The report names the member and its type, and as the owner the target that the
member was collected for. So it names the declaration that declares the stream exactly if the target
declares one alike itself.
-/

namespace NativeWrappers

/-! ## Members as the check for streams sees them -/

/-- What decides whether a member is a malformed stream, and what is said about one. -/
structure TypedMember where
  name : String
  suspending : Bool
  type : TypeExpr
deriving DecidableEq

/-- A method with the type of its result. -/
def Method.typed (method : Method) : TypedMember := ⟨method.name, method.suspending, method.result⟩

/-- A property is never suspending. -/
def Property.typed (property : Property) : TypedMember := ⟨property.name, false, property.type⟩

namespace TypedMember

variable {member : TypedMember}

/-- The member is a stream that is not handed over later and does not have exactly one argument. -/
def IsMalformed (member : TypedMember) : Prop :=
  member.suspending = false ∧ member.type.IsStream ∧ member.type.arguments.length ≠ 1

instance decidableIsMalformed : DecidablePred IsMalformed := fun member =>
  have isStream_iff : member.type.streamKind?.isSome = true ↔ member.type.IsStream := by
    simp only [Option.isSome_iff_exists, TypeExpr.streamKind?_eq_some_iff, TypeExpr.IsStream]
  have : Decidable member.type.IsStream := decidable_of_iff _ isStream_iff
  inferInstanceAs (Decidable (_ ∧ _ ∧ _))

/-- The check of the member on behalf of its owner. -/
def check (owner : QualifiedName) (member : TypedMember) : Check :=
  streamCheck owner member.name member.suspending member.type

theorem violated_check_iff {owner : QualifiedName} :
    (member.check owner).violated ↔ decide member.IsMalformed = true := by
  rw [decide_eq_true_iff]
  rfl

end TypedMember

/-- All methods and then all properties of the declaration itself, whether reachable or not. -/
def Declaration.typedMembers (declaration : Declaration) : List TypedMember :=
  declaration.methods.map (·.typed) ++ declaration.properties.map (·.typed)

/-- The declaration itself declares a malformed stream of this name whose type is written so. -/
def Declaration.DeclaresMalformed (declaration : Declaration) (member type : String) : Prop :=
  ∃ own ∈ declaration.typedMembers, own.IsMalformed ∧ own.name = member ∧ own.type.display = type

section Lineage

variable {lineage : List Declaration} {source : Declaration} {member : TypedMember}

/-- The members that are collected along a lineage, each with the declaration that declares it. -/
def typedSources (lineage : List Declaration) : List (Declaration × TypedMember) :=
  (sourced (·.key) (·.reachableMethods) lineage).map
      (fun (source, method) => (source, method.typed))
    ++ (sourced (·.name) (·.reachableProperties) lineage).map
      (fun (source, property) => (source, property.typed))

/-- The first malformed stream that is collected along a lineage. -/
def firstMalformed? (lineage : List Declaration) : Option (Declaration × TypedMember) :=
  (typedSources lineage).find? fun (_, member) => member.IsMalformed

theorem mem_of_mem_map_sourced {α κ : Type} [DecidableEq κ] {key : α → κ}
    {membersOf : Declaration → List α} {typed : α → TypedMember}
    (collected : (source, member) ∈ (sourced key membersOf lineage).map
      fun (source, element) => (source, typed element)) :
    source ∈ lineage ∧ member ∈ (membersOf source).map typed := by
  rcases List.mem_map.mp collected with ⟨⟨_, element⟩, elementCollected, same⟩
  cases same
  rcases List.mem_flatMap.mp (mem_of_mem_distinctBy elementCollected) with
    ⟨other, otherMember, paired⟩
  rcases List.mem_map.mp paired with ⟨_, own, same⟩
  cases same
  exact ⟨otherMember, List.mem_map_of_mem own⟩

theorem mem_of_mem_typedSources (collected : (source, member) ∈ typedSources lineage) :
    source ∈ lineage ∧ member ∈ source.typedMembers := by
  rcases List.mem_append.mp collected with ofMethod | ofProperty
  · rcases mem_of_mem_map_sourced ofMethod with ⟨sourceMember, reachable⟩
    exact ⟨sourceMember,
      List.mem_append_left _ (List.map_subset _ (List.filter_subset_self _) reachable)⟩
  · rcases mem_of_mem_map_sourced ofProperty with ⟨sourceMember, reachable⟩
    exact ⟨sourceMember,
      List.mem_append_right _ (List.map_subset _ (List.filter_subset_self _) reachable)⟩

theorem streamChecks_eq_map (owner : QualifiedName) (lineage : List Declaration) :
    streamChecks owner (Members.ofLineage lineage)
      = (typedSources lineage).map fun (_, member) => member.check owner := by
  rw [streamChecks, Members.ofLineage, typedSources, List.map_append, List.map_map, List.map_map,
    ← map_snd_sourced, ← map_snd_sourced, List.map_map, List.map_map]
  rfl

/-- The problem of a lineage is that of its first malformed stream. -/
theorem firstMalformed?_of_firstViolated {owner : QualifiedName} {problem : Problem}
    (first : FirstViolated (streamChecks owner (Members.ofLineage lineage)) problem) :
    ∃ source member, firstMalformed? lineage = some (source, member) ∧
      problem = .malformedStream owner member.name member.type.display := by
  rw [streamChecks_eq_map] at first
  rcases first.map_cases fun _ => TypedMember.violated_check_iff with
    ⟨⟨source, member⟩, found, reported⟩
  exact ⟨source, member, found, reported.symm⟩

theorem declaresMalformed_of_firstMalformed?
    (found : firstMalformed? lineage = some (source, member)) :
    source ∈ lineage ∧ source.DeclaresMalformed member.name member.type.display := by
  rcases mem_of_mem_typedSources (List.mem_of_find?_eq_some found) with ⟨sourceMember, own⟩
  exact ⟨sourceMember, member, own, by simpa using List.find?_some found, rfl, rfl⟩

end Lineage

/-! ## The report -/

namespace Batch

variable {batch : Batch} {conventions : Conventions} {owner : QualifiedName} {member type : String}

/-- The owner in the report is a declaration of the batch that itself declares the stream. -/
def BlamesDeclarer (batch : Batch) (owner : QualifiedName) (member type : String) : Prop :=
  ∃ declaration ∈ batch.declarations, declaration.name = owner ∧
    declaration.DeclaresMalformed member type

/-- Of what is collected for the interface or for the class of this target, the first malformed
stream is this member of the source. -/
inductive Refuses (batch : Batch) (target source : Declaration) (member : TypedMember) : Prop where
  | interface (isTarget : target ∈ batch.interfaceTargets)
      (first : firstMalformed? (batch.lineage target batch.isInterfaceTarget)
        = some (source, member))
  | class (isTarget : target ∈ batch.classTargets)
      (first : firstMalformed? (batch.ancestry target) = some (source, member))

namespace Refuses

variable {target source : Declaration} {member : TypedMember}

theorem target_mem (refuses : batch.Refuses target source member) :
    target ∈ batch.declarations := by
  cases refuses with
  | interface isTarget _ => exact List.mem_of_mem_filter isTarget
  | «class» isTarget _ => exact List.mem_of_mem_filter isTarget

theorem reflTransGen (refuses : batch.Refuses target source member) :
    Relation.ReflTransGen batch.Lists target source := by
  cases refuses with
  | interface _ first =>
      exact reflTransGen_of_mem_lineage (declaresMalformed_of_firstMalformed? first).1
  | «class» _ first =>
      exact reflTransGen_of_mem_lineage (declaresMalformed_of_firstMalformed? first).1

theorem declaresMalformed (refuses : batch.Refuses target source member) :
    source.DeclaresMalformed member.name member.type.display := by
  cases refuses with
  | interface _ first => exact (declaresMalformed_of_firstMalformed? first).2
  | «class» _ first => exact (declaresMalformed_of_firstMalformed? first).2

end Refuses

theorem blamesDeclarer_iff_declaresMalformed {target : Declaration}
    (inBatch : target ∈ batch.declarations) :
    batch.BlamesDeclarer target.name member type ↔ target.DeclaresMalformed member type := by
  constructor
  · rintro ⟨declaration, declarationInBatch, sameName, declares⟩
    rwa [← List.inj_on_of_nodup_map batch.nodup declarationInBatch inBatch sameName]
  · exact fun declares => ⟨target, inBatch, rfl, declares⟩

theorem exists_refuses_of_generate
    (refused : batch.generate conventions = .error (.malformedStream owner member type)) :
    ∃ target source malformed, batch.Refuses target source malformed ∧
      target.name = owner ∧ malformed.name = member ∧ malformed.type.display = type := by
  rcases stream_of_generate refused with ⟨target, isTarget, first⟩ | ⟨target, isTarget, first⟩
  · rcases firstMalformed?_of_firstViolated first with ⟨source, malformed, found, reported⟩
    cases reported
    exact ⟨target, source, malformed, .interface isTarget found, rfl, rfl, rfl⟩
  · rcases firstMalformed?_of_firstViolated first with ⟨source, malformed, found, reported⟩
    cases reported
    exact ⟨target, source, malformed, .class isTarget found, rfl, rfl, rfl⟩

/-- A malformed stream is reported for a target, of whose collected members it is the first
malformed one. The report names this member and its type as a declaration that the target is or
inherits from declares them, and it names the target as the owner. So the owner declares the stream
exactly if the target does, and it does if it inherits from no declaration with a malformed one. -/
theorem blamesDeclarer_iff
    (refused : batch.generate conventions = .error (.malformedStream owner member type)) :
    ∃ target source malformed, batch.Refuses target source malformed ∧
      target.name = owner ∧ malformed.name = member ∧ malformed.type.display = type ∧
      Relation.ReflTransGen batch.Lists target source ∧ source.DeclaresMalformed member type ∧
      (batch.BlamesDeclarer owner member type ↔ target.DeclaresMalformed member type) ∧
      ((∀ ancestor, Relation.TransGen batch.Lists target ancestor →
          ∀ inherited ∈ ancestor.typedMembers, ¬ inherited.IsMalformed) →
        batch.BlamesDeclarer owner member type) := by
  rcases exists_refuses_of_generate refused with
    ⟨target, source, malformed, refuses, rfl, rfl, rfl⟩
  have blames_iff :
      batch.BlamesDeclarer target.name malformed.name malformed.type.display ↔ _ :=
    blamesDeclarer_iff_declaresMalformed refuses.target_mem
  refine ⟨target, source, malformed, refuses, rfl, rfl, rfl, refuses.reflTransGen,
    refuses.declaresMalformed, blames_iff, fun noneAbove => ?_⟩
  rcases Relation.reflTransGen_iff_eq_or_transGen.mp refuses.reflTransGen with same | above
  · exact blames_iff.mpr (same ▸ refuses.declaresMalformed)
  · rcases refuses.declaresMalformed with ⟨own, inSource, isMalformed, _, _⟩
    exact absurd isMalformed (noneAbove source above own inSource)

/-- A class with a malformed stream of its own, below an interface without one. -/
def ticker : Batch where
  declarations :=
    [{ name := ⟨"", "Quotes"⟩, kind := .interface
       methods :=
        [{ name := "quotes", result? := some ⟨StreamKind.flow.qualifiedName, [.unit], false⟩ }] },
     { name := ⟨"", "Ticker"⟩, kind := .class, supertypes := [⟨"", "Quotes"⟩]
       properties := [{ name := "price", type := ⟨StreamKind.stateFlow.qualifiedName, [], true⟩ }]
       markers := { class? := some {} } }]
  nodup := by decide

theorem generate_ticker :
    ticker.generate {} = .error (.malformedStream ⟨"", "Ticker"⟩ "price"
      "kotlinx.coroutines.flow.StateFlow?") := by
  cbv

theorem blamesDeclarer_ticker :
    ticker.generate {} = .error (.malformedStream ⟨"", "Ticker"⟩ "price"
        "kotlinx.coroutines.flow.StateFlow?") ∧
      ticker.BlamesDeclarer ⟨"", "Ticker"⟩ "price" "kotlinx.coroutines.flow.StateFlow?" := by
  refine ⟨generate_ticker, ?_⟩
  rcases blamesDeclarer_iff generate_ticker with
    ⟨target, source, malformed, refuses, named, _, _, _, _, blames_iff, _⟩
  have isTicker : target = ticker.declarations[1] :=
    List.inj_on_of_nodup_map ticker.nodup refuses.target_mem (by decide) named
  rw [blames_iff, isTicker]
  exact ⟨⟨"price", false, ⟨StreamKind.stateFlow.qualifiedName, [], true⟩⟩, by decide, by decide,
    rfl, by cbv⟩

/-- A class that inherits a malformed stream and declares nothing itself. -/
def mailbox : Batch where
  declarations :=
    [{ name := ⟨"", "Messages"⟩, kind := .interface
       methods :=
        [{ name := "messages", result? := some ⟨StreamKind.flow.qualifiedName, [], false⟩ }] },
     { name := ⟨"", "Mailbox"⟩, kind := .class, supertypes := [⟨"", "Messages"⟩]
       markers := { class? := some {} } }]
  nodup := by decide

theorem generate_mailbox :
    mailbox.generate {} = .error (.malformedStream ⟨"", "Mailbox"⟩ "messages"
      "kotlinx.coroutines.flow.Flow") := by
  cbv

/-- The class is blamed for the stream of the interface. -/
theorem not_blamesDeclarer_mailbox :
    mailbox.generate {} = .error (.malformedStream ⟨"", "Mailbox"⟩ "messages"
        "kotlinx.coroutines.flow.Flow") ∧
      ¬ mailbox.BlamesDeclarer ⟨"", "Mailbox"⟩ "messages" "kotlinx.coroutines.flow.Flow" := by
  refine ⟨generate_mailbox, ?_⟩
  rintro ⟨declaration, inBatch, named, own, ownMember, _⟩
  have isMailbox : declaration = mailbox.declarations[1] :=
    List.inj_on_of_nodup_map mailbox.nodup inBatch (by decide) named
  rw [isMailbox] at ownMember
  cases ownMember

end Batch

end NativeWrappers
