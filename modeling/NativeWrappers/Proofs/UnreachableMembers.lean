import NativeWrappers.Proofs.Likeness
import NativeWrappers.Proofs.WrapperModel
/-!
# Unreachable members count for nothing

A private or protected member cannot be called on the wrapped instance. It is passed over before
anything is decided by it: it claims no key, grants no scope, has no type that could be refused and
is on no surface that a wrapper overrides. So such members can be added, removed and changed
anywhere in a batch, and a pass gives the same files or stops at the same problem.
-/

namespace NativeWrappers

/-- The second list is the first one after some of the elements that may be edited were removed and
others were added, anywhere. An edited element that changes is removed and added. -/
inductive Edits {α : Type} (editable : α → Prop) : List α → List α → Prop where
  | nil : Edits editable [] []
  | kept {list list' : List α} (element : α) (rest : Edits editable list list') :
      Edits editable (element :: list) (element :: list')
  | removed {list list' : List α} {element : α} (allowed : editable element)
      (rest : Edits editable list list') : Edits editable (element :: list) list'
  | added {list list' : List α} {element : α} (allowed : editable element)
      (rest : Edits editable list list') : Edits editable list (element :: list')

/-- A filter that drops whatever may be edited does not see the edits. -/
theorem Edits.filter_eq {α : Type} {editable : α → Prop} {keep : α → Bool} {list list' : List α}
    (edits : Edits editable list list')
    (dropped : ∀ element, editable element → keep element = false) :
    list'.filter keep = list.filter keep := by
  induction edits with
  | nil => rfl
  | kept element _ ih => simp only [List.filter_cons, ih]
  | removed allowed _ ih => simp [dropped _ allowed, ih]
  | added allowed _ ih => simp [dropped _ allowed, ih]

/-- No wrapper can reach what has this visibility. -/
def Visibility.IsHidden (visibility : Visibility) : Prop :=
  visibility = «private» ∨ visibility = «protected»

theorem Visibility.IsHidden.isReachable_eq {visibility : Visibility}
    (hidden : visibility.IsHidden) : visibility.isReachable = false := by
  rcases hidden with rfl | rfl <;> rfl

/-- The same declaration, but for its private and protected members. -/
inductive Declaration.EditsHidden : Declaration → Declaration → Prop where
  | edited {declaration : Declaration} {methods' : List Method} {properties' : List Property}
      (methods : Edits (·.visibility.IsHidden) declaration.methods methods')
      (properties : Edits (·.visibility.IsHidden) declaration.properties properties') :
      EditsHidden declaration { declaration with methods := methods', properties := properties' }

/-- The same batch, but for the private and protected members of its declarations. -/
def Batch.EditsHidden (batch batch' : Batch) : Prop :=
  List.Forall₂ Declaration.EditsHidden batch.declarations batch'.declarations

theorem Declaration.EditsHidden.alike {declaration declaration' : Declaration}
    (edits : declaration.EditsHidden declaration') :
    Declaration.Alike Eq declaration declaration' := by
  cases edits with
  | @edited methods' properties' methods properties =>
      refine ⟨rfl, rfl, rfl, rfl, rfl, ?_, ?_⟩
      · have sameMethods : methods'.filter (·.visibility.isReachable)
            = declaration.reachableMethods :=
          methods.filter_eq fun _ hidden => hidden.isReachable_eq
        simp only [reachableMethods, sameMethods]
        exact List.forall₂_same.mpr fun method _ => Method.Alike.refl (fun _ => rfl) method
      · have sameProperties : properties'.filter (·.visibility.isReachable)
            = declaration.reachableProperties :=
          properties.filter_eq fun _ hidden => hidden.isReachable_eq
        simp only [reachableProperties, sameProperties]
        exact List.forall₂_same.mpr fun property _ => Property.Alike.refl (fun _ => rfl) property

namespace Batch

variable {batch batch' : Batch}

theorem EditsHidden.alike (edits : batch.EditsHidden batch') : Batch.Alike Eq batch batch' :=
  List.Forall₂.imp (fun _ _ => Declaration.EditsHidden.alike) edits

/-- Private and protected members have no influence, on what is generated or on the problem that is
reported instead. -/
theorem output_of_editsHidden (edits : batch.EditsHidden batch') (conventions : Conventions) :
    batch'.generate conventions = batch.generate conventions ∧
      batch'.output conventions = batch.output conventions := by
  have models : Agree Eq Eq (batch.generate conventions) (batch'.generate conventions) :=
    edits.alike.generate_agree fun _ => rfl
  have outputs : Agree Eq Eq (batch.output conventions) (batch'.output conventions) :=
    edits.alike.output_agree fun _ => rfl
  exact ⟨models.eq.symm, outputs.eq.symm⟩

/-- The session with members that would change everything if they were reachable: one that has the
key of an inherited method and a malformed stream as its result, and a second scope of another
type. -/
def guardedSession : Batch where
  declarations :=
    [{ name := ⟨"app", "Session"⟩, kind := .class, supertypes := [⟨"app", "Clock"⟩]
       methods :=
        [{ name := "ticks", result? := some ⟨StreamKind.flow.qualifiedName, [], false⟩
           visibility := .private },
         { name := "user", result? := some ⟨⟨"", "User"⟩, [], false⟩, suspending := true }]
       properties :=
        [{ name := "title", type := ⟨⟨"kotlin", "Int"⟩, [], false⟩, visibility := .protected },
         { name := "title", type := ⟨⟨"kotlin", "String"⟩, [], true⟩ }]
       markers :=
        { interface? := some {}
          class? := some { launchOnScope? := some ⟨"app.di", "MainScope"⟩ } } },
     { name := ⟨"app", "Clock"⟩, kind := .interface
       methods :=
        [{ name := "ticks"
           result? :=
            some ⟨StreamKind.flow.qualifiedName, [⟨⟨"kotlin", "Int"⟩, [], false⟩], false⟩ }]
       markers := { interface? := some {} } },
     { Declaration.mainScope with
       properties :=
        [{ name := "scope", type := ⟨⟨"kotlin", "Int"⟩, [], false⟩, visibility := .private }] }]
  nodup := by decide

theorem generate_guardedSession :
    session.EditsHidden guardedSession ∧ guardedSession.generate {} = .ok WrapperModel.session := by
  have edits : session.EditsHidden guardedSession := by
    refine .cons ?session (.cons ?clock (.cons ?mainScope .nil))
    case session =>
      refine .edited (.added (.inl rfl) (.kept _ .nil)) (.added (.inr rfl) (.kept _ .nil))
    case clock => exact .edited (.kept _ .nil) .nil
    case mainScope => exact .edited .nil (.added (.inl rfl) .nil)
  have sameModels := (output_of_editsHidden edits {}).1
  exact ⟨edits, sameModels.trans generate_session⟩

end Batch

end NativeWrappers
