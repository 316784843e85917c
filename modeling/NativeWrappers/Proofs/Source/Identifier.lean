import NativeWrappers.Proofs.Text.Segments
import NativeWrappers.Source.Identifier
/-!
# Reading escaped names

Escaping puts backquotes around some of the segments of a path and changes nothing else. Whatever
two escaped texts agree on, the texts therefore agree on up to backquotes.
-/

namespace NativeWrappers

namespace Text

theorem intercalate_segments (path : String) :
    ".".intercalate (segments '.' path) = path := by
  apply String.toList_injective
  rw [String.toList_intercalate, segments, List.map_map]
  simpa using intercalate_splitAt '.' path.toList

theorem segments_intercalate {texts : List String} (nonempty : texts ≠ [])
    (undotted : ∀ text ∈ texts, '.' ∉ text.toList) :
    segments '.' (".".intercalate texts) = texts := by
  have characters : texts.map String.toList ≠ [] := by simpa using nonempty
  have free : ∀ piece ∈ texts.map String.toList, '.' ∉ piece := by simpa using undotted
  have dot : ".".toList = ['.'] := rfl
  rw [segments, String.toList_intercalate, dot, splitAt_intercalate characters free, List.map_map]
  simp

end Text

namespace Source

/-- The text without its backquotes. -/
def unquoted (text : String) : String :=
  String.ofList (text.toList.filter (· ≠ '`'))

theorem unquoted_append (first second : String) :
    unquoted (first ++ second) = unquoted first ++ unquoted second := by
  simp [unquoted, String.ofList_append]

theorem unquoted_of_not_mem {text : String} (free : '`' ∉ text.toList) : unquoted text = text := by
  have kept : text.toList.filter (· ≠ '`') = text.toList := by
    apply List.filter_eq_self.mpr
    intro character member
    simpa using ne_of_mem_of_not_mem member free
  rw [unquoted, kept, String.ofList_toList]

theorem unquoted_escape (identifier : String) :
    unquoted (escape identifier) = unquoted identifier := by
  rw [escape]
  split
  · have backquote : unquoted "`" = "" := rfl
    rw [unquoted_append, unquoted_append, backquote, String.append_empty, String.empty_append]
  · rfl

theorem unquoted_intercalate_dot (texts : List String) :
    unquoted (".".intercalate texts) = ".".intercalate (texts.map unquoted) := by
  have dot : unquoted "." = "." := rfl
  induction texts with
  | nil => rfl
  | cons text rest ih =>
      cases rest with
      | nil => simp
      | cons next rest =>
          rw [String.intercalate_cons_cons, unquoted_append, unquoted_append, ih, dot]
          exact String.intercalate_cons_cons.symm

theorem unquoted_escapeDotted (path : String) : unquoted (escapeDotted path) = unquoted path := by
  have sameSegments : unquoted ∘ escape = unquoted := funext unquoted_escape
  rw [escapeDotted, unquoted_intercalate_dot, List.map_map, sameSegments,
    ← unquoted_intercalate_dot, Text.intercalate_segments]

/-- A path without a dot is a single segment. -/
theorem escapeDotted_of_not_mem {path : String} (undotted : '.' ∉ path.toList) :
    escapeDotted path = escape path := by
  rw [escapeDotted, Text.segments_of_not_mem undotted, List.map_singleton,
    String.intercalate_singleton]

end Source

end NativeWrappers
