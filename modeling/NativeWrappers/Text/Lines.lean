/-!
# Lines

Text made of lines, each of which is ended.
-/

namespace NativeWrappers.Text

/-- The text of some lines, each ended by a line break. -/
def ofLines (lines : List String) : String := String.join (lines.map (· ++ "\n"))

/-- Lines after lines are their texts one after the other. -/
@[simp] theorem ofLines_append (first second : List String) :
    ofLines (first ++ second) = ofLines first ++ ofLines second := by
  simp [ofLines]

end NativeWrappers.Text
