/-!
# Call depth

Reading a nested document nests calls, and a run may have at most `recursionLimit` calls open at
once: opening one more fails with a recursion error, whose message names the step that went too
deep. Each stage that nests is told its depth, the number of calls open when it starts, and
knows how many calls each of its levels opens:

* the JSON reader: one for each object or array it enters;
* converting a read value: two for each level, and four more at an object or array to tell
  what it is;
* composing YAML: two for each collection, and twelve more to start a sequence, sixteen a
  mapping.

* `recursionLimit`, `recursionMessage step`.
* `exceedsLimit depth more`: whether `more` calls past `depth` are too many.
-/

namespace HiveDdl

/-- How many calls may be open at once. -/
def recursionLimit : Nat := 1000

/-- The message of a recursion error raised while doing a step (empty, or starting with a
space). -/
def recursionMessage (step : String) : String :=
  "maximum recursion depth exceeded" ++ step

def exceedsLimit (depth more : Nat) : Bool := depth + more > recursionLimit

theorem exceedsLimit_iff (depth more : Nat) :
    exceedsLimit depth more = true ↔ recursionLimit < depth + more := by
  simp [exceedsLimit]

end HiveDdl
