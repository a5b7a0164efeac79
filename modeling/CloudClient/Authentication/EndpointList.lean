import CloudClient.Text.Blank

/-!
# Lists of endpoints

The endpoint of a session may be several, with commas between them. Blank
ones are passed over. Of the dialects, one goes through all of them and the
others ask the first.
-/

namespace CloudClient.EndpointList

/-- The endpoints that stand between commas. -/
def all (endpoints : String) : List String := (Text.pieces ',' endpoints).filterMap Text.nonBlank?

/-- There are as many as there are parts that are not blank. -/
theorem length_all (endpoints : String) :
    (all endpoints).length
      = (Text.pieces ',' endpoints).countP fun part => Text.trim part != "" := by
  rw [all, List.length_filterMap_eq_countP]
  refine List.countP_congr fun part _ => ?_
  unfold Text.nonBlank?
  split <;> simp_all

/-- The first of the endpoints; the trimmed text itself if all are blank. -/
def first (endpoints : String) : String := (all endpoints).head?.getD (Text.trim endpoints)

end CloudClient.EndpointList
