import ScenarioScript.Text

/-!
# Association lists

Values by name, in the order in which the names first came.

**Main definitions.**

* `Association.put` sets the value of a key.
* `Association.get?` looks a key up.

**Main statements.** `Association.get?_put_self` and `Association.get?_put_of_ne`: a key that has
been set has its new value, and all other keys keep theirs.
-/

namespace ScenarioScript

namespace Association

/-- **Setting the value of a key**: in its place if the key is there, at the end otherwise. -/
def put {α : Type} (key : Text) (value : α) : List (Text × α) → List (Text × α)
  | [] => [(key, value)]
  | (other, old) :: rest =>
    if other = key then (other, value) :: rest else (other, old) :: put key value rest

/-- The list that results from setting keys one after the other. -/
def putAll {α : Type} (fields updates : List (Text × α)) : List (Text × α) :=
  updates.foldl (fun fields (key, value) => put key value fields) fields

/-- **The value of a key.** -/
def get? {α : Type} (key : Text) (fields : List (Text × α)) : Option α :=
  (fields.find? fun field => field.1 = key).map (·.2)

/-- A key that has been set has its new value. -/
theorem get?_put_self {α : Type} (key : Text) (value : α) (fields : List (Text × α)) :
    get? key (put key value fields) = some value := by
  induction fields with
  | nil => simp [put, get?]
  | cons field rest ih =>
    by_cases h : field.1 = key
    · simp [put, get?, h]
    · simpa [put, get?, h] using ih

/-- Setting one key leaves all others as they are. -/
theorem get?_put_of_ne {α : Type} {key other : Text} (h : other ≠ key) (value : α)
    (fields : List (Text × α)) : get? other (put key value fields) = get? other fields := by
  induction fields with
  | nil => simp [put, get?, Ne.symm h]
  | cons field rest ih =>
    by_cases hk : field.1 = key
    · simp [put, get?, hk, Ne.symm h]
    · by_cases ho : field.1 = other
      · subst ho
        simp [put, get?, hk]
      · simpa [put, get?, hk, ho] using ih

end Association

end ScenarioScript
