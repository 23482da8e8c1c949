import ScenarioScript.Association

/-!
# JSON values

The values that scenario files hold and that structured log lines are made of.  An object is an
association list, so every key stands once, at the place where it first came, with the value that
came last.

**Main definitions.** `Json` is the type of values, `Json.same` compares two of them.
-/

namespace ScenarioScript

/-- **JSON values.** -/
inductive Json where
  | null
  | bool (value : Bool)
  /-- A number written without fraction and exponent. -/
  | integer (value : Int)
  /-- Any other number, as it was written. -/
  | decimal (literal : Text)
  | string (value : Text)
  | array (items : List Json)
  | object (fields : List (Text × Json))
deriving Repr, Inhabited

namespace Json

mutual

/-- **Whether two values are the same.** -/
def same : Json → Json → Bool
  | .null, .null => true
  | .bool a, .bool b => a == b
  | .integer a, .integer b => a == b
  | .decimal a, .decimal b => a == b
  | .string a, .string b => a == b
  | .array a, .array b => sameItems a b
  | .object a, .object b => sameFields a b
  | _, _ => false

def sameItems : List Json → List Json → Bool
  | [], [] => true
  | a :: as, b :: bs => same a b && sameItems as bs
  | _, _ => false

def sameFields : List (Text × Json) → List (Text × Json) → Bool
  | [], [] => true
  | (key, a) :: as, (key', b) :: bs => key == key' && same a b && sameFields as bs
  | _, _ => false

end

mutual

/-- Only a value itself is the same. -/
theorem same_iff : ∀ a b : Json, same a b = true ↔ a = b
  | .array a, .array b => by simp [same, sameItems_iff a b]
  | .object a, .object b => by simp [same, sameFields_iff a b]
  | .null, b | .bool _, b | .integer _, b | .decimal _, b | .string _, b => by
      cases b <;> simp [same]
  | .array _, .null | .array _, .bool _ | .array _, .integer _ | .array _, .decimal _
  | .array _, .string _ | .array _, .object _ => by simp [same]
  | .object _, .null | .object _, .bool _ | .object _, .integer _ | .object _, .decimal _
  | .object _, .string _ | .object _, .array _ => by simp [same]

theorem sameItems_iff : ∀ as bs : List Json, sameItems as bs = true ↔ as = bs
  | [], bs => by cases bs <;> simp [sameItems]
  | _ :: _, [] => by simp [sameItems]
  | a :: as, b :: bs => by simp [sameItems, same_iff a b, sameItems_iff as bs]

theorem sameFields_iff : ∀ as bs : List (Text × Json), sameFields as bs = true ↔ as = bs
  | [], bs => by cases bs <;> simp [sameFields]
  | _ :: _, [] => by simp [sameFields]
  | (key, a) :: as, (key', b) :: bs => by
      simp [sameFields, same_iff a b, sameFields_iff as bs]

end

instance : DecidableEq Json := fun a b => decidable_of_decidable_of_iff (same_iff a b)

end Json

end ScenarioScript
