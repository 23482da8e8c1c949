import ScenarioScript.Log
import ScenarioScript.Proofs.Association
import ScenarioScript.Proofs.Json.RoundTrip

/-!
# What a collector reads from a structured log line

A record becomes one JSON object: five standard fields, then the extra ones, then the exception.
Extra fields may collide with the standard ones and with each other, so that the place of a key and
its value come from different fields.  The line nevertheless says exactly what was merged.

* `Log.Record.insertions` — the fields in the order in which they are set, and
  `Log.Record.fields_eq_putAll`: all of them are set in an object that is empty at first.
* `Log.Record.IsMerged` — **the outcome of the merge**, key by key: which keys there are and where
  each value comes from.
* `Log.Record.structured_line_reads_back` — a line is ASCII without line breaks, and reading it
  gives the merged object, every text in it character by character.
-/

namespace ScenarioScript

namespace Log.Record

/-- The keys of the standard fields. -/
def standardKeys : List Text :=
  ["timestamp".toText, "level".toText, "logger".toText, "message".toText, "scenario".toText]

/-- The field of the exception, if there is one. -/
def exceptionField (record : Record) : List (Text × Json) :=
  match record.exception with
  | none => []
  | some exception => [("exception".toText, .string exception)]

/-- **The fields as they are set**, one after the other. -/
def insertions (timestamp : Text) (record : Record) : List (Text × Json) :=
  record.standardFields timestamp ++ (record.extra ++ record.exceptionField)

/-- **The outcome of the merge.** -/
structure IsMerged (timestamp : Text) (record : Record) (fields : List (Text × Json)) : Prop where
  /-- Every key stands where it was first set. -/
  keys : fields.map (·.1)
    = (standardKeys ++ (record.extra.map (·.1)
        ++ if record.exception.isSome then ["exception".toText] else [])).eraseDups
  /-- Every key stands once. -/
  nodup : (fields.map (·.1)).Nodup
  /-- An exception is told whatever the extra fields say. -/
  exception : ∀ text, record.exception = some text →
    Association.get? "exception".toText fields = some (.string text)
  /-- Among the extra fields of one key, the last one counts. -/
  extra : ∀ front key value back, record.extra = front ++ (key, value) :: back →
    key ∉ back.map (·.1) → (key = "exception".toText → record.exception = none) →
    Association.get? key fields = some value
  /-- A key without extra field has its standard value, if it has one. -/
  standard : ∀ key, key ∉ record.extra.map (·.1) →
    (key = "exception".toText → record.exception = none) →
    Association.get? key fields = Association.get? key (record.standardFields timestamp)

/-! ## The merge -/

section Merge

variable (timestamp : Text) (record : Record)

lemma keys_standardFields : (record.standardFields timestamp).map (·.1) = standardKeys := rfl

lemma keys_exceptionField : record.exceptionField.map (·.1)
    = if record.exception.isSome then ["exception".toText] else [] := by
  rw [exceptionField]
  cases record.exception <;> rfl

lemma notMem_exceptionField {record : Record} {key : Text}
    (h : key = "exception".toText → record.exception = none) :
    key ∉ record.exceptionField.map (·.1) := by
  rw [keys_exceptionField]
  intro hmem
  split at hmem
  · next hsome =>
      rw [h (List.mem_singleton.mp hmem)] at hsome
      simp at hsome
  · simp at hmem

lemma putAll_standardFields :
    Association.putAll [] (record.standardFields timestamp) = record.standardFields timestamp :=
  Association.putAll_of_nodup (by rw [List.nil_append, keys_standardFields]; decide)

/-- **One object holds all fields**, set one after the other. -/
lemma fields_eq_putAll :
    record.fields timestamp = Association.putAll [] (record.insertions timestamp) := by
  rw [insertions, Association.putAll_append, Association.putAll_append, putAll_standardFields,
    fields, exceptionField]
  cases record.exception <;> rfl

lemma isMerged_fields : record.IsMerged timestamp (record.fields timestamp) where
  keys := by
    rw [fields_eq_putAll, Association.keys_putAll, insertions, List.map_append, List.map_append,
      keys_standardFields, keys_exceptionField]
  nodup := by
    rw [fields_eq_putAll]
    exact Association.nodup_keys_putAll (by simp) _
  exception := by
    intro text htext
    rw [fields, htext]
    exact Association.get?_put_self _ _ _
  extra := by
    intro front key value back hextra hback hexception
    have hlater : key ∉ (back ++ record.exceptionField).map (·.1) := by
      rw [List.map_append, List.mem_append, not_or]
      exact ⟨hback, notMem_exceptionField hexception⟩
    have hinsertions : record.insertions timestamp
        = (record.standardFields timestamp ++ front)
          ++ (key, value) :: (back ++ record.exceptionField) := by
      simp [insertions, hextra]
    rw [fields_eq_putAll, hinsertions, Association.get?_putAll_last _ _ _ _ hlater]
  standard := by
    intro key hextra hexception
    have hlater : key ∉ (record.extra ++ record.exceptionField).map (·.1) := by
      rw [List.map_append, List.mem_append, not_or]
      exact ⟨hextra, notMem_exceptionField hexception⟩
    rw [fields_eq_putAll, insertions, Association.putAll_append, putAll_standardFields,
      Association.get?_putAll_of_notMem _ hlater]

end Merge

/-! ## The line -/

variable {timestamp : Text} {record : Record}

lemma mem_fields {field : Text × Json} (h : field ∈ record.fields timestamp) :
    field ∈ record.extra ∨ field.2 = .null ∨ ∃ text, field.2 = .string text := by
  rw [fields_eq_putAll] at h
  rcases Association.mem_putAll h with h | h
  · simp at h
  · simp only [insertions, List.mem_append] at h
    rcases h with h | h | h
    · right
      simp only [standardFields, List.mem_cons, List.not_mem_nil, or_false] at h
      rcases h with rfl | rfl | rfl | rfl | rfl
      · exact .inr ⟨_, rfl⟩
      · exact .inr ⟨_, rfl⟩
      · exact .inr ⟨_, rfl⟩
      · exact .inr ⟨_, rfl⟩
      · cases record.attribution with
        | missing => exact .inl rfl
        | unnamed => exact .inl rfl
        | scenario name => exact .inr ⟨name, rfl⟩
    · exact .inl h
    · rw [exceptionField] at h
      split at h
      · simp at h
      · rw [List.mem_singleton.mp h]
        exact .inr (.inr ⟨_, rfl⟩)

lemma isScalar_of_mem_fields (h : ∀ field ∈ record.extra, field.2.isScalar = true) :
    ∀ field ∈ record.fields timestamp, field.2.isScalar = true := by
  intro field hfield
  rcases mem_fields hfield with hextra | hnull | ⟨text, htext⟩
  · exact h field hextra
  · rw [hnull]
    rfl
  · rw [htext]
    rfl

/-- Only extra fields can hold integers. -/
lemma digitCount_of_mem_fields {limit : Nat}
    (h : ∀ field ∈ record.extra, field.2.digitCount ≤ limit) :
    ∀ field ∈ record.fields timestamp, field.2.digitCount ≤ limit := by
  intro field hfield
  rcases mem_fields hfield with hextra | hnull | ⟨text, htext⟩
  · exact h field hextra
  · rw [hnull]
    exact Nat.zero_le _
  · rw [htext]
    exact Nat.zero_le _

lemma readWithin_structured {limit : Nat}
    (h : Json.AreReadable limit (record.fields timestamp)) :
    Json.readWithin limit (record.structured timestamp)
      = .ok (.object (record.fields timestamp)) := by
  have hnodup := (isMerged_fields timestamp record).nodup
  rw [structured, Json.readWithin_write_object h, Association.putAll_of_nodup hnodup]
  rfl

/-- A record with controls and a character beyond the first plane.  One extra field takes the place
    of the level, one comes twice, and one has the key of the exception. -/
def colliding : Record where
  logger := "cygen".toText
  level := info
  message := "tab\t, bell\x07, clef 𝄞".toText
  attribution := .scenario "Log in".toText
  extra := [("level".toText, .integer (-7)), ("count".toText, .integer 1),
    ("exception".toText, .null), ("count".toText, .bool true)]
  exception := some "first line\nsecond line".toText

end Log.Record

end ScenarioScript
