import Storefront.Record.Field
/-!
# When records read

A record reads as a value exactly if every field does. The lemmas here take the reading of a record
apart into the readings of its fields: a field with a default reads if it is absent or its value
does, and a field that may be null also if it is.
-/

namespace Storefront

variable {α β : Type}

namespace Checked

/-- A reading applied to another one gives a value exactly if both do. -/
theorem seq_eq_valid_iff {f : Checked (α → β)} {x : Checked α} {result : β} :
    f <*> x = .valid result ↔ ∃ g a, f = .valid g ∧ x = .valid a ∧ g a = result := by
  change both (fun g a => g a) f x = .valid result ↔ _
  cases f <;> cases x <;> simp [both]

/-- A mapped reading gives a value exactly if the reading does. -/
theorem map_eq_valid_iff {g : α → β} {x : Checked α} {result : β} :
    g <$> x = .valid result ↔ ∃ a, x = .valid a ∧ g a = result := by
  change both (fun g a => g a) (.valid g) x = .valid result ↔ _
  cases x <;> simp [both]

/-- A part reads as a value exactly if it does so by itself. -/
theorem under_eq_valid_iff {step : Step} {x : Checked α} {result : α} :
    x.under step = .valid result ↔ x = .valid result := by
  cases x <;> simp [under]

/-- The reading gives a value. -/
def Reads (reading : Checked α) : Prop := ∃ value, reading = .valid value

/-- A reading applied to another one reads exactly if both do. -/
theorem seq_reads_iff {f : Checked (α → β)} {x : Checked α} :
    (f <*> x).Reads ↔ f.Reads ∧ x.Reads := by
  constructor
  · rintro ⟨result, reads⟩
    obtain ⟨g, a, first, second, -⟩ := seq_eq_valid_iff.mp reads
    exact ⟨⟨g, first⟩, ⟨a, second⟩⟩
  · rintro ⟨⟨g, first⟩, ⟨a, second⟩⟩
    exact ⟨g a, seq_eq_valid_iff.mpr ⟨g, a, first, second, rfl⟩⟩

/-- A mapped reading reads exactly if the reading does. -/
theorem map_reads_iff {g : α → β} {x : Checked α} : (g <$> x).Reads ↔ x.Reads := by
  constructor
  · rintro ⟨result, reads⟩
    obtain ⟨a, given, -⟩ := map_eq_valid_iff.mp reads
    exact ⟨a, given⟩
  · rintro ⟨a, given⟩
    exact ⟨g a, map_eq_valid_iff.mpr ⟨a, given, rfl⟩⟩

end Checked

section Fields

variable {read : Reader α} {row : Row} {name : String} {value : Json}

/-- Only text reads as text. -/
theorem Reader.text_reads_iff : (Reader.text value).Reads ↔ ∃ text, value = .str text := by
  cases value <;> simp [text, Checked.Reads, Checked.fail]

/-- A value that is not null is read by the reader of the values. -/
theorem Reader.nullable_of_ne_null (given : value ≠ .null) :
    Reader.nullable read value = (read value).map some := by
  cases value with
  | null => exact absurd rfl given
  | _ => rfl

/-- A value that may be null reads if it is null or reads by itself. -/
theorem Reader.nullable_reads_iff :
    (Reader.nullable read value).Reads ↔ (value ≠ .null → (read value).Reads) := by
  by_cases given : value = .null
  · subst given
    exact ⟨fun _ given => absurd rfl given, fun _ => ⟨none, rfl⟩⟩
  · have mapped : ((read value).map some).Reads ↔ (read value).Reads := by
      cases read value <;> simp [Checked.map, Checked.Reads]
    rw [nullable_of_ne_null given, mapped]
    exact ⟨fun reads _ => reads, fun reads => reads given⟩

/-- A stored field that may be null reads if its value is null or reads. -/
theorem Row.optional_reads_iff (stored : row.get? name = some value) :
    (row.optional name read).Reads ↔ (value ≠ .null → (read value).Reads) := by
  rw [← Reader.nullable_reads_iff, optional, withDefault, stored]
  exact exists_congr fun _ => Checked.under_eq_valid_iff

/-- A value of a row is present if it is stored and not null. -/
theorem Row.present?_eq_some_iff :
    row.present? name = some value ↔ (row.get? name).getD .null = value ∧ value ≠ .null := by
  unfold present?
  split
  · next stored =>
    rw [stored]
    simp [eq_comm]
  · next stored =>
    cases found : row.get? name with
    | none => simp [eq_comm]
    | some held =>
      have given : held ≠ .null := by
        rintro rfl
        exact stored found
      simp only [Option.some.injEq, Option.getD_some]
      exact ⟨fun same => ⟨same, same ▸ given⟩, fun same => same.1⟩

/-- What is stored under a key is found under it. -/
theorem Row.get?_put (row : Row) (key : String) (value : Json) :
    (row.put key value).get? key = some value := by
  induction row with
  | nil => simp [put, get?]
  | cons entry rest ih =>
    unfold put
    by_cases same : entry.1 = key
    · simp [same, get?]
    · rw [if_neg same, get?, List.lookup_cons, beq_false_of_ne (Ne.symm same)]
      exact ih

/-- Storing a value changes nothing under another key. -/
theorem Row.get?_put_of_ne (row : Row) {key : String} (value : Json) (other : name ≠ key) :
    (row.put key value).get? name = row.get? name := by
  induction row with
  | nil => simp [put, get?, List.lookup_cons, beq_false_of_ne other]
  | cons entry rest ih =>
    obtain ⟨stored, held⟩ := entry
    unfold put
    by_cases same : stored = key
    · subst same
      simp [get?, List.lookup_cons, beq_false_of_ne other]
    · rw [if_neg same]
      simp only [get?, List.lookup_cons] at ih ⊢
      rw [ih]

/-- A merged row holds what the changes put last under a key, and else what it held before. -/
theorem Row.get?_merge (row changes : Row) (name : String) :
    (row.merge changes).get? name = ((Row.ofEntries changes).get? name).or (row.get? name) := by
  induction changes generalizing row with
  | nil => rfl
  | cons first rest ih =>
    have onto (held : Row) : held.merge (first :: rest) = (held.put first.1 first.2).merge rest := rfl
    have stored : (row.put first.1 first.2).get? name =
        ((put [] first.1 first.2).get? name).or (row.get? name) := by
      by_cases same : name = first.1
      · rw [same, get?_put, get?_put, Option.some_or]
      · rw [get?_put_of_ne _ _ same, get?_put_of_ne _ _ same]
        rfl
    rw [ofEntries, onto, onto, ih, ih (put [] first.1 first.2), stored, Option.or_assoc]

/-- A key holds nothing in a row that is made of entries exactly if no entry has it. -/
theorem Row.get?_ofEntries_eq_none_iff {entries : Row} :
    (Row.ofEntries entries).get? name = none ↔ name ∉ entries.map Prod.fst := by
  induction entries with
  | nil => simp [ofEntries, merge, get?]
  | cons first rest ih =>
    have onto : ofEntries (first :: rest) = (put [] first.1 first.2).merge rest := rfl
    rw [onto, get?_merge, Option.or_eq_none_iff, ih, List.map_cons, List.mem_cons, not_or, and_comm]
    refine and_congr_left fun _ => ?_
    by_cases same : name = first.1
    · simp [same, get?_put]
    · rw [get?_put_of_ne _ _ same]
      simp [same, get?]

/-- Changes put over a row are read over what the row itself reads as. -/
theorem Row.withDefault_merge {α : Type} {read : Reader α} {default held : α} {row changes : Row}
    (reads : row.withDefault name read default = .valid held) :
    (row.merge changes).withDefault name read default =
      (Row.ofEntries changes).withDefault name read held := by
  rw [withDefault, get?_merge]
  cases changed : (ofEntries changes).get? name with
  | none =>
    rw [Option.none_or, ← withDefault, reads, withDefault, changed]
  | some value => rw [withDefault, changed, Option.some_or]

/-- A required field that no change names is read as the row itself reads. -/
theorem Row.required_merge {α : Type} {read : Reader α} {row changes : Row}
    (unnamed : name ∉ changes.map Prod.fst) :
    (row.merge changes).required name read = row.required name read := by
  rw [required, get?_merge, Row.get?_ofEntries_eq_none_iff.mpr unnamed, Option.none_or, required]

end Fields

end Storefront
