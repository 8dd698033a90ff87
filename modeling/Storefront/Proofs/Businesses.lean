import Storefront.Proofs.Guarantees
import Storefront.Proofs.Readings
import Storefront.Remote.Tables
/-!
# Businesses whose items must not be shown

The standing of a vendor is read from the row of its business in a remote database. Rows have
columns of any form: one that the standing cannot be read from makes the lookup fail, and a vendor
whose lookup fails is not known. So a row that refuses a vendor keeps its items out of feeds exactly
if the row can be read.
-/

namespace Storefront

namespace VendorStatus

/-- A text names a status exactly if it is read as one. -/
theorem oneOf_eq_valid_iff {value : Json} {status : VendorStatus} :
    Reader.oneOf (all.map fun status => (status.name, status)) value = .valid status ↔
      value = .str status.name := by
  constructor
  · intro reads
    cases value with
    | str text =>
      cases named : (all.map fun status => (status.name, status)).lookup text with
      | none => simp [Reader.oneOf, named, Checked.fail] at reads
      | some other =>
        obtain ⟨before, after, entries, -⟩ := List.lookup_eq_some_iff.mp named
        have entry : (text, other) ∈ all.map fun status => (status.name, status) := by
          rw [entries]
          exact List.mem_append_right _ List.mem_cons_self
        obtain ⟨named', -, same⟩ := List.mem_map.mp entry
        cases same
        simp only [Reader.oneOf, named, Checked.valid.injEq] at reads
        rw [reads]
    | _ => cases reads
  · rintro rfl
    cases status <;> rfl

end VendorStatus

namespace Remote

variable {vendor : String} {row : Row} {standing : Standing}

/-- The columns of a business's row have forms that a standing is read from. -/
structure Readable (row : Row) : Prop where
  name : ∀ value, row.present? "name" = some value → ∃ text, value = .str text
  status : ∀ value, (row.get? "status").bind Json.given? = some value →
    ∃ status : VendorStatus, value = .str status.name
  successRate : ∀ value, row.present? "success_rate" = some value →
    ∃ rate, Reader.float value = .valid rate ∧ ¬ rate < 0.0 ∧ ¬ 100.0 < rate
  qualityScore : ∀ value, row.present? "quality_score" = some value →
    ∃ score, Reader.float value = .valid score

/-- A business's row says that its items must not be shown: the business is not active, or it is
given a status that is not a trusted one. -/
def Refuses (row : Row) : Prop :=
  row.get? "is_active" = some (.bool false) ∨
    ∃ value, (row.get? "status").bind Json.given? = some value ∧
      value ≠ .str "approved" ∧ value ≠ .str "verified"

/-- The record of a standing has all its fields. -/
theorem standingRow_get? (vendor : String) (row : Row) :
    (standingRow vendor row).get? "vendor_id" = some (idOf row vendor) ∧
    (standingRow vendor row).get? "name" = some ((row.get? "name").getD .null) ∧
    (standingRow vendor row).get? "is_active" = some (.bool (isActive row)) ∧
    (standingRow vendor row).get? "status" = some (columnOr row "status" .null) ∧
    (standingRow vendor row).get? "success_rate" = some ((row.get? "success_rate").getD .null) ∧
    (standingRow vendor row).get? "is_featured" =
      some (.bool ((row.get? "is_featured").any Json.isTruthy)) ∧
    (standingRow vendor row).get? "quality_score" =
      some ((row.get? "quality_score").getD .null) :=
  ⟨rfl, rfl, rfl, rfl, rfl, rfl, rfl⟩

/-- A column that may be null reads if its value does whenever there is one. -/
theorem column_reads_iff {α : Type} {read : Reader α} {record : Row} {name : String}
    (stored : record.get? name = some ((row.get? name).getD .null)) :
    (record.optional name read).Reads ↔
      ∀ value, row.present? name = some value → (read value).Reads := by
  rw [Row.optional_reads_iff stored]
  constructor
  · intro reads value present
    obtain ⟨same, given⟩ := Row.present?_eq_some_iff.mp present
    subst same
    exact reads given
  · intro reads given
    exact reads _ (Row.present?_eq_some_iff.mpr ⟨rfl, given⟩)

/-- A rate is read from a float that is a percentage. -/
theorem readRate_reads_iff {value : Json} :
    (Standing.readRate value).Reads ↔
      ∃ rate, Reader.float value = .valid rate ∧ ¬ rate < 0.0 ∧ ¬ 100.0 < rate := by
  cases read : Reader.float value with
  | invalid issues =>
    simp [Standing.readRate, Reader.satisfying, read, Checked.andThen, Checked.Reads]
  | valid rate =>
    by_cases low : rate < 0.0 <;> by_cases high : 100.0 < rate <;>
      simp [Standing.readRate, Reader.satisfying, read, Checked.andThen, Checked.fail,
        Checked.Reads, low, high]

/-- A status that counts as given is the status column, and no given status leaves it null. -/
theorem columnOr_status (row : Row) :
    ((row.get? "status").bind Json.given? = none ∧ columnOr row "status" .null = .null) ∨
      ∃ value, (row.get? "status").bind Json.given? = some value ∧
        columnOr row "status" .null = value ∧ value ≠ .null := by
  rw [columnOr]
  cases given : (row.get? "status").bind Json.given? with
  | none => exact .inl ⟨rfl, rfl⟩
  | some value =>
    refine .inr ⟨value, rfl, rfl, ?_⟩
    rintro rfl
    obtain ⟨held, -, counts⟩ := Option.bind_eq_some_iff.mp given
    unfold Json.given? at counts
    split at counts
    · next truthy =>
      cases counts
      cases truthy
    · cases counts

/-- A standing is read from a business's row exactly if its columns have forms that allow it. -/
theorem standing_reads_iff (vendor : String) (row : Row) :
    (Standing.read (standingRow vendor row)).Reads ↔ Readable row := by
  obtain ⟨id, name, active, status, rate, featured, quality⟩ := standingRow_get? vendor row
  -- The id is always a text and the two flags are always truth values.
  have named : ((standingRow vendor row).required "vendor_id" Reader.text).Reads := by
    rw [Row.required, id, idOf]
    cases row.get? "id" <;> exact ⟨_, rfl⟩
  have isActive : ((standingRow vendor row).withDefault "is_active" Reader.bool true).Reads := by
    rw [Row.withDefault, active]
    exact ⟨_, rfl⟩
  have isFeatured :
      ((standingRow vendor row).withDefault "is_featured" Reader.bool false).Reads := by
    rw [Row.withDefault, featured]
    exact ⟨_, rfl⟩
  have textual : ((standingRow vendor row).optional "name" Reader.text).Reads ↔
      ∀ value, row.present? "name" = some value → ∃ text, value = .str text := by
    simp only [column_reads_iff name, Reader.text_reads_iff]
  have listed : ((standingRow vendor row).optional "status" (Reader.oneOf
      (VendorStatus.all.map fun status => (status.name, status)))).Reads ↔
      ∀ value, (row.get? "status").bind Json.given? = some value →
        ∃ status : VendorStatus, value = .str status.name := by
    rw [Row.optional_reads_iff status]
    simp only [Checked.Reads, VendorStatus.oneOf_eq_valid_iff]
    rcases columnOr_status row with ⟨given, null⟩ | ⟨value, given, column, nonNull⟩
    · simp [given, null]
    · simp [given, column, nonNull]
  have rated : ((standingRow vendor row).optional "success_rate" Standing.readRate).Reads ↔
      ∀ value, row.present? "success_rate" = some value →
        ∃ rate, Reader.float value = .valid rate ∧ ¬ rate < 0.0 ∧ ¬ 100.0 < rate := by
    simp only [column_reads_iff rate, readRate_reads_iff]
  have scored : ((standingRow vendor row).optional "quality_score" Reader.float).Reads ↔
      ∀ value, row.present? "quality_score" = some value → (Reader.float value).Reads :=
    column_reads_iff quality
  rw [Standing.read]
  simp only [Checked.seq_reads_iff, Checked.map_reads_iff, named, isActive, isFeatured, true_and,
    and_true, textual, listed, rated, scored]
  constructor
  · rintro ⟨⟨⟨name, status⟩, rate⟩, quality⟩
    exact ⟨name, status, rate, quality⟩
  · rintro ⟨name, status, rate, quality⟩
    exact ⟨⟨⟨name, status⟩, rate⟩, quality⟩

/-- Only an explicit no makes a business inactive. -/
theorem isActive_eq_false_iff :
    isActive row = false ↔ row.get? "is_active" = some (.bool false) := by
  unfold isActive
  split <;> simp_all

/-- A standing that is read from a business's row says what the row says of the business. -/
theorem standing_of_read (reads : Standing.read (standingRow vendor row) = .valid standing) :
    standing.isActive = isActive row ∧
      ((row.get? "status").bind Json.given?) =
        standing.status.map fun status => .str status.name := by
  obtain ⟨-, -, active, status, -, -, -⟩ := standingRow_get? vendor row
  simp only [Standing.read, Checked.seq_eq_valid_iff, Checked.map_eq_valid_iff, Row.optional,
    Row.withDefault, active, status, Checked.under_eq_valid_iff] at reads
  -- The fields from the last one to the first; the status is the fourth and the flag the third.
  obtain ⟨_, _, ⟨_, _, ⟨_, _, ⟨_, held, ⟨_, _, ⟨_, _, ⟨_, _, rfl⟩, _, rfl⟩, flag, rfl⟩, given, rfl⟩,
    _, rfl⟩, _, rfl⟩, _, rfl⟩ := reads
  refine ⟨?active, ?status⟩
  case active =>
    cases flag
    rfl
  case status =>
    change _ = held.map fun status => Json.str status.name
    rcases columnOr_status row with ⟨absent, null⟩ | ⟨value, stored, column, nonNull⟩
    · rw [null] at given
      cases given
      exact absent
    · rw [column, Reader.nullable_of_ne_null nonNull] at given
      rcases read : Reader.oneOf (VendorStatus.all.map fun status => (status.name, status)) value
        with status | issues
      · rw [read] at given
        cases given
        rw [stored, VendorStatus.oneOf_eq_valid_iff.mp read]
        rfl
      · rw [read] at given
        cases given

/-- A business is gated by the standing that is read from its row exactly if the row refuses it. -/
theorem isGated_iff_refuses (reads : Standing.read (standingRow vendor row) = .valid standing) :
    standing.isGated = true ↔ Refuses row := by
  obtain ⟨active, status⟩ := standing_of_read reads
  have inactive : standing.isActive = false ↔ row.get? "is_active" = some (.bool false) := by
    rw [active, isActive_eq_false_iff]
  have untrusted : (∃ status, standing.status = some status ∧ status.isTrusted = false) ↔
      ∃ value, (row.get? "status").bind Json.given? = some value ∧
        value ≠ .str "approved" ∧ value ≠ .str "verified" := by
    rw [status]
    cases standing.status with
    | none => simp
    | some status => cases status <;> simp [VendorStatus.isTrusted, VendorStatus.name]
  rw [Refuses, ← inactive, ← untrusted, Standing.isGated, Bool.or_eq_true]
  refine or_congr (by simp) ?_
  cases standing.status <;> simp

section Lookups

open Call (Leaves)
open FanOut (Ending answered)

variable {database : Query → Answer} {hangs : String → Bool}

/-- The query for the business of a vendor. -/
def businessQuery (vendor : String) : Query :=
  singleQuery businessTable businessColumns "id" (.str vendor)

/-- The lookups against a database that answers every query, of vendors whose lookups may hang. -/
def lookUpIn (database : Query → Answer) (hangs : String → Bool) (vendor : String) :
    StateM Unit LookupOutcome :=
  if hangs vendor then pure .hanging
  else pure ((lookUp vendor).run (.start [database (businessQuery vendor)])).1

/-- The standings gathered for vendors from a database. -/
def standings (database : Query → Answer) (hangs : String → Bool) (budget : FanOut.Budget)
    (vendors : List String) : TrustMap :=
  ((FanOut.gather (some (lookUpIn database hangs)) budget vendors).run ()).1

/-- The standing of a vendor that a database answers with: that of the first row, if it reads. -/
def standingIn (database : Query → Answer) (vendor : String) : Option Standing :=
  match database (businessQuery vendor) with
  | .rows (first :: _) =>
    match Standing.read (standingRow vendor first.entries) with
    | .valid standing => some standing
    | .invalid _ => none
  | _ => none

/-- A lookup sends the query for the business of its vendor, and says what the answer to it tells of
the vendor. -/
theorem lookUp_run (database : Query → Answer) (vendor : String) :
    FanOut.Reports (standingIn database vendor)
        ((lookUp vendor).run (.start [database (businessQuery vendor)])).1 ∧
      ((lookUp vendor).run (.start [database (businessQuery vendor)])).2.queries =
        [businessQuery vendor] := by
  have found : (findStanding vendor).outcome (.start [database (businessQuery vendor)]) =
      (match database (businessQuery vendor) with
        | .rows rows =>
          firstAs (fun row => Standing.read (standingRow vendor row.entries)) rows
        | .failure reason => .error (.unavailable reason),
        ⟨[], [businessQuery vendor]⟩) := by
    rw [findStanding, Call.outcome_bind]
    cases database (businessQuery vendor) <;> rfl
  unfold Call.outcome at found
  rw [lookUp, StateT.run_bind, found, standingIn]
  rcases database (businessQuery vendor) with (_ | ⟨first, more⟩) | reason
  · exact ⟨.inl rfl, rfl⟩
  · simp only [firstAs]
    rcases Standing.read (standingRow vendor first.entries) with standing | issues
    · exact ⟨rfl, rfl⟩
    · exact ⟨.inr rfl, rfl⟩
  · exact ⟨.inr rfl, rfl⟩

/-- A lookup against a database hangs, or says what the database knows of the vendor. -/
theorem lookUpIn_ends (database : Query → Answer) (hangs : String → Bool) (vendor : String) :
    Leaves (fun _ => True) (lookUpIn database hangs vendor)
      (Ending (hangs vendor) (standingIn database vendor)) := by
  unfold lookUpIn Ending
  by_cases hanging : hangs vendor = true
  · rw [if_pos hanging]
    simp only [hanging, if_true]
    exact .pure rfl
  · rw [if_neg hanging]
    simp only [hanging]
    exact .pure (lookUp_run database vendor).1

/-- A vendor that is answered in time has in the gathered standings what the database knows. -/
theorem lookup_standings {budget : FanOut.Budget} {vendors : List String}
    (inTime : vendor ∈ answered hangs budget vendors) :
    (standings database hangs budget vendors).lookup vendor = standingIn database vendor := by
  have gathered : standings database hangs budget vendors =
      FanOut.known (standingIn database) (answered hangs budget vendors) :=
    (FanOut.gather_answered (lookUpIn_ends database hangs) budget vendors () trivial).1
  rw [gathered, FanOut.lookup_known, if_pos inTime]

/-- A database that answers with a row for a vendor knows the standing that is read from it. -/
theorem standingIn_eq_some_iff {more : List Json}
    (answers : database (businessQuery vendor) = .rows (.obj row :: more)) :
    standingIn database vendor = some standing ↔
      Standing.read (standingRow vendor row) = .valid standing := by
  simp only [standingIn, answers, Json.entries]
  cases Standing.read (standingRow vendor row) <;> simp

end Lookups

open FanOut (answered)

/-- A vendor that is answered in time with a row of its business, whatever the row holds. The vendor
is gated exactly if the row can be read and refuses it; then no item of the vendor is kept, whatever
the candidates and the constraints. A row that cannot be read leaves the vendor unknown. -/
theorem refused_businesses_gated {database : Query → Answer} {hangs : String → Bool}
    {budget : FanOut.Budget} {vendors : List String} {more : List Json}
    (inTime : vendor ∈ answered hangs budget vendors)
    (answers : database (businessQuery vendor) = .rows (.obj row :: more)) :
    (∀ spec item, item.vendor = vendor →
      (Filter.dropReason? (standings database hangs budget vendors) spec item =
        .ok (some .vendorGating) ↔ Readable row ∧ Refuses row)) ∧
    (¬ Readable row → (standings database hangs budget vendors).lookup vendor = none) ∧
    (Readable row → Refuses row → ∀ spec items result,
      Filter.run (standings database hangs budget vendors) spec items = .ok result →
        ∀ item ∈ result.kept, item.vendor ≠ vendor) := by
  have known : (standings database hangs budget vendors).lookup vendor =
      standingIn database vendor := lookup_standings inTime
  have gated : ∀ item : Item, item.vendor = vendor →
      (Filter.failsVendorGating (standings database hangs budget vendors) item = true ↔
        Readable row ∧ Refuses row) := by
    rintro item rfl
    rw [Filter.failsVendorGating, known, ← standing_reads_iff item.vendor row]
    cases found : standingIn database item.vendor with
    | some standing =>
      have read := (standingIn_eq_some_iff answers).mp found
      have reads : (Standing.read (standingRow item.vendor row)).Reads := ⟨standing, read⟩
      rw [and_iff_right reads]
      exact isGated_iff_refuses read
    | none =>
      refine ⟨fun gated => (by cases gated), ?_⟩
      rintro ⟨⟨standing, read⟩, -⟩
      rw [(standingIn_eq_some_iff answers).mpr read] at found
      cases found
  refine ⟨fun spec item own => ?dropped, fun unreadable => ?unknown,
    fun readable refuses spec items result ran item kept own => ?kept⟩
  case dropped => rw [Filter.dropReason?_eq_vendorGating_iff, gated item own]
  case unknown =>
    rw [known, Option.eq_none_iff_forall_ne_some]
    intro standing found
    have read := (standingIn_eq_some_iff answers).mp found
    exact unreadable ((standing_reads_iff vendor row).mp ⟨standing, read⟩)
  case kept =>
    rw [Filter.kept_of_run ran] at kept
    have passed : Filter.failsVendorGating (standings database hangs budget vendors) item = false :=
      Except.ok.inj (Filter.keeps_iff.mp (List.mem_filter.mp kept).2 .vendorGating)
    rw [(gated item own).mpr ⟨readable, refuses⟩] at passed
    cases passed

section Sample

/-- The row of a business in a database. -/
def sampleRow (active : Bool) (status : String) (rate : Int) : Row :=
  [("id", .str "smith"), ("name", .str "Smith & Daughters"), ("is_active", .bool active),
    ("status", .str status), ("success_rate", .int rate)]

/-- A database that has one row and answers every query with it. -/
def sampleDatabase (row : Row) : Query → Answer := fun _ => .rows [.obj row]

/-- The standings of the sample vendor from such a database. -/
def sampleStandings (row : Row) : TrustMap :=
  standings (sampleDatabase row) (fun _ => false) Memory.sampleLookups ["smith"]

/-- A ring of the sample vendor. -/
def sampleRing : Item := Memory.sampleItem "ring" "smith" true (.accessory none)

/-- The ids that the filters keep of the sample ring, with the standings from a row. -/
def sampleKept (row : Row) : Option (List String) :=
  (Filter.run (sampleStandings row) .plain [sampleRing]).toOption.map (·.kept.map (·.id))

/-- A row on its face refuses a business: it is not active, or has some status that is not a trusted
one. -/
def RefusesOnFace (row : Row) : Prop :=
  row.get? "is_active" = some (.bool false) ∨
    ∃ value, row.present? "status" = some value ∧
      value ≠ .str "approved" ∧ value ≠ .str "verified"

/-- An inactive business with readable figures keeps its ring out of feeds. -/
theorem refused_businesses_gated_sample :
    "smith" ∈ answered (fun _ => false) Memory.sampleLookups ["smith"] ∧
    Readable (sampleRow false "approved" 90) ∧ Refuses (sampleRow false "approved" 90) ∧
    sampleKept (sampleRow false "approved" 90) = some [] ∧
    Filter.dropReason? (sampleStandings (sampleRow false "approved" 90)) .plain sampleRing =
      .ok (some .vendorGating) := by
  have inTime : "smith" ∈ answered (fun _ => false) Memory.sampleLookups ["smith"] := by
    decide +kernel
  have readable : Readable (sampleRow false "approved" 90) := by
    refine (standing_reads_iff "smith" _).mp ?_
    exact ⟨⟨"smith", some "Smith & Daughters", false, some .approved, some 90.0, false, none⟩, rfl⟩
  have refuses : Refuses (sampleRow false "approved" 90) := .inl rfl
  have answers : sampleDatabase (sampleRow false "approved" 90) (businessQuery "smith") =
      .rows [.obj (sampleRow false "approved" 90)] := rfl
  have gated := (refused_businesses_gated inTime answers).1 .plain sampleRing rfl
  exact ⟨inTime, readable, refuses, by decide +kernel, gated.mpr ⟨readable, refuses⟩⟩

/-- Rows that refuse the vendor on their face, and all the same its ring is kept: the success rate
is no percentage, the status is not a known one, or the status is empty. -/
theorem unread_businesses_kept :
    "smith" ∈ answered (fun _ => false) Memory.sampleLookups ["smith"] ∧
    (RefusesOnFace (sampleRow false "approved" 150) ∧
      sampleKept (sampleRow false "approved" 150) = some ["ring"]) ∧
    (RefusesOnFace (sampleRow true "suspended" 90) ∧
      sampleKept (sampleRow true "suspended" 90) = some ["ring"]) ∧
    RefusesOnFace (sampleRow true "" 90) ∧ sampleKept (sampleRow true "" 90) = some ["ring"] := by
  refine ⟨by decide +kernel, ⟨.inl rfl, by decide +kernel⟩, ⟨?suspended, by decide +kernel⟩,
    ?empty, by decide +kernel⟩
  case suspended => exact .inr ⟨.str "suspended", rfl, by simp, by simp⟩
  case empty => exact .inr ⟨.str "", rfl, by simp, by simp⟩

end Sample

end Remote

end Storefront
