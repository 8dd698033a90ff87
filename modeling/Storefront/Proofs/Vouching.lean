import Storefront.Feed.Filter
import Storefront.Integrity
import Storefront.Proofs.Calls
import Storefront.Proofs.Sequences
/-!
# What the vendor check counts

A check looks up the first different vendors of a catalog, one after the other, whatever a lookup
finds and however it fails. Each vendor is counted at most once: as invalid if no standing was
found, and as inactive if the standing is not good. Good standing asks for more than the gate of
the feeds does: a vendor without a status passes the gate and is counted nevertheless, and that is
the only difference. So no vendor that the gate holds back is missing from the count.
-/

namespace Storefront.Integrity

variable {σ : Type}

/-- A lookup that was made: the vendor and how it ended. -/
abbrev Lookup := String × LookupOutcome

/-- Whether a lookup counts as invalid: no standing was found. -/
def isInvalid (lookup : Lookup) : Bool :=
  match lookup.2 with
  | .found _ => false
  | _ => true

/-- Whether a lookup counts as inactive: a standing was found that is not good. -/
def isInactive (lookup : Lookup) : Bool :=
  match lookup.2 with
  | .found standing => !isGood standing
  | _ => false

/-- Look up vendors one after the other, and note how the lookups end. -/
def lookedUp (lookUp : String → StateM σ LookupOutcome) (vendors : List String) :
    StateM σ (List Lookup) :=
  vendors.mapM fun vendor => do
    let outcome ← lookUp vendor
    pure (vendor, outcome)

section Standings

variable {standing : Standing} {trust : TrustMap} {item : Item}

/-- A standing is good if it passes the gate and has a status. -/
theorem isGood_eq (standing : Standing) :
    isGood standing = (!standing.isGated && standing.status.isSome) := by
  rw [isGood, Standing.isGated]
  cases standing.isActive <;> cases standing.status <;> simp

/-- The filters hold an item back if the known standing of its vendor is gated. -/
theorem failsVendorGating_of_lookup (known : trust.lookup item.vendor = some standing) :
    Filter.failsVendorGating trust item = standing.isGated := by
  rw [Filter.failsVendorGating, known]

/-- What was found of a vendor is counted as inactive if the filters hold the vendor's items back on
the strength of it, or if it has no status. -/
theorem isInactive_iff {vendor : String} (known : trust.lookup item.vendor = some standing) :
    isInactive (vendor, .found standing) = true ↔
      Filter.failsVendorGating trust item = true ∨ standing.status = none := by
  have counted : isInactive (vendor, .found standing) = !isGood standing := rfl
  rw [counted, isGood_eq, failsVendorGating_of_lookup known]
  cases standing.isGated <;> simp

/-- A vendor that the filters let through is active. -/
theorem isActive_of_passes (known : trust.lookup item.vendor = some standing)
    (passes : Filter.failsVendorGating trust item = false) : standing.isActive = true := by
  rw [failsVendorGating_of_lookup known, Standing.isGated, Bool.or_eq_false_iff,
    Bool.not_eq_false'] at passes
  exact passes.1

/-- No lookup is counted twice. -/
theorem countP_invalid_add_inactive_le (lookups : List Lookup) :
    lookups.countP isInvalid + lookups.countP isInactive ≤ lookups.length := by
  rw [List.length_eq_countP_add_countP isInvalid]
  refine Nat.add_le_add_left (List.countP_mono_left fun lookup _ inactive => ?_) _
  obtain ⟨vendor, outcome⟩ := lookup
  cases outcome with
  | found standing => simp [isInvalid]
  | unknown => cases inactive
  | failed => cases inactive
  | hanging => cases inactive

end Standings

section Counting

/-- Looking up one more vendor first. -/
theorem lookedUp_cons (lookUp : String → StateM σ LookupOutcome) (vendor : String)
    (rest : List String) (state : σ) :
    (lookedUp lookUp (vendor :: rest)).run state =
      (((vendor, ((lookUp vendor).run state).1) ::
          ((lookedUp lookUp rest).run ((lookUp vendor).run state).2).1),
        ((lookedUp lookUp rest).run ((lookUp vendor).run state).2).2) := by
  rw [lookedUp, List.mapM_cons]
  rfl

/-- Every vendor is looked up, in order. -/
theorem vendors_lookedUp (lookUp : String → StateM σ LookupOutcome) (vendors : List String) :
    ∀ state, (((lookedUp lookUp vendors).run state).1).map Prod.fst = vendors := by
  induction vendors with
  | nil => exact fun _ => rfl
  | cons vendor rest ih =>
    intro state
    rw [lookedUp_cons, List.map_cons, ih]

/-- A check of one more vendor looks it up first and counts how the lookup ends. -/
theorem check_cons (lookUp : String → StateM σ LookupOutcome) (vendor : String)
    (rest : List String) (state : σ) :
    (check lookUp (vendor :: rest)).run state =
      ((((check lookUp rest).run ((lookUp vendor).run state).2).1.1 +
            (if isInvalid (vendor, ((lookUp vendor).run state).1) then 1 else 0),
          ((check lookUp rest).run ((lookUp vendor).run state).2).1.2 +
            (if isInactive (vendor, ((lookUp vendor).run state).1) then 1 else 0)),
        ((check lookUp rest).run ((lookUp vendor).run state).2).2) := by
  rw [check, StateT.run_bind]
  rcases (lookUp vendor).run state with ⟨outcome, next⟩
  change StateT.run (check lookUp rest >>= _) next = _
  cases outcome with
  | found standing =>
    cases good : isGood standing <;>
      simp only [isInvalid, isInactive, good, StateT.run_bind] <;> rfl
  | unknown => rfl
  | failed => rfl
  | hanging => rfl

/-- A check makes the lookups and counts how they ended. -/
theorem check_run (lookUp : String → StateM σ LookupOutcome) (vendors : List String) :
    ∀ state, (check lookUp vendors).run state =
      ((((lookedUp lookUp vendors).run state).1.countP isInvalid,
          ((lookedUp lookUp vendors).run state).1.countP isInactive),
        ((lookedUp lookUp vendors).run state).2) := by
  induction vendors with
  | nil => exact fun _ => rfl
  | cons vendor rest ih =>
    intro state
    rw [lookedUp_cons, check_cons, ih, List.countP_cons, List.countP_cons]

end Counting

/-- How many different vendors with a name some items have. -/
def vendorCount (items : List Item) : Nat := ((items.map (·.vendor)).toFinset.erase "").card

/-- The vendors to check are the different ones with a name. -/
theorem length_vendorsOf (items : List Item) : (vendorsOf items).length = vendorCount items := by
  have named : ((items.map (·.vendor)).filter (! ·.isEmpty)).toFinset =
      (items.map (·.vendor)).toFinset.erase "" := by
    ext vendor
    simp [and_comm]
  exact (Sequence.distinctCount_eq_card _).trans (congrArg Finset.card named)

/-- The lookups of a check: of the first different vendors of some items, up to a number. Without a
service every one of them fails. -/
def lookups (service : Option (String → StateM σ LookupOutcome)) (sample : Int)
    (items : List Item) : StateM σ (List Lookup) :=
  lookedUp (service.getD fun _ => pure .failed) (Sequence.cut sample (vendorsOf items))

/-- What a check reports of the lookups it made, next to what the gate of the feeds makes of the
standings that were found. -/
structure CoversGate (sample : Int) (items : List Item) (made : List Lookup)
    (issues : VendorIssues) : Prop where
  vendors : made.map Prod.fst = (vendorsOf items).take sample.toNat
  distinct : (made.map Prod.fst).Nodup
  total : issues.total = vendorCount items
  checked : (issues.checked : Int) = min sample (vendorCount items)
  invalid : issues.invalid = (made.filter isInvalid).length
  inactive : issues.inactive = (made.filter isInactive).length
  within : issues.invalid + issues.inactive ≤ issues.checked
  /-- A vendor whose items the filters hold back is counted as inactive. -/
  rejected : ∀ vendor standing, (vendor, .found standing) ∈ made →
    ∀ (trust : TrustMap) (item : Item), trust.lookup item.vendor = some standing →
      Filter.failsVendorGating trust item = true →
        (vendor, .found standing) ∈ made.filter isInactive
  /-- A vendor that is counted as inactive was found, and if the filters let its items through, then
  it is active and has no status. -/
  admitted : ∀ lookup ∈ made.filter isInactive, ∃ standing, lookup.2 = .found standing ∧
    ∀ (trust : TrustMap) (item : Item), trust.lookup item.vendor = some standing →
      Filter.failsVendorGating trust item = false →
        standing.isActive = true ∧ standing.status = none

/-- The lookups of a check and the counts of them cover the gate. -/
theorem covers_made {sample : Int} (nonneg : 0 ≤ sample) {items : List Item} {made : List Lookup}
    (vendors : made.map Prod.fst = (vendorsOf items).take sample.toNat) :
    CoversGate sample items made
      ⟨(vendorsOf items).length, made.length, made.countP isInvalid, made.countP isInactive⟩ where
  vendors := vendors
  distinct := vendors ▸ (Sequence.firsts_nodup _).sublist (List.take_sublist _ _)
  total := length_vendorsOf items
  checked := by
    have count := congrArg List.length vendors
    rw [List.length_map, List.length_take, length_vendorsOf] at count
    show (made.length : Int) = _
    omega
  invalid := List.countP_eq_length_filter
  inactive := List.countP_eq_length_filter
  within := countP_invalid_add_inactive_le made
  rejected := by
    intro vendor standing member trust item known fails
    exact List.mem_filter.mpr ⟨member, (isInactive_iff known).mpr (.inl fails)⟩
  admitted := by
    rintro ⟨vendor, outcome⟩ counted
    have inactive := (List.mem_filter.mp counted).2
    cases outcome with
    | found standing =>
      refine ⟨standing, rfl, fun trust item known passes => ?_⟩
      have either := (isInactive_iff known).mp inactive
      rw [passes] at either
      exact ⟨isActive_of_passes known passes, either.resolve_left Bool.false_ne_true⟩
    | unknown => cases inactive
    | failed => cases inactive
    | hanging => cases inactive

/-- A check makes its lookups and reports on them. -/
theorem checkVendors_run (service : Option (String → StateM σ LookupOutcome)) (sample : Int)
    (items : List Item) (state : σ) :
    (checkVendors service sample items).run state =
      (⟨(vendorsOf items).length, ((lookups service sample items).run state).1.length,
          ((lookups service sample items).run state).1.countP isInvalid,
          ((lookups service sample items).run state).1.countP isInactive⟩,
        ((lookups service sample items).run state).2) := by
  have length : ((lookups service sample items).run state).1.length =
      (Sequence.cut sample (vendorsOf items)).length := by
    have vendors := vendors_lookedUp (service.getD fun _ => pure .failed)
      (Sequence.cut sample (vendorsOf items)) state
    rw [← vendors, List.length_map]
    rfl
  rw [checkVendors, length, StateT.run_bind, check_run]
  rfl

/-- A report lists the catalog twice and then checks the vendors of the second list. -/
theorem report_outcome {world : Collaborators σ} {before middle state : σ}
    {listed items : List Item}
    (lists : (world.listItems .everything).outcome before = (.ok listed, middle))
    (listsAgain : (world.listItems .everything).outcome middle = (.ok items, state))
    (sample : Int) :
    (report world sample).outcome before =
      (.ok ⟨(listed.filter lacksVector).length,
          ((checkVendors world.vendor sample items).run state).1⟩,
        ((checkVendors world.vendor sample items).run state).2) := by
  rw [report, Call.outcome_bind, lists]
  dsimp only
  rw [Call.outcome_bind, listsAgain]
  dsimp only
  rw [Call.outcome_bind, Call.outcome_ofState]
  rfl

/-- For the items of any catalog and a service of vendors of any kind, a check of at most so many
vendors makes its lookups, however they end, and what it reports of them covers the gate of the
feeds: every checked vendor whose items the filters would hold back is counted as inactive, and one
that is counted there although the filters would let its items through is active and has no status.
A report on a catalog that lists the items tells this. -/
theorem checkVendors_covers_gate (service : Option (String → StateM σ LookupOutcome))
    {sample : Int} (nonneg : 0 ≤ sample) (items : List Item) (state : σ) :
    ∃ made issues after,
      (lookups service sample items).run state = (made, after) ∧
      (checkVendors service sample items).run state = (issues, after) ∧
      CoversGate sample items made issues ∧
      ∀ (world : Collaborators σ) (before middle : σ) (listed : List Item),
        world.vendor = service →
        (world.listItems .everything).outcome before = (.ok listed, middle) →
        (world.listItems .everything).outcome middle = (.ok items, state) →
        (report world sample).outcome before =
          (.ok ⟨(listed.filter lacksVector).length, issues⟩, after) := by
  have checks := checkVendors_run service sample items state
  refine ⟨_, _, ((lookups service sample items).run state).2, rfl, checks, ?covers, ?reports⟩
  case covers =>
    refine covers_made nonneg ?_
    rw [← Sequence.cut_eq_take nonneg]
    exact vendors_lookedUp _ _ state
  case reports =>
    rintro world before middle listed rfl lists listsAgain
    rw [report_outcome lists listsAgain, checks]

section Sample

/-- An item of a vendor. -/
def sampleItem (vendor : String) : Item :=
  ⟨vendor ++ " shirt", "shirt", none, 20.0, "USD", vendor, none, [], [], none, none, none, none,
    .garment none none⟩

/-- A service that fails for barns, knows no looms, and has standings of three other vendors. -/
def sampleService (vendor : String) : StateM Nat LookupOutcome := fun count =>
  match vendor with
  | "barn" => (.failed, count + 1)
  | "loom" => (.unknown, count + 1)
  | "mill" => (.found ⟨vendor, none, false, some .approved, none, false, none⟩, count + 1)
  | "smith" => (.found ⟨vendor, none, true, none, none, false, none⟩, count + 1)
  | _ => (.found ⟨vendor, none, true, some .verified, none, false, none⟩, count + 1)

/-- The vendors of some items, one of them blank, one twice. -/
def sampleItems : List Item :=
  ["barn", "", "loom", "mill", "barn", "smith", "tailor"].map sampleItem

/-- Of five vendors the first four are checked. The mill is held back by the gate and the smith has
no status, so both are counted as inactive. -/
theorem checkVendors_covers_gate_sample :
    (0 : Int) ≤ 4 ∧
    ((checkVendors (some sampleService) 4 sampleItems).run 0).1 = ⟨5, 4, 2, 2⟩ ∧
    ∃ made, CoversGate 4 sampleItems made ⟨5, 4, 2, 2⟩ := by
  have nonneg : (0 : Int) ≤ 4 := by decide
  have counts : ((checkVendors (some sampleService) 4 sampleItems).run 0).1 = ⟨5, 4, 2, 2⟩ := by
    decide +kernel
  obtain ⟨made, issues, after, -, checks, covers, -⟩ :=
    checkVendors_covers_gate (some sampleService) nonneg sampleItems 0
  have told : issues = ⟨5, 4, 2, 2⟩ := (congrArg Prod.fst checks).symm.trans counts
  exact ⟨nonneg, counts, made, told ▸ covers⟩

end Sample

end Storefront.Integrity
