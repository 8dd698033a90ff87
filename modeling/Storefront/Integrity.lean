import Storefront.Collaborators
import Storefront.Sequence
/-!
# The integrity report

Items without vectors, and vendors of the catalog that the business service does not vouch for.
-/

namespace Storefront.Integrity

variable {σ : Type}

/-- What a check of the vendors found. -/
structure VendorIssues where
  total : Nat
  checked : Nat
  /-- Vendors whose lookup failed or found nothing. -/
  invalid : Nat
  /-- Vendors that are not active, or not approved or verified. -/
  inactive : Nat
  deriving DecidableEq, Repr

/-- A report. -/
structure Report where
  missingVectors : Nat
  vendors : VendorIssues
  deriving DecidableEq, Repr

/-- How many vendors are checked unless a request says otherwise. -/
def defaultSample : Int := 100

/-- Whether an item lacks one of its vectors. -/
def lacksVector (item : Item) : Bool := item.styleVector?.isNone || item.fabricVector?.isNone

/-- Whether a vendor is in good standing. -/
def isGood (standing : Standing) : Bool :=
  standing.isActive && standing.status.any VendorStatus.isTrusted

/-- How many vendors of a list are invalid, and how many are inactive. -/
def check (lookUp : String → StateM σ LookupOutcome) : List String → StateM σ (Nat × Nat)
  | [] => pure (0, 0)
  | vendor :: rest => do
    let outcome ← lookUp vendor
    let (invalid, inactive) ← check lookUp rest
    match outcome with
    | .found standing =>
      pure (if isGood standing then (invalid, inactive) else (invalid, inactive + 1))
    | _ => pure (invalid + 1, inactive)

/-- The vendors of some items, each once; items without a vendor do not count. -/
def vendorsOf (items : List Item) : List String :=
  Sequence.firsts ((items.map (·.vendor)).filter (! ·.isEmpty))

/-- Check the vendors of some items, at most so many. Without a service no lookup succeeds. -/
def checkVendors (service : Option (String → StateM σ LookupOutcome)) (sample : Int)
    (items : List Item) : StateM σ VendorIssues := do
  let vendors := vendorsOf items
  let checked := Sequence.cut sample vendors
  let (invalid, inactive) ← check (service.getD fun _ => pure .failed) checked
  pure ⟨vendors.length, checked.length, invalid, inactive⟩

/-- Report on the catalog and its vendors. -/
def report (world : Collaborators σ) (sample : Int) : Call σ Report := do
  let items ← world.listItems .everything
  let again ← world.listItems .everything
  let vendors ← Call.ofState (checkVendors world.vendor sample again)
  pure ⟨(items.filter lacksVector).length, vendors⟩

/-- A report as a record. -/
def Report.toRow (report : Report) : Row :=
  [("missing_embeddings", .obj
      [("count", .int report.missingVectors),
        ("status", .str (if 0 < report.missingVectors then "WARNING" else "OK"))]),
    ("vendor_issues", .obj
      [("total_vendors", .int report.vendors.total),
        ("checked", .int report.vendors.checked),
        ("invalid_vendors", .int report.vendors.invalid),
        ("inactive_vendors", .int report.vendors.inactive)])]

/-- Whether a report names nothing that must be mended. -/
def Report.isClean (report : Report) : Bool :=
  report.missingVectors = 0 && report.vendors.invalid = 0

end Storefront.Integrity
