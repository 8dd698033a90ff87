import Storefront.Record.Field
/-!
# Vendor standing

What the business service knows about a vendor, and whether that is enough to show the vendor's
items.
-/

namespace Storefront

/-- How far a vendor's onboarding has come. -/
inductive VendorStatus where
  | pending
  | inReview
  | approved
  | verified
  | rejected
  deriving DecidableEq, Repr

namespace VendorStatus

/-- Every status. -/
def all : List VendorStatus := [.pending, .inReview, .approved, .verified, .rejected]

/-- The name of a status in records. -/
def name : VendorStatus → String
  | .pending => "pending"
  | .inReview => "in_review"
  | .approved => "approved"
  | .verified => "verified"
  | .rejected => "rejected"

/-- The statuses of vendors whose items may be shown. -/
def isTrusted : VendorStatus → Bool
  | .approved | .verified => true
  | _ => false

end VendorStatus

/-- What is known about a vendor. -/
structure Standing where
  vendorId : String
  name : Option String
  isActive : Bool
  status : Option VendorStatus
  successRate : Option Float
  isFeatured : Bool
  qualityScore : Option Float

namespace Standing

/-- A success rate is a percentage. -/
def readRate : Reader Float :=
  Reader.satisfying (Reader.satisfying Reader.float .atLeast (fun rate => !decide (rate < 0.0)))
    .atMost (fun rate => !decide (100.0 < rate))

/-- Read what is known about a vendor. -/
def read (row : Row) : Checked Standing :=
  Standing.mk <$> row.required "vendor_id" Reader.text
    <*> row.optional "name" Reader.text
    <*> row.withDefault "is_active" Reader.bool true
    <*> row.optional "status" (Reader.oneOf (VendorStatus.all.map fun status => (status.name, status)))
    <*> row.optional "success_rate" readRate
    <*> row.withDefault "is_featured" Reader.bool false
    <*> row.optional "quality_score" Reader.float

/-- What is known about a vendor, as a record. -/
def toRow (standing : Standing) : Row :=
  [("vendor_id", .str standing.vendorId),
    ("name", Json.ofOption .str standing.name),
    ("is_active", .bool standing.isActive),
    ("status", Json.ofOption (fun status => .str status.name) standing.status),
    ("success_rate", Json.ofOption .float standing.successRate),
    ("is_featured", .bool standing.isFeatured),
    ("quality_score", Json.ofOption .float standing.qualityScore)]

/-- Whether a vendor's items must not be shown: the vendor is inactive, or has a status that is
not trusted. A vendor without a status is not held back. -/
def isGated (standing : Standing) : Bool :=
  !standing.isActive ||
    match standing.status with
    | some status => !status.isTrusted
    | none => false

end Standing

end Storefront
