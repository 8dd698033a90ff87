import Storefront.Feed.FilterSpec
import Storefront.Proofs.Calls
/-!
# Parameters of a query

What the constraints of a query depend on: of every parameter with several spellings the first
value present, of the others whether their value counts as given. So a parameter may be written
under any of its spellings. A blank parameter counts as absent as long as no other spelling of it is
written: the first spelling that is not null is the one that counts, and an empty text in it hides
what the spellings after it hold. For the wish for items in stock an empty text is not even absent,
it is a wish that is not there to be met, so items out of stock are shown.
-/

namespace Storefront

/-- A value that leaves a parameter open: null or an empty text. -/
def Json.isBlank : Json → Bool
  | .null => true
  | .str text => text == ""
  | _ => false

/-- A blank value does not count as given. -/
theorem Json.given?_of_isBlank {value : Json} (blank : value.isBlank = true) :
    value.given? = none := by
  cases value with
  | null => rfl
  | str text => rw [eq_of_beq blank]; rfl
  | _ => cases blank

namespace Row

variable {row : Row} {key old new : String}

/-- The row without its blank values. -/
def withoutBlanks (row : Row) : Row := row.filter fun entry => !entry.2.isBlank

/-- The row with one key under another name. -/
def renamed (old new : String) (row : Row) : Row :=
  row.map fun entry => if entry.1 = old then (new, entry.2) else entry

/-- The first entry with a key is the one that is found. -/
theorem get?_cons (name : String) (value : Json) (rest : Row) (key : String) :
    get? ((name, value) :: rest) key = if key = name then some value else rest.get? key := by
  unfold get?
  by_cases here : key = name
  · simp [here]
  · rw [List.lookup_cons, beq_false_of_ne here, if_neg here]

/-- Nothing is found under a key that no entry has. -/
theorem get?_eq_none_iff : row.get? key = none ↔ key ∉ row.map Prod.fst := by
  induction row with
  | nil => exact iff_of_true rfl List.not_mem_nil
  | cons entry rest ih =>
    rw [get?_cons, List.map_cons, List.mem_cons, not_or]
    split
    · next here => exact iff_of_false nofun fun apart => apart.1 here
    · next apart => exact ih.trans (iff_and_self.mpr fun _ => apart)

/-- If no key is repeated, what is found without the blank values is what is found, unless it is
blank. -/
theorem get?_withoutBlanks (distinct : (row.map Prod.fst).Nodup) (key : String) :
    row.withoutBlanks.get? key = (row.get? key).filter (!·.isBlank) := by
  induction row with
  | nil => rfl
  | cons entry rest ih =>
    obtain ⟨name, value⟩ := entry
    obtain ⟨fresh, distinct⟩ := List.nodup_cons.mp distinct
    rw [get?_cons]
    cases blank : value.isBlank with
    | false =>
      have kept : withoutBlanks ((name, value) :: rest) =
          (name, value) :: withoutBlanks rest := by
        simp [withoutBlanks, blank]
      rw [kept, get?_cons, ih distinct]
      split
      · exact (Option.filter_eq_some_iff.mpr ⟨rfl, by rw [blank]; rfl⟩).symm
      · rfl
    | true =>
      have left : withoutBlanks ((name, value) :: rest) = withoutBlanks rest := by
        simp [withoutBlanks, blank]
      rw [left, ih distinct]
      split
      · next here =>
        -- A blank value that is left out has no second value of its key behind it.
        rw [get?_eq_none_iff.mpr (here ▸ fresh), Option.filter_some, blank]
        rfl
      · rfl

/-- What is present without the blank values is what is present, unless it is blank. -/
theorem present?_withoutBlanks (distinct : (row.map Prod.fst).Nodup) (key : String) :
    row.withoutBlanks.present? key = (row.present? key).filter (!·.isBlank) := by
  unfold present?
  rw [get?_withoutBlanks distinct]
  cases row.get? key with
  | none => rfl
  | some value =>
    cases value with
    | str text => by_cases empty : text = "" <;> simp [Json.isBlank, empty]
    | _ => rfl

/-- A value under the old name is found under the new one. -/
theorem get?_renamed_new (absent : row.get? new = none) :
    (row.renamed old new).get? new = row.get? old := by
  induction row with
  | nil => rfl
  | cons entry rest ih =>
    obtain ⟨name, value⟩ := entry
    rw [get?_cons] at absent ⊢
    split at absent
    · cases absent
    · next apart =>
      by_cases here : old = name
      · rw [if_pos here, renamed, List.map_cons, if_pos here.symm, get?_cons, if_pos rfl]
      · rw [if_neg here, renamed, List.map_cons, if_neg (Ne.symm here), get?_cons, if_neg apart]
        exact ih absent

/-- Nothing is left under the old name. -/
theorem get?_renamed_old (differ : old ≠ new) : (row.renamed old new).get? old = none := by
  refine get?_eq_none_iff.mpr fun member => ?_
  obtain ⟨_, member, same⟩ := List.mem_map.mp member
  obtain ⟨entry, _, rfl⟩ := List.mem_map.mp member
  split at same
  · exact differ same.symm
  · next apart => exact apart same

/-- Other keys keep their values. -/
theorem get?_renamed_other (notOld : key ≠ old) (notNew : key ≠ new) :
    (row.renamed old new).get? key = row.get? key := by
  induction row with
  | nil => rfl
  | cons entry rest ih =>
    obtain ⟨name, value⟩ := entry
    rw [get?_cons]
    by_cases here : name = old
    · rw [renamed, List.map_cons, if_pos here, get?_cons, if_neg notNew, if_neg (here ▸ notOld)]
      exact ih
    · rw [renamed, List.map_cons, if_neg here, get?_cons]
      exact congrArg _ ih

/-- A key that keeps its name changes nothing. -/
theorem renamed_self : row.renamed old old = row := by
  unfold renamed
  refine (List.map_congr_left fun entry _ => ?_).trans (List.map_id row)
  split
  · next here => exact here ▸ rfl
  · rfl

end Row

/-- A value is never refused as a whole number for the cause that another is refused for as a
float. -/
theorem Json.toInt_ne_of_toFloat {value other : Json} {fault : Fault}
    (unread : value.toFloat = .error fault) : other.toInt ≠ .error fault := by
  have causes : fault = .beyondFloats ∨ (∃ text, fault = .unreadableFloat text) ∨
      ∃ kind, fault = .notAFloat kind := by
    unfold toFloat at unread
    split at unread
    case h_2 => split at unread <;> cases unread; exact .inl rfl
    case h_4 => split at unread <;> cases unread; exact .inr (.inl ⟨_, rfl⟩)
    case h_5 => cases unread; exact .inr (.inr ⟨_, rfl⟩)
    all_goals cases unread
  intro refused
  unfold toInt at refused
  -- None of these causes is one of those that a whole number is refused for.
  obtain rfl | ⟨_, rfl⟩ | ⟨_, rfl⟩ := causes <;> split at refused <;> try split at refused
  all_goals cases refused

namespace FilterSpec

variable {query other : Row} {preferences : Option Preferences} {spec : FilterSpec} {fault : Fault}
  {spellings keys : List String} {key old new : String} {value : Json}

/-- The spellings of every parameter. -/
def parameterKeys : List (List String) :=
  [maxPriceKeys, deadlineKeys, ["gender"], ["category"], inStockKeys]

/-- No spelling belongs to two parameters. -/
theorem parameterKeys_apart :
    ∀ spellings ∈ parameterKeys, ∀ keys ∈ parameterKeys,
      spellings = keys ∨ ∀ key ∈ spellings, key ∉ keys := by
  decide

/-- A value is hidden behind an empty text: the first spelling that is not null is written as an
empty text, and the first that is not blank holds the value. -/
def Hides (query : Row) (spellings : List String) (value : Json) : Prop :=
  firstPresent query spellings = some (.str "") ∧
    firstPresent query.withoutBlanks spellings = some value

/-- The wish for items in stock. -/
def stockWish (query : Row) : Bool :=
  ((firstPresent query inStockKeys).map wantsStock).getD plain.inStockOnly

/-- The constraints of a query whose price and days have been read. -/
def stated (query : Row) (preferences : Option Preferences) (maxPrice : Option Float)
    (deadlineDays : Option Int) : FilterSpec :=
  { plain with
    maxPrice
    deadlineDays
    gender := given query "gender"
    category := given query "category"
    inStockOnly := stockWish query
    blockedVendors := ((preferences.map (·.blockedVendors)).getD []).eraseDups }

/-- The price of a query, or why it cannot be read. -/
def price (query : Row) : Except Fault (Option Float) :=
  readOptional Json.toFloat (filled query maxPriceKeys)

/-- The days of a query, or why they cannot be read. -/
def days (query : Row) : Except Fault (Option Int) :=
  readOptional Json.toInt (filled query deadlineKeys)

/-- A query is read if its price and its days are. -/
theorem build_eq_ok_iff : build query preferences = .ok spec ↔
    ∃ maxPrice deadlineDays, price query = .ok maxPrice ∧ days query = .ok deadlineDays ∧
      stated query preferences maxPrice deadlineDays = spec := by
  change (price query >>= fun maxPrice => days query >>= fun deadlineDays =>
    pure (stated query preferences maxPrice deadlineDays)) = .ok spec ↔ _
  simp only [Call.bind_eq_ok_iff]
  constructor
  · rintro ⟨maxPrice, priced, deadlineDays, timed, rest⟩
    exact ⟨maxPrice, deadlineDays, priced, timed, Except.ok.inj rest⟩
  · rintro ⟨maxPrice, deadlineDays, priced, timed, rfl⟩
    exact ⟨maxPrice, priced, deadlineDays, timed, rfl⟩

/-- A query is refused for its price, or for its days if its price is read. -/
theorem build_eq_error_iff : build query preferences = .error fault ↔
    price query = .error fault ∨
      (∃ maxPrice, price query = .ok maxPrice) ∧ days query = .error fault := by
  change (price query >>= fun maxPrice => days query >>= fun deadlineDays =>
    pure (stated query preferences maxPrice deadlineDays)) = .error fault ↔ _
  cases price query with
  | error cause => simp [bind, Except.bind]
  | ok maxPrice =>
    cases days query with
    | error cause => simp [bind, Except.bind]
    | ok deadlineDays => simp [bind, Except.bind, pure, Except.pure]

section Reading

/-- A parameter with one spelling counts as given by the value that is present. -/
theorem given_eq (query : Row) (key : String) :
    given query key = (firstPresent query [key]).bind Json.given? := by
  unfold given firstPresent
  rw [List.findSome?_singleton, Row.present?]
  cases query.get? key with
  | none => rfl
  | some value => cases value <;> rfl

/-- The first value present depends on the values of the spellings. -/
theorem firstPresent_congr (same : ∀ key ∈ spellings, query.get? key = other.get? key) :
    firstPresent query spellings = firstPresent other spellings := by
  induction spellings with
  | nil => rfl
  | cons key rest ih =>
    unfold firstPresent at ih ⊢
    rw [List.findSome?_cons, List.findSome?_cons, Row.present?, Row.present?,
      same key List.mem_cons_self, ih fun later known => same later (List.mem_cons_of_mem _ known)]

/-- The constraints depend on the first value present of every parameter. -/
theorem build_congr
    (same : ∀ spellings ∈ parameterKeys,
      firstPresent query spellings = firstPresent other spellings) :
    build query preferences = build other preferences := by
  unfold build filled
  rw [given_eq, given_eq, given_eq, given_eq, same maxPriceKeys (by decide),
    same deadlineKeys (by decide), same ["gender"] (by decide), same ["category"] (by decide),
    same inStockKeys (by decide)]

end Reading

section Renaming

/-- If only one spelling is written, its value is the one that counts. -/
theorem firstPresent_eq_present? (member : key ∈ spellings)
    (others : ∀ name ∈ spellings, name ≠ key → query.get? name = none) :
    firstPresent query spellings = query.present? key := by
  have absent : ∀ name ∈ spellings, name ≠ key → query.present? name = none := by
    intro name known apart
    rw [Row.present?, others name known apart]
  unfold firstPresent
  cases found : query.present? key with
  | none =>
    refine List.findSome?_eq_none_iff.mpr fun name known => ?_
    by_cases here : name = key
    · exact here ▸ found
    · exact absent name known here
  | some value =>
    clear others
    induction spellings with
    | nil => cases member
    | cons name rest ih =>
      rw [List.findSome?_cons]
      by_cases here : name = key
      · rw [here, found]
      · rw [absent name List.mem_cons_self here]
        exact ih (List.mem_of_ne_of_mem (Ne.symm here) member)
          fun other known => absent other (List.mem_cons_of_mem _ known)

/-- A parameter that is written under another of its spellings, and under no third one, keeps the
value that counts, and so does every other parameter. -/
theorem firstPresent_renamed (parameter : keys ∈ parameterKeys) (written : old ∈ keys)
    (accepted : new ∈ keys) (others : ∀ key ∈ keys, key ≠ old → query.get? key = none)
    (differ : old ≠ new) (known : spellings ∈ parameterKeys) :
    firstPresent (query.renamed old new) spellings = firstPresent query spellings := by
  obtain rfl | apart := parameterKeys_apart spellings known keys parameter
  · have moved : ∀ key ∈ spellings, key ≠ new → (query.renamed old new).get? key = none := by
      intro key known notNew
      by_cases here : key = old
      · rw [here, Row.get?_renamed_old differ]
      · rw [Row.get?_renamed_other here notNew, others key known here]
    rw [firstPresent_eq_present? accepted moved, firstPresent_eq_present? written others,
      Row.present?, Row.present?, Row.get?_renamed_new (others new accepted (Ne.symm differ))]
  · refine firstPresent_congr fun key here => Row.get?_renamed_other ?_ ?_
    · exact fun same => apart key here (same ▸ written)
    · exact fun same => apart key here (same ▸ accepted)

/-- The constraints of a query stay the same if a parameter is written under another of its
spellings, as long as it is not written under a third one. -/
theorem build_renamed (parameter : keys ∈ parameterKeys) (written : old ∈ keys)
    (accepted : new ∈ keys) (others : ∀ key ∈ keys, key ≠ old → query.get? key = none) :
    build (query.renamed old new) preferences = build query preferences := by
  by_cases differ : old = new
  · rw [differ, Row.renamed_self]
  · exact build_congr fun _ known =>
      firstPresent_renamed parameter written accepted others differ known

end Renaming

section Blanks

/-- A blank value that is present is an empty text. -/
theorem eq_empty_of_firstPresent (found : firstPresent query spellings = some value)
    (blank : value.isBlank = true) : value = .str "" := by
  obtain ⟨key, _, present⟩ := List.exists_of_findSome?_eq_some found
  cases value with
  | null =>
    unfold Row.present? at present
    split at present
    · cases present
    · next apart => exact absurd present apart
  | str text => rw [eq_of_beq blank]
  | _ => cases blank

/-- A value that is present counts unless it is blank. -/
theorem filled_of_firstPresent (found : firstPresent query spellings = some value)
    (stands : value.isBlank = false) : filled query spellings = some value := by
  unfold filled
  rw [found]
  split
  · next empty =>
    cases empty
    cases stands
  · rfl

/-- An empty text that hides a value does not count, and neither does the value. -/
theorem Hides.filled (hidden : Hides query spellings value) : filled query spellings = none := by
  rw [FilterSpec.filled, hidden.1]
  rfl

variable {α : Type} {read : Json → Except Fault α} {found : Option α}

/-- A parameter that cannot be read has a value that cannot be read. -/
theorem exists_of_readOptional_error {filled : Option Json}
    (refused : readOptional read filled = .error fault) :
    ∃ value, read value = .error fault := by
  cases filled with
  | none => cases refused
  | some value =>
    refine ⟨value, ?_⟩
    rw [readOptional] at refused
    cases reads : read value with
    | error cause =>
      rw [reads] at refused
      cases refused
      rfl
    | ok amount =>
      rw [reads] at refused
      cases refused

/-- A parameter that cannot be read hides nothing. -/
theorem not_hides_of_error (refused : readOptional read (filled query spellings) = .error fault)
    (value : Json) : ¬Hides query spellings value := fun hidden => by
  rw [hidden.filled] at refused
  cases refused

variable (distinct : (query.map Prod.fst).Nodup)
include distinct

/-- Without the blank values, the first value present is not blank. -/
theorem isBlank_of_firstPresent_withoutBlanks
    (found : firstPresent query.withoutBlanks spellings = some value) : value.isBlank = false := by
  obtain ⟨key, _, present⟩ := List.exists_of_findSome?_eq_some found
  rw [Row.present?_withoutBlanks distinct] at present
  simpa using (Option.filter_eq_some_iff.mp present).2

/-- If the first value present is no empty text, it is also the first without the blank values. -/
theorem firstPresent_withoutBlanks (apart : firstPresent query spellings ≠ some (.str "")) :
    firstPresent query.withoutBlanks spellings = firstPresent query spellings := by
  induction spellings with
  | nil => rfl
  | cons spelling rest ih =>
    have head := Row.present?_withoutBlanks distinct spelling
    cases found : query.present? spelling with
    | none =>
      rw [found] at head
      have later : ∀ row : Row, row.present? spelling = none →
          firstPresent row (spelling :: rest) = firstPresent row rest := fun row absent => by
        rw [firstPresent, List.findSome?_cons, absent, firstPresent]
      rw [later query found] at apart ⊢
      rw [later _ head, ih apart]
    | some value =>
      rw [found] at head
      have first : ∀ row : Row, row.present? spelling = some value →
          firstPresent row (spelling :: rest) = some value := fun row present => by
        rw [firstPresent, List.findSome?_cons, present]
      rw [first query found] at apart ⊢
      refine first _ (head.trans (Option.filter_eq_some_iff.mpr ⟨rfl, ?_⟩))
      cases blank : value.isBlank with
      | false => rfl
      | true =>
        rw [eq_empty_of_firstPresent (first query found) blank] at apart
        exact absurd rfl apart

/-- Without the blank values, a value that was hidden counts. -/
theorem Hides.filled_withoutBlanks (hidden : Hides query spellings value) :
    FilterSpec.filled query.withoutBlanks spellings = some value :=
  filled_of_firstPresent hidden.2 (isBlank_of_firstPresent_withoutBlanks distinct hidden.2)

/-- Without the blank values, a parameter that hides nothing counts for what it did. -/
theorem filled_withoutBlanks (plainly : ∀ value, ¬Hides query spellings value) :
    filled query.withoutBlanks spellings = filled query spellings := by
  by_cases empty : firstPresent query spellings = some (.str "")
  · have nothing : firstPresent query.withoutBlanks spellings = none :=
      Option.eq_none_iff_forall_ne_some.mpr fun value found => plainly value ⟨empty, found⟩
    rw [filled, filled, empty, nothing]
    rfl
  · rw [filled, filled, firstPresent_withoutBlanks distinct empty]

/-- A parameter that is read is read the same without the blank values exactly if it hides
nothing. -/
theorem readOptional_withoutBlanks_iff
    (reads : readOptional read (filled query spellings) = .ok found) :
    readOptional read (filled query.withoutBlanks spellings) = .ok found ↔
      ∀ value, ¬Hides query spellings value := by
  constructor
  · intro same value hidden
    rw [hidden.filled] at reads
    rw [hidden.filled_withoutBlanks distinct] at same
    cases reads
    obtain ⟨_, _, impossible⟩ := Call.map_eq_ok_iff.mp same
    cases impossible
  · intro plainly
    rw [filled_withoutBlanks distinct plainly, reads]

/-- A parameter with one spelling is given without the blank values if it was. -/
theorem given_withoutBlanks (key : String) : given query.withoutBlanks key = given query key := by
  unfold given
  rw [Row.get?_withoutBlanks distinct]
  cases query.get? key with
  | none => rfl
  | some value =>
    rw [Option.filter_some]
    cases blank : value.isBlank with
    | false => rfl
    | true => exact (Json.given?_of_isBlank blank).symm

/-- The wish for items in stock is the same without the blank values unless it is written as an
empty text, which is no such wish; then only if it hides a value that is no such wish either. -/
theorem stockWish_withoutBlanks_iff :
    stockWish query.withoutBlanks = stockWish query ↔
      (firstPresent query inStockKeys = some (.str "") →
        ∃ value, Hides query inStockKeys value ∧ wantsStock value = false) := by
  by_cases empty : firstPresent query inStockKeys = some (.str "")
  · have unmet : stockWish query = false := by
      rw [stockWish, empty]
      decide
    rw [unmet, stockWish]
    cases found : firstPresent query.withoutBlanks inStockKeys with
    | none =>
      refine iff_of_false nofun fun agrees => ?_
      obtain ⟨value, hidden, _⟩ := agrees empty
      cases found.symm.trans hidden.2
    | some value =>
      refine ⟨fun wish _ => ⟨value, ⟨empty, found⟩, wish⟩, fun agrees => ?_⟩
      obtain ⟨other, hidden, wish⟩ := agrees empty
      cases found.symm.trans hidden.2
      exact wish
  · refine iff_of_true ?_ fun same => absurd same empty
    rw [stockWish, stockWish, firstPresent_withoutBlanks distinct empty]

/-- Constraints are stated the same without the blank values exactly if the price, the days and the
wish for items in stock are the same. -/
theorem stated_withoutBlanks_iff {maxPrice otherPrice : Option Float}
    {deadlineDays otherDays : Option Int} :
    stated query.withoutBlanks preferences otherPrice otherDays =
        stated query preferences maxPrice deadlineDays ↔
      otherPrice = maxPrice ∧ otherDays = deadlineDays ∧
        stockWish query.withoutBlanks = stockWish query := by
  unfold stated
  rw [given_withoutBlanks distinct, given_withoutBlanks distinct]
  simp only [FilterSpec.mk.injEq, true_and, and_true]
  exact and_rotate

end Blanks

/-- For every query without repeated keys and all preferences. If the constraints of the query are
read, they are the same without its null and empty values exactly if no empty text hides a price or
a number of days, and an empty wish for items in stock hides one that is no such wish. If they are
refused, they are refused for the same cause exactly if every hidden price can be read. A parameter
may be written under any of its spellings unless it is written under another one as well. -/
theorem blanks_absent_iff (query : Row) (distinct : (query.map Prod.fst).Nodup)
    (preferences : Option Preferences) :
    (∀ spec, build query preferences = .ok spec →
      (build query.withoutBlanks preferences = .ok spec ↔
        (∀ value, ¬Hides query maxPriceKeys value) ∧ (∀ value, ¬Hides query deadlineKeys value) ∧
          (firstPresent query inStockKeys = some (.str "") →
            ∃ value, Hides query inStockKeys value ∧ wantsStock value = false))) ∧
    (∀ fault, build query preferences = .error fault →
      (build query.withoutBlanks preferences = .error fault ↔
        ∀ value, Hides query maxPriceKeys value → ∃ maxPrice, value.toFloat = .ok maxPrice)) ∧
    ∀ keys ∈ parameterKeys, ∀ old ∈ keys, ∀ new ∈ keys,
      (∀ key ∈ keys, key ≠ old → query.get? key = none) →
        build (query.renamed old new) preferences = build query preferences := by
  refine ⟨?read, ?refused, ?renamed⟩
  case read =>
    intro spec built
    obtain ⟨maxPrice, deadlineDays, priced, timed, rfl⟩ := build_eq_ok_iff.mp built
    rw [build_eq_ok_iff, ← stockWish_withoutBlanks_iff distinct,
      ← readOptional_withoutBlanks_iff distinct priced,
      ← readOptional_withoutBlanks_iff distinct timed]
    constructor
    · rintro ⟨otherPrice, otherDays, otherPriced, otherTimed, same⟩
      obtain ⟨rfl, rfl, wish⟩ := (stated_withoutBlanks_iff distinct).mp same
      exact ⟨otherPriced, otherTimed, wish⟩
    · rintro ⟨otherPriced, otherTimed, wish⟩
      exact ⟨maxPrice, deadlineDays, otherPriced, otherTimed,
        (stated_withoutBlanks_iff distinct).mpr ⟨rfl, rfl, wish⟩⟩
  case refused =>
    intro fault built
    rw [build_eq_error_iff]
    obtain priced | ⟨⟨maxPrice, priced⟩, timed⟩ := build_eq_error_iff.mp built
    · have plainly := not_hides_of_error priced
      refine iff_of_true (.inl ?_) fun value hidden => absurd hidden (plainly value)
      rw [price, filled_withoutBlanks distinct plainly]
      exact priced
    · have same : days query.withoutBlanks = .error fault := by
        rw [days, filled_withoutBlanks distinct (not_hides_of_error timed)]
        exact timed
      constructor
      · intro reads value hidden
        rw [price, hidden.filled_withoutBlanks distinct] at reads
        obtain unread | ⟨⟨maxPrice, read⟩, _⟩ := reads
        · -- What is wrong with a price is never what is wrong with a number of days.
          obtain ⟨_, unread⟩ := exists_of_readOptional_error unread
          obtain ⟨_, untimed⟩ := exists_of_readOptional_error timed
          exact absurd untimed (Json.toInt_ne_of_toFloat unread)
        · obtain ⟨amount, read, _⟩ := Call.map_eq_ok_iff.mp read
          exact ⟨amount, read⟩
      · intro reads
        refine .inr ⟨?_, same⟩
        by_cases hides : ∃ value, Hides query maxPriceKeys value
        · obtain ⟨value, hidden⟩ := hides
          obtain ⟨amount, read⟩ := reads value hidden
          rw [price, hidden.filled_withoutBlanks distinct]
          exact ⟨some amount, Call.map_eq_ok_iff.mpr ⟨amount, read, rfl⟩⟩
        · rw [price, filled_withoutBlanks distinct (not_exists.mp hides)]
          exact ⟨maxPrice, priced⟩
  case renamed =>
    intro keys parameter old written new accepted others
    exact build_renamed parameter written accepted others

section Sample

/-- A query with blank values that hide nothing. -/
def sampleQuery : Row :=
  [("max_price", .null), ("maxPrice", .str "20"), ("budgetMax", .str ""),
    ("deadline_days", .str ""), ("gender", .str ""), ("inStockOnly", .str "False")]

/-- A query with a blank price before another one, and days that are no number. -/
def sampleRefused : Row :=
  [("max_price", .str ""), ("maxPrice", .int 20), ("deadline_days", .str "soon")]

/-- The blank values of a query that hide nothing can be left out, those of a query that is refused
for its days as well, and the wish for items in stock can be written under its other spelling. -/
theorem blanks_absent_iff_sample :
    (sampleQuery.map Prod.fst).Nodup ∧ (sampleRefused.map Prod.fst).Nodup ∧
    (∃ spec, build sampleQuery none = .ok spec ∧ build sampleQuery.withoutBlanks none = .ok spec) ∧
    build sampleRefused.withoutBlanks none = .error (.unreadableInt "soon") ∧
    build (sampleQuery.renamed "inStockOnly" "in_stock_only") none = build sampleQuery none := by
  have distinct : (sampleQuery.map Prod.fst).Nodup := by decide
  have refusedDistinct : (sampleRefused.map Prod.fst).Nodup := by decide
  obtain ⟨read, -, renamed⟩ := blanks_absent_iff sampleQuery distinct none
  obtain ⟨-, refused, -⟩ := blanks_absent_iff sampleRefused refusedDistinct none
  refine ⟨distinct, refusedDistinct, ⟨_, rfl, (read _ rfl).mpr ⟨?price, ?days, ?stock⟩⟩, ?refused,
    ?renamed⟩
  case price =>
    intro value hidden
    have same : "20" = "" := Json.str.inj (Option.some.inj hidden.1)
    exact absurd same (by decide)
  case days => exact fun value hidden => nomatch hidden.2
  case stock =>
    intro empty
    have same : "False" = "" := Json.str.inj (Option.some.inj empty)
    exact absurd same (by decide)
  case refused =>
    refine (refused _ rfl).mpr fun value hidden => ?_
    cases hidden.2
    exact ⟨_, rfl⟩
  case renamed =>
    exact renamed inStockKeys (by decide) "inStockOnly" (by decide) "in_stock_only" (by decide)
      (by decide)

/-- A query with a blank price before another one. -/
def sampleHidden : Row := [("max_price", .str ""), ("maxPrice", .int 20)]

/-- An empty text hides the price that another spelling holds, and an empty wish for items in stock
shows items out of stock; without them the price counts, and only items in stock are shown. -/
theorem empty_text_drops_constraints :
    (∃ spec, build sampleHidden none = .ok spec ∧ spec.maxPrice = none) ∧
    (∃ spec, build sampleHidden.withoutBlanks none = .ok spec ∧ spec.maxPrice = some 20.0) ∧
    (∃ spec, build [("in_stock_only", .str "")] none = .ok spec ∧ spec.inStockOnly = false) ∧
    ∃ spec, build (Row.withoutBlanks [("in_stock_only", .str "")]) none = .ok spec ∧
      spec.inStockOnly = true :=
  ⟨⟨_, rfl, rfl⟩, ⟨_, rfl, rfl⟩, ⟨_, rfl, rfl⟩, ⟨_, rfl, rfl⟩⟩

end Sample

end FilterSpec

end Storefront
