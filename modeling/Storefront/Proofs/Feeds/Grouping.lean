import Storefront.Proofs.Feeds.Vendors
import Storefront.Proofs.Guarantees
import Storefront.Proofs.Outages
import Storefront.Proofs.Ranking
/-!
# How the feed of vendors is grouped

The items that the filters keep are grouped by vendor, the products of every vendor are ranked, and
the best vendors are shown with their best products. No item is lost on the way: every one of them
is counted by its own vendor or has a blank one. If the scores are defined, vendors and products
descend, and vendors of one score stand in the order in which they first occur.
-/

namespace Storefront

variable {σ : Type}

namespace Vendors

section Groups

variable {items : List Item} {group : String × List Item}

/-- The vendors of the groups, in order. -/
theorem map_groups (items : List Item) :
    (groups items).map Prod.fst =
      Sequence.firsts ((items.map (·.vendor)).filter (! ·.isEmpty)) := by
  rw [groups, List.map_map]
  exact List.map_id _

/-- A group has a vendor with a name and holds the items of the vendor, in order. -/
theorem of_mem_groups (member : group ∈ groups items) :
    group.1 ≠ "" ∧ group.2 = items.filter fun item => item.vendor == group.1 := by
  obtain ⟨vendor, first, rfl⟩ := List.mem_map.mp member
  have named := List.of_mem_filter (Sequence.mem_firsts.mp first)
  exact ⟨by simpa using named, rfl⟩

/-- No two groups have one vendor. -/
theorem groups_nodup (items : List Item) : ((groups items).map Prod.fst).Nodup := by
  rw [map_groups]
  exact Sequence.firsts_nodup _

/-- The groups are in the order in which their vendors first occur. -/
theorem groups_idxOf (items : List Item) :
    ((groups items).map Prod.fst).Pairwise fun vendor other =>
      (items.map (·.vendor)).idxOf vendor < (items.map (·.vendor)).idxOf other := by
  rw [map_groups]
  exact Sequence.firsts_filter_idxOf _ _

/-- Every item is in one group or has a blank vendor. -/
theorem groups_total (items : List Item) :
    ((groups items).map (·.2.length)).sum + items.countP (·.vendor == "") = items.length := by
  let names := (items.map (·.vendor)).filter (! ·.isEmpty)
  -- A group is as long as its vendor has items, and the counts of all names make up the names.
  have sizes : (groups items).map (·.2.length) =
      (Sequence.firsts names).map fun vendor => names.count vendor := by
    rw [groups, List.map_map]
    refine List.map_congr_left fun vendor first => ?_
    have named := (List.mem_filter.mp (Sequence.mem_firsts.mp first)).2
    have picked : names.count vendor = (items.map (·.vendor)).count vendor :=
      List.count_filter (p := fun name : String => !name.isEmpty) named
    rw [picked, List.count_eq_countP, List.countP_map, List.countP_eq_length_filter]
    rfl
  have perm : (Sequence.firsts names).Perm names.dedup :=
    (List.perm_ext_iff_of_nodup (Sequence.firsts_nodup names) names.nodup_dedup).mpr fun vendor => by
      rw [Sequence.mem_firsts, List.mem_dedup]
  have named : names.length = items.countP (! ·.vendor.isEmpty) := by
    rw [← List.countP_eq_length_filter, List.countP_map]
    rfl
  have total := List.length_eq_countP_add_countP (fun item : Item => !item.vendor.isEmpty)
    (l := items)
  have blank : items.countP (·.vendor == "") =
      items.countP (fun item => decide ¬ (!item.vendor.isEmpty) = true) :=
    List.countP_congr fun item _ => by simp
  rw [sizes, (perm.map _).sum_eq, List.sum_map_count_dedup_eq_length, named, total, blank]

end Groups

section Rankings

/-- A vendor is ranked with the items of its group. -/
structure Ranks (trust : TrustMap) (group : String × List Item) (ranking : Ranking) : Prop where
  vendor : ranking.vendorId = group.1
  products : Ranker.rank .standard ⟨none, trust⟩ group.2 = .ok ranking.products

/-- Ranked groups are the groups in order. -/
theorem ranks_of_rankGroups {trust : TrustMap} {groups : List (String × List Item)}
    {rankings : List Ranking} (ranked : rankGroups trust groups = .ok rankings) :
    List.Forall₂ (Ranks trust) groups rankings := by
  induction groups generalizing rankings with
  | nil =>
    cases ranked
    exact .nil
  | cons group rest ih =>
    obtain ⟨products, ranks, following⟩ := Call.bind_eq_ok_iff.mp ranked
    obtain ⟨others, all, same⟩ := Call.bind_eq_ok_iff.mp following
    cases same
    exact .cons ⟨rfl, ranks⟩ (ih all)

end Rankings

section Entries

variable {tags : List String}

/-- Explained products are shown in order at consecutive positions. -/
theorem shown_of_explainProducts {position : Int} {products : List Ranked}
    {entries : List FeedItem} (explained : explainProducts tags position products = .ok entries) :
    entries.map (·.item) = products.map (·.item) ∧
      entries.map (·.finalScore) = products.map (·.finalScore) ∧
      entries.map (·.position) =
        (List.range products.length).map fun (index : Nat) => position + index := by
  induction products generalizing position entries with
  | nil =>
    cases explained
    exact ⟨rfl, rfl, rfl⟩
  | cons product rest ih =>
    obtain ⟨explanation, -, following⟩ := Call.bind_eq_ok_iff.mp explained
    obtain ⟨others, all, same⟩ := Call.bind_eq_ok_iff.mp following
    cases same
    obtain ⟨items, scores, positions⟩ := ih all
    refine ⟨congrArg _ items, congrArg _ scores, ?_⟩
    rw [List.length_cons, List.range_succ_eq_map, List.map_cons, List.map_cons, positions,
      List.map_map]
    refine congrArg₂ _ (Int.add_zero position).symm (List.map_congr_left fun index _ => ?_)
    change position + 1 + (index : Int) = position + ((index + 1 : Nat) : Int)
    omega

/-- An entry shows a ranked vendor with its best products. -/
structure Shows (productsPerVendor : Int) (ranking : Ranking) (entry : VendorEntry) : Prop where
  vendor : entry.vendorId = ranking.vendorId
  score : entry.score = ranking.score
  count : entry.productCount = ranking.products.length
  items : entry.products.map (·.item) =
    (Sequence.cut productsPerVendor ranking.products).map (·.item)
  scores : entry.products.map (·.finalScore) =
    (Sequence.cut productsPerVendor ranking.products).map (·.finalScore)

/-- The products of an entry have consecutive positions from a first one on. -/
def IsPlaced (position : Int) (entry : VendorEntry) : Prop :=
  entry.products.map (·.position) =
    (List.range entry.products.length).map fun (index : Nat) => position + index

/-- The entry of a vendor shows it, with positions from the given one on. -/
theorem shows_of_entryOf {productsPerVendor position : Int} {ranking : Ranking}
    {entry : VendorEntry} (made : entryOf tags productsPerVendor position ranking = .ok entry) :
    Shows productsPerVendor ranking entry ∧ IsPlaced position entry := by
  obtain ⟨products, explained, same⟩ := Call.bind_eq_ok_iff.mp made
  cases same
  obtain ⟨items, scores, positions⟩ := shown_of_explainProducts explained
  refine ⟨⟨rfl, rfl, rfl, items, scores⟩, ?_⟩
  have length := congrArg List.length items
  rw [List.length_map, List.length_map] at length
  rw [IsPlaced, positions, length]

/-- Ranked vendors are shown one by one, each with as many positions as products may be shown. -/
theorem shows_of_entriesFrom {productsPerVendor position : Int} {rankings : List Ranking}
    {entries : List VendorEntry}
    (made : entriesFrom tags productsPerVendor position rankings = .ok entries) :
    List.Forall₂ (Shows productsPerVendor) rankings entries ∧
      ∀ (index : Nat) entry, entries[index]? = some entry →
        IsPlaced (position + index * productsPerVendor) entry := by
  induction rankings generalizing position entries with
  | nil =>
    cases made
    exact ⟨.nil, fun index entry there => by cases there⟩
  | cons ranking rest ih =>
    obtain ⟨first, own, following⟩ := Call.bind_eq_ok_iff.mp made
    obtain ⟨others, all, same⟩ := Call.bind_eq_ok_iff.mp following
    cases same
    obtain ⟨shows, placed⟩ := shows_of_entryOf own
    obtain ⟨showsOthers, placedOthers⟩ := ih all
    refine ⟨.cons shows showsOthers, fun index entry there => ?_⟩
    cases index with
    | zero =>
      cases there
      simpa using placed
    | succ index =>
      have onward := placedOthers index entry there
      rwa [show position + productsPerVendor + index * productsPerVendor =
        position + (index + 1 : Nat) * productsPerVendor by push_cast; ring] at onward

end Entries

section Feeds

/-- An entry of a feed presents its vendor: it counts the vendor's items among the survivors of the
filters, and shows as many of them as there are and may be shown, each one once. -/
structure Presents (survivors : List Item) (productsPerVendor : Int) (entry : VendorEntry) :
    Prop where
  named : entry.vendorId ≠ ""
  counted : entry.productCount = survivors.countP (·.vendor == entry.vendorId)
  shown : (entry.products.length : Int) = min (entry.productCount : Int) productsPerVendor
  own : ∀ product ∈ entry.products,
    product.item ∈ survivors ∧ product.item.vendor = entry.vendorId
  distinct : (survivors.map (·.id)).Nodup → (entry.products.map (·.item.id)).Nodup

/-- An entry that shows a ranked group of the survivors presents its vendor. -/
theorem Shows.presents {trust : TrustMap} {survivors : List Item} {productsPerVendor : Int}
    {group : String × List Item} {ranking : Ranking} {entry : VendorEntry}
    (shows : Shows productsPerVendor ranking entry) (ranks : Ranks trust group ranking)
    (member : group ∈ groups survivors) (positive : 1 ≤ productsPerVendor) :
    Presents survivors productsPerVendor entry := by
  obtain ⟨named, items⟩ := of_mem_groups member
  have vendor : entry.vendorId = group.1 := shows.vendor.trans ranks.vendor
  have perm := (Ranker.ordered_of_rank ranks.products).items
  have length : ranking.products.length = group.2.length := by
    rw [← perm.length_eq, List.length_map]
  have part : (entry.products.map (·.item)).Sublist (ranking.products.map (·.item)) := by
    rw [shows.items]
    exact (Sequence.cut_sublist _ _).map _
  refine ⟨vendor ▸ named, ?counted, ?shown, ?own, ?distinct⟩
  case counted => rw [shows.count, length, items, vendor, List.countP_eq_length_filter]
  case shown =>
    have shown := congrArg List.length shows.items
    rw [List.length_map, List.length_map, Sequence.cut_eq_take (by omega), List.length_take]
      at shown
    rw [shows.count]
    omega
  case own =>
    intro product shown
    have found : product.item ∈ group.2 :=
      perm.subset (part.subset (List.mem_map.mpr ⟨product, shown, rfl⟩))
    rw [items] at found
    obtain ⟨kept, same⟩ := List.mem_filter.mp found
    exact ⟨kept, (eq_of_beq same).trans vendor.symm⟩
  case distinct =>
    intro nodup
    have own : (group.2.map (·.id)).Nodup := by
      rw [items]
      exact nodup.sublist (List.filter_sublist.map _)
    have ranked : ((ranking.products.map (·.item)).map (·.id)).Nodup :=
      (perm.map (·.id)).nodup_iff.mpr own
    have shown := ranked.sublist (part.map (·.id))
    rwa [List.map_map] at shown

/-- A feed of vendors groups the survivors of the filters: it presents different vendors, no product
twice, at positions that increase and tell the place of the vendor. If there is room for more
vendors, every survivor is counted by one that is shown or has a blank vendor. -/
structure Groups (survivors : List Item) (limit productsPerVendor : Int) (feed : VendorFeed) :
    Prop where
  limited : (feed.vendors.length : Int) ≤ limit
  vendors : (feed.vendors.map (·.vendorId)).Nodup
  presents : ∀ entry ∈ feed.vendors, Presents survivors productsPerVendor entry
  products : (feed.vendors.flatMap fun entry => entry.products.map (·.item.id)).Nodup
  positions : (feed.vendors.flatMap fun entry => entry.products.map (·.position)).Pairwise (· < ·)
  placed : ∀ (index : Nat) entry, feed.vendors[index]? = some entry →
    ∀ product ∈ entry.products, product.position / productsPerVendor = index
  filtered : feed.trace.filtered = survivors.length
  complete : (feed.vendors.length : Int) < limit →
    (feed.vendors.map (·.productCount)).sum + survivors.countP (·.vendor == "") =
      feed.trace.filtered

/-- A feed of vendors descends: vendors and the products of each of them stand in descending order
of their scores, and vendors of one score in the order in which they first occur. -/
structure Descends (survivors : List Item) (feed : VendorFeed) : Prop where
  vendors : feed.vendors.Pairwise fun entry later => later.score ≤ entry.score
  ties : feed.vendors.Pairwise fun entry later => entry.score ≤ later.score →
    (survivors.map (·.vendor)).idxOf entry.vendorId <
      (survivors.map (·.vendor)).idxOf later.vendorId
  products : ∀ entry ∈ feed.vendors,
    entry.products.Pairwise fun product later => later.finalScore ≤ product.finalScore

/-- A ranked vendor has a defined score, and so has each of its products. -/
def Ranking.IsDefined (ranking : Ranking) : Prop :=
  ranking.score.isNaN = false ∧ ∀ product ∈ ranking.products, product.finalScore.isNaN = false

/-- The entries of a feed show the best of some ranked vendors. -/
structure Assembled (rankings : List Ranking) (limit productsPerVendor : Int)
    (entries : List VendorEntry) : Prop where
  shows : List.Forall₂ (Shows productsPerVendor) (Sequence.cut limit (order rankings)) entries
  placed : ∀ (index : Nat) entry, entries[index]? = some entry →
    IsPlaced (index * productsPerVendor) entry

variable {trust : TrustMap} {survivors : List Item} {rankings : List Ranking}
  {limit productsPerVendor : Int} {entries : List VendorEntry} {feed : VendorFeed}

/-- Ordering ranked vendors rearranges them. -/
theorem order_perm (rankings : List Ranking) : (order rankings).Perm rankings :=
  Sequence.descending_perm _ rankings

/-- Every entry presents its vendor. -/
theorem Assembled.presents (assembled : Assembled rankings limit productsPerVendor entries)
    (ranks : List.Forall₂ (Ranks trust) (groups survivors) rankings)
    (positive : 1 ≤ productsPerVendor) :
    ∀ entry ∈ entries, Presents survivors productsPerVendor entry := by
  intro entry member
  obtain ⟨ranking, shown, shows⟩ := Sequence.exists_of_forall₂ assembled.shows entry member
  have found : ranking ∈ rankings :=
    (order_perm rankings).subset ((Sequence.cut_sublist _ _).subset shown)
  obtain ⟨group, there, own⟩ := Sequence.exists_of_forall₂ ranks ranking found
  exact shows.presents own there positive

/-- The entries have the vendors of the best rankings, with their scores. -/
theorem Assembled.scores (assembled : Assembled rankings limit productsPerVendor entries) :
    entries.map (fun entry => (entry.vendorId, entry.score)) =
      (Sequence.cut limit (order rankings)).map fun ranking => (ranking.vendorId, ranking.score) :=
  (Sequence.map_eq_of_forall₂ assembled.shows fun _ _ shows => by
    rw [shows.vendor, shows.score]).symm

/-- The ranked vendors are those of the groups. -/
theorem map_of_ranks (ranks : List.Forall₂ (Ranks trust) (groups survivors) rankings) :
    rankings.map (·.vendorId) = (groups survivors).map Prod.fst :=
  (Sequence.map_eq_of_forall₂ ranks fun _ _ own => own.vendor.symm).symm

/-- The entries have the vendors of the best rankings. -/
theorem Assembled.vendors (assembled : Assembled rankings limit productsPerVendor entries) :
    entries.map (·.vendorId) = (Sequence.cut limit (order rankings)).map (·.vendorId) :=
  (Sequence.map_eq_of_forall₂ assembled.shows fun _ _ shows => shows.vendor.symm).symm

/-- The entries present different vendors. -/
theorem Assembled.nodup (assembled : Assembled rankings limit productsPerVendor entries)
    (ranks : List.Forall₂ (Ranks trust) (groups survivors) rankings) :
    (entries.map (·.vendorId)).Nodup := by
  have nodup : (rankings.map (·.vendorId)).Nodup := map_of_ranks ranks ▸ groups_nodup survivors
  have ordered := ((order_perm rankings).map (·.vendorId)).nodup_iff.mpr nodup
  rw [assembled.vendors]
  exact ordered.sublist ((Sequence.cut_sublist _ _).map _)

/-- No product is shown twice if no two survivors share an id. -/
theorem products_nodup (presents : ∀ entry ∈ entries, Presents survivors productsPerVendor entry)
    (vendors : (entries.map (·.vendorId)).Nodup) (ids : (survivors.map (·.id)).Nodup) :
    (entries.flatMap fun entry => entry.products.map (·.item.id)).Nodup := by
  refine List.nodup_flatMap.mpr ⟨fun entry member => (presents entry member).distinct ids, ?_⟩
  refine (List.pairwise_map.mp vendors).imp_of_mem fun {entry other} first second different => ?_
  refine List.disjoint_left.mpr fun id shown again => different ?_
  obtain ⟨product, found, rfl⟩ := List.mem_map.mp shown
  obtain ⟨copy, also, same⟩ := List.mem_map.mp again
  obtain ⟨kept, vendor⟩ := (presents entry first).own product found
  obtain ⟨keptToo, otherVendor⟩ := (presents other second).own copy also
  rw [← vendor, ← otherVendor, List.inj_on_of_nodup_map ids keptToo kept same]

/-- A product of a placed entry is fewer places behind the first one than products are shown. -/
theorem IsPlaced.offset {position : Int} {entry : VendorEntry} (placed : IsPlaced position entry)
    {product : FeedItem} (member : product ∈ entry.products) :
    ∃ offset < entry.products.length, product.position = position + (offset : Nat) := by
  have shown : product.position ∈ entry.products.map (·.position) :=
    List.mem_map.mpr ⟨product, member, rfl⟩
  rw [placed] at shown
  obtain ⟨offset, below, same⟩ := List.mem_map.mp shown
  exact ⟨offset, List.mem_range.mp below, same.symm⟩

/-- A product of an entry has a position that belongs to the place of the entry. -/
theorem Assembled.bounds (assembled : Assembled rankings limit productsPerVendor entries)
    (presents : ∀ entry ∈ entries, Presents survivors productsPerVendor entry)
    {index : Nat} {entry : VendorEntry} (there : entries[index]? = some entry)
    {product : FeedItem} (member : product ∈ entry.products) :
    index * productsPerVendor ≤ product.position ∧
      product.position < index * productsPerVendor + productsPerVendor := by
  obtain ⟨offset, below, same⟩ := (assembled.placed index entry there).offset member
  have shown := (presents entry (List.mem_of_getElem? there)).shown
  rw [same]
  omega

/-- Positions increase from one entry to the next and within each. -/
theorem Assembled.positions (assembled : Assembled rankings limit productsPerVendor entries)
    (presents : ∀ entry ∈ entries, Presents survivors productsPerVendor entry)
    (positive : 1 ≤ productsPerVendor) :
    (entries.flatMap fun entry => entry.products.map (·.position)).Pairwise (· < ·) := by
  refine List.pairwise_flatMap.mpr ⟨fun entry member => ?_, ?_⟩
  · obtain ⟨index, there⟩ := List.mem_iff_getElem?.mp member
    rw [assembled.placed index entry there]
    refine List.pairwise_map.mpr (List.pairwise_lt_range.imp fun {first second} before => ?_)
    omega
  · refine List.pairwise_iff_getElem.mpr fun i j first second before x shown y later => ?_
    obtain ⟨product, member, rfl⟩ := List.mem_map.mp shown
    obtain ⟨other, found, rfl⟩ := List.mem_map.mp later
    have upper := (assembled.bounds presents (List.getElem?_eq_getElem first) member).2
    have lower := (assembled.bounds presents (List.getElem?_eq_getElem second) found).1
    have apart : ((i : Int) + 1) * productsPerVendor ≤ j * productsPerVendor :=
      Int.mul_le_mul_of_nonneg_right (by omega) (by omega)
    rw [Int.add_mul, Int.one_mul] at apart
    omega

/-- The place of an entry is told by the positions of its products. -/
theorem Assembled.place (assembled : Assembled rankings limit productsPerVendor entries)
    (presents : ∀ entry ∈ entries, Presents survivors productsPerVendor entry)
    (positive : 1 ≤ productsPerVendor) {index : Nat} {entry : VendorEntry}
    (there : entries[index]? = some entry) {product : FeedItem}
    (member : product ∈ entry.products) : product.position / productsPerVendor = index :=
  (Int.ediv_eq_iff_of_pos (by omega)).mpr (assembled.bounds presents there member)

/-- The items of all ranked vendors and the items without one are the survivors. -/
theorem total_of_ranks (ranks : List.Forall₂ (Ranks trust) (groups survivors) rankings) :
    (rankings.map (·.products.length)).sum + survivors.countP (·.vendor == "") =
      survivors.length := by
  have sizes : (groups survivors).map (·.2.length) = rankings.map (·.products.length) :=
    Sequence.map_eq_of_forall₂ ranks fun group ranking own => by
      rw [← (Ranker.ordered_of_rank own.products).items.length_eq, List.length_map]
  rw [← sizes, groups_total]

/-- If there is room for more vendors, all survivors with a vendor are counted. -/
theorem Assembled.complete (assembled : Assembled rankings limit productsPerVendor entries)
    (ranks : List.Forall₂ (Ranks trust) (groups survivors) rankings) (limited : 0 ≤ limit)
    (room : (entries.length : Int) < limit) :
    (entries.map (·.productCount)).sum + survivors.countP (·.vendor == "") =
      survivors.length := by
  have length := assembled.shows.length_eq
  rw [Sequence.cut_eq_take limited, List.length_take] at length
  have all : Sequence.cut limit (order rankings) = order rankings := by
    rw [Sequence.cut_eq_take limited]
    exact List.take_of_length_le (by omega)
  have counts : entries.map (·.productCount) = (order rankings).map (·.products.length) := by
    rw [← all]
    exact (Sequence.map_eq_of_forall₂ assembled.shows fun _ _ shows => shows.count.symm).symm
  rw [counts, ((order_perm rankings).map _).sum_eq]
  exact total_of_ranks ranks

/-- The entries of ranked vendors with defined scores descend. -/
theorem Assembled.descends (assembled : Assembled rankings limit productsPerVendor feed.vendors)
    (ranks : List.Forall₂ (Ranks trust) (groups survivors) rankings)
    (defined : ∀ ranking ∈ rankings, ranking.IsDefined) : Descends survivors feed := by
  let place (vendor : String) : Nat := (survivors.map (·.vendor)).idxOf vendor
  have first : rankings.Pairwise fun ranking later =>
      place ranking.vendorId < place later.vendorId := by
    have pairs := groups_idxOf survivors
    rwa [← map_of_ranks ranks, List.pairwise_map] at pairs
  -- Floats are no linear order; the ranks of defined scores are, and sort in the same way.
  have byRank : order rankings =
      Sequence.descending (Sequence.ranksBelow (Floats.rank ∘ Ranking.score)) rankings :=
    Floats.descending_eq_by_rank fun ranking member => (defined ranking member).1
  have sorted : (order rankings).Pairwise fun ranking later => later.score ≤ ranking.score ∧
      (ranking.score ≤ later.score → place ranking.vendorId < place later.vendorId) := by
    have stable : (order rankings).Pairwise fun ranking later =>
        Floats.rank later.score < Floats.rank ranking.score ∨
          Floats.rank later.score = Floats.rank ranking.score ∧
            place ranking.vendorId < place later.vendorId :=
      byRank ▸ Sequence.descending_stable first
    refine stable.imp_of_mem fun {ranking later} member found either => ?_
    have left := (defined ranking ((order_perm rankings).subset member)).1
    have right := (defined later ((order_perm rankings).subset found)).1
    rw [Floats.le_iff_rank_le right left, Floats.le_iff_rank_le left right]
    rcases either with lower | ⟨same, before⟩
    · exact ⟨lower.le, fun upper => absurd upper (not_le.mpr lower)⟩
    · exact ⟨same.le, fun _ => before⟩
  have shown : (feed.vendors.map fun entry => (entry.vendorId, entry.score)).Pairwise
      fun entry later => later.2 ≤ entry.2 ∧
        (entry.2 ≤ later.2 → place entry.1 < place later.1) := by
    rw [assembled.scores]
    exact List.pairwise_map.mpr (sorted.sublist (Sequence.cut_sublist limit _))
  have entries := List.pairwise_map.mp shown
  refine ⟨entries.imp And.left, entries.imp And.right, fun entry member => ?_⟩
  obtain ⟨ranking, best, shows⟩ := Sequence.exists_of_forall₂ assembled.shows entry member
  have found := (order_perm rankings).subset ((Sequence.cut_sublist _ _).subset best)
  obtain ⟨group, -, own⟩ := Sequence.exists_of_forall₂ ranks ranking found
  obtain ⟨_, -, arranged⟩ := Ranker.arranges_of_rank own.products (defined ranking found).2
  have scores : (entry.products.map (·.finalScore)).Pairwise fun score later => later ≤ score := by
    rw [shows.scores]
    exact List.pairwise_map.mpr (arranged.descends.sublist (Sequence.cut_sublist _ _))
  exact List.pairwise_map.mp scores

end Feeds

section Runs

open Call (Leaves)

variable {setup : FeedSetup σ} {request : Request} {userId : String}
  {limit productsPerVendor : Int} {state : σ} {feed : VendorFeed}

/-- The candidates that a request considers, and what is known about their vendors. -/
def considered (setup : FeedSetup σ) (userId : String) (limit productsPerVendor : Int) :
    StateM σ (List Item × TrustMap) := do
  let profile ← (Profile.computeStyle setup.world setup.profile userId).orElse none
  let candidates ← Retrieval.candidates setup.world {
    vector := profile
    limit := limit * productsPerVendor * overfetch
    candidates := searchWidth
    filters := none
    index := styleIndex }
  let trust ← setup.gatherTrust candidates
  pure (candidates, trust)

/-- A feed is made of considered candidates: those that pass the plain filters are grouped and
ranked, and the best of them are shown. -/
structure IsMadeOf (considered : List Item × TrustMap) (limit productsPerVendor : Int)
    (rankings : List Ranking) (feed : VendorFeed) : Prop where
  ranked : rankGroups considered.2
    (groups (considered.1.filter (Filter.keeps considered.2 .plain))) = .ok rankings
  assembled : Assembled rankings limit productsPerVendor feed.vendors
  filtered : feed.trace.filtered = (considered.1.filter (Filter.keeps considered.2 .plain)).length

/-- A feed that is returned is made of the candidates that its request considers. -/
theorem isMadeOf_of_answer (answers :
    ((Vendors.feed setup ⟨some userId, some limit, some productsPerVendor⟩).outcome state).1 =
      .ok feed) :
    1 ≤ productsPerVendor ∧
      ∃ rankings, IsMadeOf ((considered setup userId limit productsPerVendor).run state).1 limit
        productsPerVendor rankings feed := by
  obtain ⟨user, required, answers⟩ := Call.answers_ofExcept_bind_iff.mp answers
  cases FeedSetup.eq_of_requireText required
  obtain ⟨count, required, answers⟩ := Call.answers_ofExcept_bind_iff.mp answers
  cases (FeedSetup.eq_of_requirePositive required).1
  obtain ⟨products, required, answers⟩ := Call.answers_ofExcept_bind_iff.mp answers
  obtain ⟨⟨⟩, positive⟩ := FeedSetup.eq_of_requirePositive required
  -- The profile, the candidates and the standings of their vendors are those of the request.
  replace answers := Call.answers_ofState_bind_iff.mp answers
  replace answers := Call.answers_ofState_bind_iff.mp answers
  replace answers := Call.answers_ofState_bind_iff.mp answers
  obtain ⟨result, ran, answers⟩ := Call.answers_ofExcept_bind_iff.mp answers
  obtain ⟨rankings, ranked, answers⟩ := Call.answers_ofExcept_bind_iff.mp answers
  replace answers := Call.answers_ofState_bind_iff.mp answers
  obtain ⟨vendors, made, answers⟩ := Call.answers_ofExcept_bind_iff.mp answers
  cases answers
  have kept := Filter.kept_of_run ran
  obtain ⟨shows, placed⟩ := shows_of_entriesFrom made
  refine ⟨positive, rankings, kept ▸ ranked, ⟨shows, fun index entry there => ?_⟩, congrArg _ kept⟩
  exact Int.zero_add (index * productsPerVendor) ▸ placed index entry there

/-- A feed that is made of different candidates groups those that pass the filters. -/
theorem IsMadeOf.groups {considered : List Item × TrustMap} {rankings : List Ranking}
    (made : IsMadeOf considered limit productsPerVendor rankings feed)
    (ids : (considered.1.map (·.id)).Nodup) (positive : 1 ≤ limit) (shown : 1 ≤ productsPerVendor) :
    Groups (considered.1.filter (Filter.keeps considered.2 .plain)) limit productsPerVendor
      feed := by
  obtain ⟨ranked, assembled, filtered⟩ := made
  have ranks := ranks_of_rankGroups ranked
  have presents := assembled.presents ranks shown
  have vendors := assembled.nodup ranks
  have limited : (feed.vendors.length : Int) ≤ limit :=
    assembled.shows.length_eq ▸ Sequence.length_cut_le (by omega) _
  exact {
    limited, vendors, presents, filtered
    products := products_nodup presents vendors (ids.sublist (List.filter_sublist.map _))
    positions := assembled.positions presents shown
    placed := fun index entry there product member => assembled.place presents shown there member
    complete := fun room => filtered ▸ assembled.complete ranks (by omega) room }

/-- Considered candidates are on offer, and no two of them share an id. -/
theorem considered_leaves (conduct : Conduct setup) (userId : String)
    (limit productsPerVendor : Int) :
    Leaves conduct.safe (considered setup userId limit productsPerVendor)
      fun considered => Offers conduct.offered True considered.1 := by
  refine (conduct.steady.computeStyle setup.profile userId).bind fun profile _ => ?_
  refine (conduct.candidates _).bind fun candidates offers => ?_
  exact (conduct.gather candidates).bind fun trust _ => .pure offers

/-- Over collaborators that supply items with ordinary figures every valid request gets a feed. It
groups the considered candidates that pass the filters; and if the scores of the ranked vendors and
of their products are defined, it descends. -/
theorem feed_groups {world : Collaborators σ} {safe : σ → Prop} (supplies : world.Supplies safe)
    (setup : FeedSetup σ) {userId : String} (named : userId ≠ "") {limit productsPerVendor : Int}
    (positive : 1 ≤ limit) (shown : 1 ≤ productsPerVendor) {state : σ} (kept : safe state) :
    ∃ feed rankings,
      ((Vendors.feed (setup.over world)
        ⟨some userId, some limit, some productsPerVendor⟩).outcome state).1 = .ok feed ∧
      let considered := ((considered (setup.over world) userId limit productsPerVendor).run state).1
      let survivors := considered.1.filter (Filter.keeps considered.2 .plain)
      rankGroups considered.2 (groups survivors) = .ok rankings ∧
        Groups survivors limit productsPerVendor feed ∧
        ((∀ ranking ∈ rankings, ranking.IsDefined) → Descends survivors feed) := by
  let conduct := supplies.conduct setup
  let request : Request := ⟨some userId, some limit, some productsPerVendor⟩
  have valid : request.IsValid := ⟨⟨userId, rfl, named⟩, ⟨limit, rfl, positive⟩, _, rfl, shown⟩
  obtain ⟨feed, answers⟩ := ((feed_ends conduct request).answers kept (fun _ fails => fails.2)
    fun _ holds => holds).given valid
  obtain ⟨-, rankings, made⟩ := isMadeOf_of_answer answers
  obtain ⟨offers, -⟩ := considered_leaves conduct userId limit productsPerVendor state kept
  exact ⟨feed, rankings, answers, made.ranked, made.groups (offers.nodup trivial) positive shown,
    made.assembled.descends (ranks_of_rankGroups made.ranked)⟩

/-- The candidates that the sample stores offer to a user who asks for some vendors with one product
each, and the standings of their vendors. -/
def sampleConsidered (limit : Int) : List Item × TrustMap :=
  ((considered Memory.sampleSetup "ada" limit 1).run Memory.sample).1

/-- What the filters keep of these candidates. -/
def sampleSurvivors (limit : Int) : List Item :=
  (sampleConsidered limit).1.filter (Filter.keeps (sampleConsidered limit).2 .plain)

/-- Of the sample stores two vendors of one score are shown, in the order in which they occur; the
fabric of a vendor that is not approved and the ring that is out of stock are not counted. -/
theorem feed_groups_sample :
    (Memory.withEmbedding none).Supplies Memory.sample.Agrees ∧
      ∃ feed, ((Vendors.feed Memory.sampleSetup ⟨some "ada", some 2, some 1⟩).outcome
          Memory.sample).1 = .ok feed ∧
        feed.vendors.map (fun entry => (entry.vendorId, entry.productCount)) =
          [("loom", 2), ("tannery", 1)] ∧
        Groups (sampleSurvivors 2) 2 1 feed ∧ Descends (sampleSurvivors 2) feed := by
  have supplies : (Memory.withEmbedding none).Supplies Memory.sample.Agrees :=
    Memory.supplies none fun item member => (Memory.sample_ordinary item member).figures
  obtain ⟨feed, rankings, answers, ranked, groups, descends⟩ := feed_groups supplies
    Memory.sampleSetup (show "ada" ≠ "" by decide) (show (1 : Int) ≤ 2 by decide)
    (show (1 : Int) ≤ 1 by decide) (Memory.Agrees.refl Memory.sample)
  replace answers : ((Vendors.feed Memory.sampleSetup ⟨some "ada", some 2, some 1⟩).outcome
      Memory.sample).1 = .ok feed := answers
  replace ranked : rankGroups (sampleConsidered 2).2 (Vendors.groups (sampleSurvivors 2)) =
    .ok rankings := ranked
  obtain ⟨_, same, vendors⟩ := Call.ok_of_toOption_map (show
    ((Vendors.feed Memory.sampleSetup ⟨some "ada", some 2, some 1⟩).outcome
      Memory.sample).1.toOption.map
        (·.vendors.map fun entry => (entry.vendorId, entry.productCount)) =
      some [("loom", 2), ("tannery", 1)] by decide +kernel)
  cases answers.symm.trans same
  obtain ⟨_, same, scores⟩ := Call.ok_of_toOption_map (show
    (rankGroups (sampleConsidered 2).2 (Vendors.groups (sampleSurvivors 2))).toOption.map
      (·.all fun ranking =>
        !ranking.score.isNaN && ranking.products.all (!·.finalScore.isNaN)) =
      some true by decide +kernel)
  cases ranked.symm.trans same
  have defined : ∀ ranking ∈ rankings, ranking.IsDefined := by
    simpa [Ranking.IsDefined] using scores
  exact ⟨supplies, feed, answers, vendors, groups, descends defined⟩

end Runs

end Vendors

end Storefront
