import Storefront.Proofs.Conduct
import Storefront.Proofs.Lookups
import Storefront.Store.Memory
/-!
# Stores in memory keep to a conduct

A table keeps a key once, so a catalog that was built by adding items keeps an id once. Listing and
searching the catalog rearrange and cut what it holds. Feeds over the stores change nothing but the
kept profiles; together this makes a conduct for any property of items that the catalog's items
have.
-/

namespace Storefront

namespace Table

variable {α : Type}

/-- Every value is stored under its own key, and no key occurs twice. -/
structure Keyed (key : α → String) (table : Table α) : Prop where
  own : ∀ entry ∈ table.entries, entry.1 = key entry.2
  nodup : table.keys.Nodup

/-- Storing a value adds its key at the end, unless the key is there already. -/
theorem keys_putEntry (name : String) (value : α) (entries : List (String × α)) :
    (putEntry name value entries).map Prod.fst =
      if name ∈ entries.map Prod.fst then entries.map Prod.fst
      else entries.map Prod.fst ++ [name] := by
  induction entries with
  | nil => rfl
  | cons entry rest ih =>
    unfold putEntry
    by_cases same : entry.1 = name
    · simp [same]
    · rw [if_neg same, List.map_cons, ih]
      by_cases known : name ∈ rest.map Prod.fst <;> simp [known, Ne.symm same]

/-- A stored value is found under its key, and under other keys what was there before. -/
theorem find?_put (table : Table α) (key : String) (value : α) (name : String) :
    (table.put key value).find? name = if name = key then some value else table.find? name := by
  obtain ⟨entries⟩ := table
  change (putEntry key value entries).lookup name = if name = key then some value
    else entries.lookup name
  have first : ∀ (other : String) (stored : α) (rest : List (String × α)),
      ((other, stored) :: rest).lookup name =
        if name = other then some stored else rest.lookup name := by
    intro other stored rest
    rw [List.lookup_cons]
    by_cases same : name = other
    · simp [same]
    · rw [beq_false_of_ne same, if_neg same]
  induction entries with
  | nil => exact first key value []
  | cons entry rest ih =>
    obtain ⟨other, old⟩ := entry
    rw [putEntry]
    by_cases here : other = key
    · rw [if_pos here, first, first]
      by_cases same : name = key
      · rw [if_pos same, if_pos same]
      · rw [if_neg same, if_neg same, if_neg (here ▸ same)]
    · rw [if_neg here, first, first, ih]
      by_cases same : name = other
      · rw [if_pos same, if_neg (same ▸ here), if_pos same]
      · rw [if_neg same, if_neg same]

/-- An entry after storing a value is the new one or was there before. -/
theorem mem_putEntry {name : String} {value : α} {entries : List (String × α)}
    {entry : String × α} (member : entry ∈ putEntry name value entries) :
    entry = (name, value) ∨ entry ∈ entries := by
  induction entries with
  | nil => exact .inl (List.mem_singleton.mp member)
  | cons first rest ih =>
    unfold putEntry at member
    split at member
    · exact (List.mem_cons.mp member).imp_right (List.mem_cons_of_mem _)
    · rcases List.mem_cons.mp member with rfl | later
      · exact .inr List.mem_cons_self
      · exact (ih later).imp_right (List.mem_cons_of_mem _)

/-- Storing a value under its own key keeps a table keyed. -/
theorem Keyed.put {key : α → String} {table : Table α} (keyed : table.Keyed key) (value : α) :
    (table.put (key value) value).Keyed key where
  own entry member := by
    rcases mem_putEntry member with rfl | before
    · rfl
    · exact keyed.own entry before
  nodup := by
    change ((putEntry (key value) value table.entries).map Prod.fst).Nodup
    have nodup : (table.entries.map Prod.fst).Nodup := keyed.nodup
    rw [keys_putEntry]
    split
    · exact nodup
    · next absent =>
      rw [← List.concat_eq_append]
      exact nodup.concat absent

/-- Nothing is stored in an empty table. -/
theorem empty_keyed (key : α → String) : (Table.empty : Table α).Keyed key where
  own entry member := by cases member
  nodup := List.nodup_nil

/-- A keyed table has the keys of its values. -/
theorem Keyed.keys_eq {key : α → String} {table : Table α} (keyed : table.Keyed key) :
    table.keys = table.values.map key := by
  rw [values, List.map_map]
  exact List.map_congr_left fun entry member => keyed.own entry member

/-- The keys of the values of a keyed table are pairwise different. -/
theorem Keyed.nodup_values {key : α → String} {table : Table α} (keyed : table.Keyed key) :
    (table.values.map key).Nodup := keyed.keys_eq ▸ keyed.nodup

/-- What is stored under a key that occurs once is found under it. -/
theorem find?_of_mem {table : Table α} {name : String} {value : α} (nodup : table.keys.Nodup)
    (member : (name, value) ∈ table.entries) : table.find? name = some value := by
  obtain ⟨before, after, split⟩ := List.append_of_mem member
  refine List.lookup_eq_some_iff.mpr ⟨before, after, split, fun entry earlier => ?_⟩
  rw [keys, split, List.map_append] at nodup
  have apart := (List.nodup_append.mp nodup).2.2 entry.1 (List.mem_map_of_mem earlier) name
    (List.mem_map_of_mem List.mem_cons_self)
  simpa using apart.symm

/-- Exactly the value with a key is found under it. -/
theorem Keyed.find?_eq_some_iff {key : α → String} {table : Table α} (keyed : table.Keyed key)
    {name : String} {value : α} :
    table.find? name = some value ↔ value ∈ table.values ∧ key value = name := by
  constructor
  · intro found
    obtain ⟨before, after, split, -⟩ := List.lookup_eq_some_iff.mp found
    have member : (name, value) ∈ table.entries := by simp [split]
    exact ⟨List.mem_map_of_mem member, (keyed.own _ member).symm⟩
  · rintro ⟨member, rfl⟩
    obtain ⟨⟨name, value⟩, stored, rfl⟩ := List.mem_map.mp member
    exact find?_of_mem keyed.nodup (keyed.own _ stored ▸ stored)

end Table

namespace Vector

variable {R α : Type} [Analytic R]

/-- Candidates with a similarity to a query are candidates, in order. -/
theorem similar_sublist (query : List R) (vectorOf : α → Option (List R)) (candidates : List α) :
    ((candidates.filterMap (similarity? query vectorOf)).map Prod.snd).Sublist candidates := by
  induction candidates with
  | nil => exact .slnil
  | cons candidate rest ih =>
    cases comparable : (vectorOf candidate).filter (isComparable query) with
    | none =>
      simp only [List.filterMap_cons, similarity?, comparable]
      exact ih.cons candidate
    | some vector =>
      simp only [List.filterMap_cons, similarity?, comparable, List.map_cons]
      exact ih.cons_cons candidate

/-- The nearest candidates are a rearranged part of the candidates. -/
theorem nearest_subperm (query : List R) (vectorOf : α → Option (List R)) (limit : Int)
    (candidates : List α) :
    ((nearest query vectorOf limit candidates).map Prod.snd).Subperm candidates := by
  unfold nearest
  split
  · exact List.nil_subperm
  · refine ((Sequence.cut_sublist limit _).map Prod.snd).subperm.trans ?_
    refine ((Sequence.descending_perm _ _).map Prod.snd).subperm.trans ?_
    exact (similar_sublist query vectorOf candidates).subperm

end Vector

namespace Catalog

variable {catalog : Catalog} {offered : Item → Prop} {distinct : Prop}

/-- A catalog built by adding items keeps every item under its id. -/
theorem ofItems_keyed (items : List Item) : (ofItems items).Keyed (·.id) := by
  have adding : ∀ (items : List Item) (catalog : Catalog), catalog.Keyed (·.id) →
      Table.Keyed (·.id) (items.foldl add catalog) := by
    intro items
    induction items with
    | nil => exact fun _ keyed => keyed
    | cons item rest ih => exact fun catalog keyed => ih _ (keyed.put item)
  exact adding items Table.empty (Table.empty_keyed _)

/-- A catalog built by adding items holds no other items. -/
theorem mem_of_mem_ofItems {items : List Item} {item : Item}
    (member : item ∈ (ofItems items).values) : item ∈ items := by
  have adding : ∀ (items : List Item) (catalog : Catalog),
      item ∈ Table.values (items.foldl add catalog) → item ∈ items ∨ item ∈ catalog.values := by
    intro items
    induction items with
    | nil => exact fun _ found => .inr found
    | cons first rest ih =>
      intro catalog found
      rcases ih _ found with later | added
      · exact .inl (List.mem_cons_of_mem _ later)
      · obtain ⟨entry, stored, rfl⟩ := List.mem_map.mp added
        rcases Table.mem_putEntry stored with rfl | before
        · exact .inl List.mem_cons_self
        · exact .inr (List.mem_map.mpr ⟨entry, before, rfl⟩)
  exact (adding items Table.empty member).elim id fun found => by cases found

/-- The items with an attribute are picked in order. -/
theorem map_withAttribute (name : String) (items : List Item) :
    (withAttribute name items).map Prod.snd =
      items.filter fun item => (item.attribute? name).isSome := by
  induction items with
  | nil => rfl
  | cons item rest ih =>
    unfold withAttribute at ih ⊢
    cases found : item.attribute? name <;> simp [found, ih]

/-- The items with an attribute, and then those without it, are all the items. -/
theorem attribute_perm (name : String) (items : List Item) :
    ((withAttribute name items).map Prod.snd ++ withoutAttribute name items).Perm items := by
  have absent : withoutAttribute name items =
      items.filter fun item => !(item.attribute? name).isSome := by
    simp [withoutAttribute]
  rw [map_withAttribute, absent]
  exact List.filter_append_perm _ items

/-- Ordering items rearranges them. -/
theorem inOrder_perm {sort : String} {items ordered : List Item}
    (sorts : inOrder sort items = .ok ordered) : ordered.Perm items := by
  have joined : ∀ {sorted : List (Attribute × Item)},
      sorted.Perm (withAttribute (orderedBy sort) items) →
      (sorted.map Prod.snd ++ withoutAttribute (orderedBy sort) items).Perm items :=
    fun perm => ((perm.map Prod.snd).append_right _).trans (attribute_perm _ items)
  unfold inOrder at sorts
  dsimp only at sorts
  split at sorts
  · obtain ⟨sorted, down, same⟩ := Call.bind_eq_ok_iff.mp sorts
    cases same
    exact joined (Sequence.descendingM_perm down)
  · obtain ⟨sorted, up, same⟩ := Call.bind_eq_ok_iff.mp sorts
    cases same
    exact joined (Sequence.ascendingM_perm up)

/-- What a catalog lists is a rearranged part of what it offers. -/
theorem listItems_offers (offers : Offers offered distinct catalog.values) {query : CatalogQuery}
    {items : List Item} (lists : catalog.listItems query = .ok items) :
    Offers offered distinct items := by
  have wanted : Offers offered distinct (catalog.wanted query.filters) :=
    offers.sublist List.filter_sublist
  unfold listItems at lists
  dsimp only at lists
  split at lists
  · obtain ⟨ordered, sorts, same⟩ := Call.bind_eq_ok_iff.mp lists
    cases same
    exact (wanted.perm (inOrder_perm sorts)).sublist (Sequence.cutAt_sublist _ _)
  · cases lists
    exact wanted.sublist (Sequence.cutAt_sublist _ _)

/-- What a search finds is on offer, with its similarity as the score. -/
theorem search_offers (offers : Offers offered distinct catalog.values)
    (scored : ∀ item score, offered item → offered (item.scored score)) {query : SearchQuery}
    {items : List Item} (finds : catalog.search query = .ok items) :
    Offers offered False items := by
  refine ⟨fun item member => ?_, fun impossible => impossible.elim⟩
  simp only [search, Call.bind_eq_ok_iff, Call.pure_eq_ok, Except.ok.injEq] at finds
  obtain ⟨vectorOf, -, rfl⟩ := finds
  obtain ⟨⟨similarity, found⟩, near, rfl⟩ := List.mem_map.mp member
  have candidate := (Vector.nearest_subperm _ _ _ _).subset (List.mem_map_of_mem near)
  exact scored found similarity (offers.each found (List.mem_of_mem_filter candidate))

end Catalog

namespace Memory

open Call (Leaves Ends)

/-- A service that embeds a text the same way each time, has no vector for it, or fails; there may
also be no service. -/
abbrev Embedding := Option (String → Except Fault (Option (List Float)))

/-- The collaborators over the stores, with a service that embeds texts. -/
def withEmbedding (embed : Embedding) : Collaborators Memory :=
  { collaborators with embed := embed.map fun answer text => Call.ofExcept (answer text) }

/-- The stores agree in everything but the kept profiles. -/
structure Agrees (base memory : Memory) : Prop where
  catalog : memory.catalog = base.catalog
  events : memory.events = base.events
  preferences : memory.preferences = base.preferences
  standings : memory.standings = base.standings

/-- Stores agree with themselves. -/
theorem Agrees.refl (base : Memory) : base.Agrees base := ⟨rfl, rfl, rfl, rfl⟩

variable {α : Type} {base : Memory}

/-- A question leaves the stores as they are, so its answer is known from what is known of them. -/
theorem ask_ends {safe : Memory → Prop} {answer : Memory → Except Fault α} {post : α → Prop}
    {faults : Fault → Prop}
    (answers : ∀ memory result, safe memory → answer memory = .ok result → post result)
    (fails : ∀ memory fault, safe memory → answer memory = .error fault → faults fault) :
    Ends safe (ask answer) post faults := by
  intro memory known
  have ended : Ends safe (Call.ofExcept (answer memory)) post faults :=
    .ofExcept (fun result given => answers memory result known given)
      fun fault given => fails memory fault known given
  exact ended memory known

/-- A lookup finds what the catalog holds. -/
theorem findItem_ends (base : Memory) (key : Key) {faults : Fault → Prop} :
    Ends base.Agrees (collaborators.findItem key) (· = base.catalog.itemAt? key.slot) faults := by
  refine ask_ends (fun memory item agrees given => ?_) fun _ _ _ fails => by cases fails
  cases given
  rw [agrees.catalog]

/-- A question leaves the stores as they are, whatever it asks. -/
theorem ask_leaves (answer : Memory → Except Fault α) (fallback : α) :
    Leaves base.Agrees ((ask answer).orElse fallback) fun _ => True := by
  have asked : Ends base.Agrees (ask answer) (fun _ => True) fun _ => True :=
    ask_ends (fun _ _ _ _ => trivial) fun _ _ _ _ => trivial
  exact .orElse asked fun _ _ => trivial

/-- What the stores say of a vendor is found in time. -/
theorem lookUp_reports (vendor : String) :
    Leaves base.Agrees (lookUp vendor) (FanOut.Reports (base.standings.find? vendor)) := by
  intro memory agrees
  rw [← agrees.standings]
  cases known : memory.standings.find? vendor with
  | some standing =>
    have looked : (lookUp vendor).run memory = (.found standing, memory) := by
      simp only [lookUp, StateT.run_bind, StateT.run_get, pure_bind, known]
      rfl
    rw [looked]
    exact ⟨rfl, agrees⟩
  | none =>
    have looked : (lookUp vendor).run memory = (.unknown, memory) := by
      simp only [lookUp, StateT.run_bind, StateT.run_get, pure_bind, known]
      rfl
    rw [looked]
    exact ⟨.inl rfl, agrees⟩

section Catalogs

variable {offered : Item → Prop} {distinct : Prop}

/-- The stores list items that their catalog offers. -/
theorem listItems_ends (offers : Offers offered distinct base.catalog.values)
    (query : CatalogQuery) :
    Ends base.Agrees (collaborators.listItems query) (Offers offered distinct) fun _ => True := by
  refine ask_ends (fun memory items agrees lists => ?_) fun _ _ _ _ => trivial
  rw [agrees.catalog] at lists
  exact Catalog.listItems_offers offers lists

/-- The stores find items that their catalog offers. -/
theorem search_ends (offers : Offers offered distinct base.catalog.values)
    (scored : ∀ item score, offered item → offered (item.scored score)) (query : SearchQuery) :
    Ends base.Agrees (ask fun memory => memory.catalog.search query) (Offers offered False)
      fun _ => True := by
  refine ask_ends (fun memory items agrees finds => ?_) fun _ _ _ _ => trivial
  rw [agrees.catalog] at finds
  exact Catalog.search_offers offers scored finds

end Catalogs

/-- The stores report the preferences they hold, and cannot fail to. -/
theorem preferences_ends (userId : String) :
    Ends base.Agrees (ask fun memory => .ok (memory.preferences.find? userId))
      (fun preferences => preferences = base.preferences.find? userId) fun _ => False := by
  refine ask_ends (fun memory preferences agrees given => ?_) fun _ _ _ fails => by cases fails
  cases given
  rw [agrees.preferences]

/-- A text is embedded, or not, without the stores. -/
theorem embed_ends (answer : String → Except Fault (Option (List Float))) (text : String) :
    Ends base.Agrees (Call.ofExcept (answer text)) (fun _ => True) fun _ => True :=
  .ofExcept (fun _ _ => trivial) fun _ _ => trivial

/-- Keeping a profile changes nothing but the kept profiles. -/
theorem saveProfile_ends (record : ProfileRecord) :
    Ends base.Agrees (collaborators.saveProfile record) (fun _ => True) fun _ => True :=
  fun _ agrees => ⟨⟨agrees.catalog, agrees.events, agrees.preferences, agrees.standings⟩, trivial⟩

/-- A setup of feeds over the stores. -/
def feedSetup (embed : Embedding) (profile : Profile.Config) (mixes : Bool)
    (lookups : FanOut.Budget) : FeedSetup Memory where
  world := withEmbedding embed
  profile
  mixes
  lookups

/-- The standings gathered for items are those of the stores, if there is time to gather them. -/
def Gathered (base : Memory) (lookups : FanOut.Budget) (items : List Item) (trust : TrustMap) :
    Prop :=
  lookups.hasTime = true → ∀ item ∈ items, item.vendor ≠ "" →
    trust.lookup item.vendor = base.standings.find? item.vendor

/-- Gathering standings over the stores leaves them as they are, and with time it gives their
standings. -/
theorem gatherTrust_leaves (embed : Embedding) (profile : Profile.Config) (mixes : Bool)
    (lookups : FanOut.Budget) (items : List Item) :
    Leaves base.Agrees ((feedSetup embed profile mixes lookups).gatherTrust items)
      (base.Gathered lookups items) := by
  by_cases timely : lookups.hasTime = true
  · refine (FanOut.gather_leaves lookUp_reports timely _).mono fun trust known _ item member => ?_
    exact known item.vendor (List.mem_map.mpr ⟨item, member, rfl⟩)
  · have gathers : (feedSetup embed profile mixes lookups).gatherTrust items = pure [] := by
      simp only [FeedSetup.gatherTrust, FanOut.gather]
      exact if_neg timely
    rw [gathers]
    exact .pure fun now => absurd now timely

/-- Feeds over the stores leave them in agreement, gather their standings and report their
preferences; what the catalog holds is on offer, with an id at most once. -/
def conduct (base : Memory) (offered : Item → Prop)
    (usable : ∀ item, offered item → item.raw.Usable)
    (offered_scored : ∀ item score, offered item → offered (item.scored score))
    (keyed : base.catalog.Keyed (·.id)) (offers : ∀ item ∈ base.catalog.values, offered item)
    (embed : Embedding) (profile : Profile.Config) (mixes : Bool) (lookups : FanOut.Budget) :
    Conduct (feedSetup embed profile mixes lookups) where
  safe := base.Agrees
  offered := offered
  distinct := True
  gathered := base.Gathered lookups
  stated userId preferences := preferences = base.preferences.find? userId
  usable := usable
  offered_scored := offered_scored
  scan query := by
    have holds : Offers offered True base.catalog.values := ⟨offers, fun _ => keyed.nodup_values⟩
    exact .orElse (listItems_ends holds query) fun _ _ => .nil
  search request := by
    have holds : Offers offered True base.catalog.values := ⟨offers, fun _ => keyed.nodup_values⟩
    unfold Retrieval.personalized
    split
    · next searches =>
      cases searches
      exact .orElse (search_ends holds offered_scored _) fun _ _ => .nil
    · exact .pure .nil
  find id := ask_leaves _ _
  gather items := gatherTrust_leaves embed profile mixes lookups items
  preferences userId := .orElse (preferences_ends userId) fun _ impossible => impossible.elim
  recent userId limit := ask_leaves _ _
  style preferences := by
    unfold Profile.statedStyle
    split
    · next text service _ embeds =>
      obtain ⟨answer, -, rfl⟩ := Option.map_eq_some_iff.mp embeds
      exact .orElse (embed_ends answer text) fun _ _ => trivial
    · exact .pure trivial
  save record := .orElse (saveProfile_ends record) fun _ _ => trivial

end Memory

end Storefront
