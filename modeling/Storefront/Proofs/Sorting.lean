import Mathlib.Order.Defs.LinearOrder
import Storefront.Proofs.Sequences
/-!
# Sorting by rank

Sorting by a rank puts the elements in descending order and keeps elements of one rank in the order
in which they came, whichever of them are looked at. A comparison that may fail sorts like one that
does not if it succeeds on all elements; if it tells kinds of elements apart by failing between
them, it sorts only lists of one kind. A comparison that is an order up to ties ranks the elements
of a list that it can compare: each by the number of elements below it.
-/

namespace Storefront.Sequence

variable {α κ : Type}

section Ranking

variable {ρ : Type} [LinearOrder ρ] (rank : α → ρ)

/-- Whether the rank of one element is below that of another. -/
def ranksBelow (x y : α) : Bool := decide (rank x < rank y)

variable {rank}

/-- An element that no other one is above goes to the front. -/
theorem insertDescending_eq_cons {x : α} {xs : List α} (top : ∀ y ∈ xs, rank y ≤ rank x) :
    insertDescending (ranksBelow rank) x xs = x :: xs := by
  cases xs with
  | nil => rfl
  | cons y rest =>
    have above : ¬ rank x < rank y := not_lt.mpr (top y List.mem_cons_self)
    rw [insertDescending, ranksBelow, decide_eq_false above]
    rfl

/-- Inserting the first element of a list into the others in order keeps the order within a rank. -/
theorem insertDescending_stable {before : α → α → Prop} {x : α} {xs : List α}
    (first : ∀ y ∈ xs, before x y)
    (sorted : xs.Pairwise fun a b => rank b < rank a ∨ rank b = rank a ∧ before a b) :
    (insertDescending (ranksBelow rank) x xs).Pairwise
      fun a b => rank b < rank a ∨ rank b = rank a ∧ before a b := by
  induction xs with
  | nil => exact List.pairwise_singleton _ x
  | cons y rest ih =>
    obtain ⟨top, others⟩ := List.pairwise_cons.mp sorted
    rw [List.forall_mem_cons] at first
    by_cases lower : rank x < rank y
    · rw [insertDescending, ranksBelow, decide_eq_true lower, if_pos rfl, List.pairwise_cons]
      refine ⟨fun z member => ?_, ih first.2 others⟩
      rcases List.mem_cons.mp ((insertDescending_perm _ x rest).subset member) with rfl | later
      · exact .inl lower
      · exact top z later
    · have tops : ∀ z ∈ y :: rest, rank z ≤ rank x := by
        rw [List.forall_mem_cons]
        refine ⟨not_lt.mp lower, fun z later => ?_⟩
        exact ((top z later).elim le_of_lt fun same => same.1.le).trans (not_lt.mp lower)
      rw [insertDescending_eq_cons tops]
      refine List.pairwise_cons.mpr ⟨fun z member => ?_, sorted⟩
      exact (tops z member).lt_or_eq.imp_right fun same =>
        ⟨same, (List.forall_mem_cons.mpr first) z member⟩

/-- A sorted list descends, and within a rank it keeps the order of the list. -/
theorem descending_stable {before : α → α → Prop} {xs : List α} (ordered : xs.Pairwise before) :
    (descending (ranksBelow rank) xs).Pairwise
      fun a b => rank b < rank a ∨ rank b = rank a ∧ before a b := by
  induction xs with
  | nil => exact .nil
  | cons x rest ih =>
    obtain ⟨first, others⟩ := List.pairwise_cons.mp ordered
    refine insertDescending_stable (fun y member => first y ?_) (ih others)
    exact (descending_perm _ rest).subset member

/-- A sorted list descends. -/
theorem descending_pairwise (xs : List α) :
    (descending (ranksBelow rank) xs).Pairwise fun a b => rank b ≤ rank a := by
  have anyOrder : xs.Pairwise fun _ _ => True := List.pairwise_of_forall fun _ _ => trivial
  exact (descending_stable anyOrder).imp fun either => either.elim le_of_lt fun same => same.1.le

/-- Sorting leaves a list that descends already as it is. -/
theorem descending_eq_self {xs : List α} (sorted : xs.Pairwise fun a b => rank b ≤ rank a) :
    descending (ranksBelow rank) xs = xs := by
  induction xs with
  | nil => rfl
  | cons x rest ih =>
    obtain ⟨top, others⟩ := List.pairwise_cons.mp sorted
    rw [descending, List.foldr_cons, ← descending, ih others, insertDescending_eq_cons top]

/-- Picking elements of a list in descending order into which one more element is inserted. -/
theorem filter_insertDescending (p : α → Bool) (x : α) {xs : List α}
    (sorted : xs.Pairwise fun a b => rank b ≤ rank a) :
    (insertDescending (ranksBelow rank) x xs).filter p =
      if p x then insertDescending (ranksBelow rank) x (xs.filter p) else xs.filter p := by
  induction xs with
  | nil => cases picked : p x <;> simp [insertDescending, picked]
  | cons y rest ih =>
    obtain ⟨top, others⟩ := List.pairwise_cons.mp sorted
    by_cases lower : rank x < rank y
    · rw [insertDescending, ranksBelow, decide_eq_true lower, if_pos rfl, List.filter_cons,
        ih others, List.filter_cons]
      cases p y with
      | false => rfl
      | true =>
        cases p x with
        | false => rfl
        | true => simp [insertDescending, ranksBelow, lower]
    · have tops : ∀ z ∈ y :: rest, rank z ≤ rank x := by
        rw [List.forall_mem_cons]
        exact ⟨not_lt.mp lower, fun z later => (top z later).trans (not_lt.mp lower)⟩
      have picked : ∀ z ∈ (y :: rest).filter p, rank z ≤ rank x :=
        fun z member => tops z (List.mem_of_mem_filter member)
      rw [insertDescending_eq_cons tops, insertDescending_eq_cons picked, List.filter_cons]

/-- Picking elements of a sorted list is sorting the elements picked. -/
theorem filter_descending (p : α → Bool) (xs : List α) :
    (descending (ranksBelow rank) xs).filter p = descending (ranksBelow rank) (xs.filter p) := by
  induction xs with
  | nil => rfl
  | cons x rest ih =>
    rw [descending, List.foldr_cons, ← descending,
      filter_insertDescending p x (descending_pairwise rest), ih, List.filter_cons]
    cases p x <;> rfl

/-- Elements of one rank keep their order. -/
theorem filter_descending_of_rank (level : ρ) (xs : List α) :
    (descending (ranksBelow rank) xs).filter (fun x => rank x == level) =
      xs.filter fun x => rank x == level := by
  rw [filter_descending]
  refine descending_eq_self (List.pairwise_of_forall_mem_list fun x first y second => ?_)
  have same : ∀ z ∈ xs.filter (fun x => rank x == level), rank z = level :=
    fun z member => eq_of_beq (List.mem_filter.mp member).2
  rw [same x first, same y second]

end Ranking

section Comparing

/-- Sorting elements by what they are mapped to is sorting what they are mapped to. -/
theorem map_descending {β : Type} (f : β → α) (below : α → α → Bool) (xs : List β) :
    (descending (fun x y => below (f x) (f y)) xs).map f = descending below (xs.map f) := by
  have inserted : ∀ x (ys : List β), (insertDescending (fun x y => below (f x) (f y)) x ys).map f =
      insertDescending below (f x) (ys.map f) := by
    intro x ys
    induction ys with
    | nil => rfl
    | cons y rest ih =>
      unfold insertDescending
      rw [apply_ite (List.map f), List.map_cons, ih]
      rfl
  induction xs with
  | nil => rfl
  | cons x rest ih =>
    rw [descending, List.foldr_cons, ← descending, inserted, ih]
    rfl

/-- Inserting by two comparisons that agree on the list. -/
theorem insertDescending_congr {below other : α → α → Bool} {x : α} {xs : List α}
    (agrees : ∀ y ∈ xs, below x y = other x y) :
    insertDescending below x xs = insertDescending other x xs := by
  induction xs with
  | nil => rfl
  | cons y rest ih =>
    rw [List.forall_mem_cons] at agrees
    rw [insertDescending, insertDescending, agrees.1, ih agrees.2]

/-- Sorting by two comparisons that agree on the list. -/
theorem descending_congr {below other : α → α → Bool} {xs : List α}
    (agrees : ∀ x ∈ xs, ∀ y ∈ xs, below x y = other x y) :
    descending below xs = descending other xs := by
  induction xs with
  | nil => rfl
  | cons x rest ih =>
    have others := ih fun first earlier second later =>
      agrees first (List.mem_cons_of_mem _ earlier) second (List.mem_cons_of_mem _ later)
    rw [descending, List.foldr_cons, ← descending, others]
    refine insertDescending_congr fun y member => agrees x List.mem_cons_self y ?_
    exact List.mem_cons_of_mem _ ((descending_perm other rest).subset member)

/-- Inserting by a comparison that succeeds throughout. -/
theorem insertDescendingM_eq {belowM : α → α → Except Fault Bool} {below : α → α → Bool} {x : α}
    {xs : List α} (compares : ∀ y ∈ xs, belowM x y = .ok (below x y)) :
    insertDescendingM belowM x xs = .ok (insertDescending below x xs) := by
  induction xs with
  | nil => rfl
  | cons y rest ih =>
    rw [List.forall_mem_cons] at compares
    rw [insertDescendingM, insertDescending, compares.1, ih compares.2]
    cases below x y <;> rfl

/-- Sorting by a comparison that succeeds between any element and a later one. -/
theorem descendingM_eq_of_pairwise {belowM : α → α → Except Fault Bool} {below : α → α → Bool}
    {xs : List α} (compares : xs.Pairwise fun x y => belowM x y = .ok (below x y)) :
    descendingM belowM xs = .ok (descending below xs) := by
  induction xs with
  | nil => rfl
  | cons x rest ih =>
    obtain ⟨first, others⟩ := List.pairwise_cons.mp compares
    rw [descendingM, ih others]
    exact insertDescendingM_eq fun y member =>
      first y ((descending_perm below rest).subset member)

/-- Sorting by a comparison that succeeds throughout. -/
theorem descendingM_eq {belowM : α → α → Except Fault Bool} {below : α → α → Bool} {xs : List α}
    (compares : ∀ x ∈ xs, ∀ y ∈ xs, belowM x y = .ok (below x y)) :
    descendingM belowM xs = .ok (descending below xs) :=
  descendingM_eq_of_pairwise (List.pairwise_of_forall_mem_list compares)

/-- Where elements of different kinds cannot be compared, only a list of one kind is sorted. -/
theorem kind_eq_of_descendingM {kind : α → κ} {belowM : α → α → Except Fault Bool}
    (apart : ∀ x y lower, belowM x y = .ok lower → kind x = kind y) {xs : List α} :
    ∀ {sorted : List α}, descendingM belowM xs = .ok sorted →
      ∀ x ∈ xs, ∀ y ∈ xs, kind x = kind y := by
  induction xs with
  | nil => exact fun _ _ member => by cases member
  | cons x rest ih =>
    intro sorted sorts
    unfold descendingM at sorts
    rcases deeper : descendingM belowM rest with fault | others
    · rw [deeper] at sorts
      cases sorts
    · rw [deeper] at sorts
      have alike := ih deeper
      -- The first comparison that inserting makes is with the greatest of the other elements.
      have first : ∀ y ∈ rest, kind x = kind y := by
        intro y member
        have perm := descendingM_perm deeper
        cases others with
        | nil => exact absurd (perm.symm.subset member) List.not_mem_nil
        | cons top lower =>
          change insertDescendingM belowM x (top :: lower) = .ok sorted at sorts
          unfold insertDescendingM at sorts
          rcases compared : belowM x top with fault | isLower
          · rw [compared] at sorts
            cases sorts
          · exact (apart x top isLower compared).trans
              (alike top (perm.subset List.mem_cons_self) y member)
      intro a held b alsoHeld
      rcases List.mem_cons.mp held with rfl | earlier <;>
        rcases List.mem_cons.mp alsoHeld with rfl | later
      · rfl
      · exact first b later
      · exact (first a earlier).symm
      · exact alike a earlier b later

end Comparing

section Orders

variable {β : Type} {belowM : α → α → Except Fault Bool} {ties : α → α → Bool} {x y : α}
  {xs : List α}

/-- A comparison that may fail is an order, up to ties: nothing is below itself, and what is below
an element is below what is above or tied with the element, but is not tied with it. -/
structure IsOrder (belowM : α → α → Except Fault Bool) (ties : α → α → Bool) : Prop where
  irrefl : ∀ x, belowM x x ≠ .ok true
  trans : ∀ x y z, belowM x y = .ok true → belowM y z = .ok true → belowM x z = .ok true
  tied : ∀ x y z, belowM x y = .ok true → ties y z = true → belowM x z = .ok true
  apart : ∀ x y, belowM x y = .ok true → ties x y = false

/-- Two elements can be compared either way round, and unless one of them is below the other they
are tied. -/
structure Compares (belowM : α → α → Except Fault Bool) (ties : α → α → Bool) (x y : α) :
    Prop where
  answers : ∃ lower, belowM x y = .ok lower
  back : ∃ lower, belowM y x = .ok lower
  decides : belowM x y = .ok true ∨ belowM y x = .ok true ∨ ties x y = true ∧ ties y x = true

/-- Elements can be compared either way round. -/
theorem Compares.symm (compares : Compares belowM ties x y) : Compares belowM ties y x where
  answers := compares.back
  back := compares.answers
  decides := compares.decides.elim (fun below => .inr (.inl below)) fun others =>
    others.imp_right fun tied => .inr tied.symm

/-- Whether the comparison says that one element is below another. -/
def isBelow (belowM : α → α → Except Fault Bool) (x y : α) : Bool :=
  (belowM x y).toOption == some true

@[simp] theorem isBelow_iff : isBelow belowM x y = true ↔ belowM x y = .ok true := by
  cases compared : belowM x y <;> simp [isBelow, compared, Except.toOption]

/-- How many elements of a list are below an element. -/
def height (belowM : α → α → Except Fault Bool) (xs : List α) (x : α) : Nat :=
  xs.countP (isBelow belowM · x)

/-- An element of which another one is above is less high. -/
theorem IsOrder.height_lt (order : IsOrder belowM ties) (member : x ∈ xs)
    (below : belowM x y = .ok true) : height belowM xs x < height belowM xs y := by
  have fewer : ∀ zs : List α, height belowM zs x ≤ height belowM zs y := fun zs =>
    List.countP_mono_left fun z _ lower =>
      isBelow_iff.mpr (order.trans z x y (isBelow_iff.mp lower) below)
  -- The element itself is counted only on one side.
  obtain ⟨before, after, rfl⟩ := List.append_of_mem member
  have first := fewer before
  have last := fewer after
  have uncounted := order.irrefl x
  simp only [height, List.countP_append, List.countP_cons, isBelow_iff, below, uncounted,
    if_true, if_false] at first last ⊢
  omega

/-- Elements that are tied are equally high. -/
theorem IsOrder.height_eq (order : IsOrder belowM ties) (tied : ties x y = true)
    (back : ties y x = true) : height belowM xs x = height belowM xs y := by
  refine List.countP_congr fun z _ => ?_
  rw [isBelow_iff, isBelow_iff]
  exact ⟨fun lower => order.tied z x y lower tied, fun lower => order.tied z y x lower back⟩

/-- Elements of a list that can be compared are compared by their heights. -/
theorem IsOrder.below_eq (order : IsOrder belowM ties) (compares : Compares belowM ties x y)
    (first : x ∈ xs) (second : y ∈ xs) :
    belowM x y = .ok (ranksBelow (height belowM xs) x y) := by
  obtain ⟨lower, answer⟩ := compares.answers
  have outcome : lower = true ↔ height belowM xs x < height belowM xs y := by
    constructor
    · rintro rfl
      exact order.height_lt first answer
    · intro higher
      rcases compares.decides with below | above | ⟨tied, back⟩
      · exact Except.ok.inj (answer.symm.trans below)
      · exact absurd (order.height_lt second above) (lt_asymm higher)
      · exact absurd (order.height_eq tied back) higher.ne
  rw [answer, ranksBelow, Except.ok.injEq, Bool.eq_iff_iff, outcome, decide_eq_true_iff]

/-- A list rearranged by a key: each element may stand before the later ones, and elements whose keys
are tied with one and the same key stand as they came. -/
structure Arranges (before : α → α → Prop) (ties : α → α → Bool) (key : β → α)
    (xs sorted : List β) : Prop where
  perm : sorted.Perm xs
  order : sorted.Pairwise fun x later => before (key x) (key later)
  ties : ∀ level, (sorted.filter fun x => ties (key x) level) =
    xs.filter fun x => ties (key x) level

variable {key : β → α} {items : List β}

/-- Elements whose keys can be compared with one another are sorted downward: none stands before one
with a key above its own. -/
theorem IsOrder.descendingM_arranges (order : IsOrder belowM ties)
    (compares : items.Pairwise fun x y => Compares belowM ties (key x) (key y)) :
    ∃ sorted, descendingM (fun x y => belowM (key x) (key y)) items = .ok sorted ∧
      Arranges (fun x later => belowM x later ≠ .ok true) ties key items sorted := by
  have known : ∀ {x}, x ∈ items → key x ∈ items.map key := List.mem_map_of_mem
  have ranked : descendingM (fun x y => belowM (key x) (key y)) items =
      .ok (descending (ranksBelow (height belowM (items.map key) ∘ key)) items) :=
    descendingM_eq_of_pairwise (compares.imp_of_mem fun first second pair =>
      order.below_eq pair (known first) (known second))
  have perm := descending_perm (ranksBelow (height belowM (items.map key) ∘ key)) items
  refine ⟨_, ranked, perm, ?order, fun level => ?ties⟩
  case order =>
    refine (descending_pairwise items).imp_of_mem fun {x y} first _ lower below => ?_
    exact absurd (order.height_lt (known (perm.subset first)) below) (not_lt.mpr lower)
  case ties =>
    rw [filter_descending]
    refine descending_eq_self ((compares.sublist List.filter_sublist).imp_of_mem ?_)
    intro x y first second pair
    obtain ⟨first, tied⟩ := List.mem_filter.mp first
    obtain ⟨second, alsoTied⟩ := List.mem_filter.mp second
    refine not_lt.mp fun lower => ?_
    have below : belowM (key x) (key y) = .ok true :=
      (order.below_eq pair (known first) (known second)).trans
        (congrArg Except.ok (decide_eq_true lower))
    have apart := order.apart _ _ (order.tied _ _ level below alsoTied)
    exact Bool.false_ne_true (apart.symm.trans tied)

/-- Elements whose keys can be compared with one another are sorted upward as they are downward from
the other end. -/
theorem IsOrder.ascendingM_arranges (order : IsOrder belowM ties)
    (compares : items.Pairwise fun x y => Compares belowM ties (key x) (key y)) :
    ∃ sorted, ascendingM (fun x y => belowM (key x) (key y)) items = .ok sorted ∧
      Arranges (fun x later => belowM later x ≠ .ok true) ties key items sorted := by
  have reversed := List.pairwise_reverse.mpr (compares.imp fun pair => pair.symm)
  obtain ⟨sorted, sorts, down⟩ := order.descendingM_arranges reversed
  refine ⟨sorted.reverse, by rw [ascendingM, sorts]; rfl, ?_, ?_, fun level => ?_⟩
  · exact (List.reverse_perm _).trans (down.perm.trans (List.reverse_perm _))
  · exact List.pairwise_reverse.mpr down.order
  · rw [List.filter_reverse, down.ties, List.filter_reverse, List.reverse_reverse]

end Orders

end Storefront.Sequence
