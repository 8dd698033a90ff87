import Storefront.Feed.Ranker
/-!
# Mixing

Three ranked streams, one for each kind, are merged into one feed. A pattern of kinds says which
stream gives the next item; a stream with nothing left to give is replaced by the first stream of
a fallback order that has something. While the head of the feed is filled, a vendor may hold only
so many of its places. Items are taken from the front of their stream and never put back.
-/

namespace Storefront

/-- How streams are merged. Kinds are given by name; a name that is no kind is found out when the
mixer gets to it. -/
structure MixerConfig where
  pattern : List String
  fallback : List String
  maxPerVendorHead : Int
  headSize : Int

/-- The way the home feed is merged. -/
def MixerConfig.standard : MixerConfig where
  pattern := ["garment", "garment", "accessory", "garment", "garment", "fabric"]
  fallback := ["garment", "accessory", "fabric"]
  maxPerVendorHead := 2
  headSize := 10

namespace Mixer

/-- What is left of every stream. -/
abbrev Queues := Kind → List Ranked

/-- The queues with one of them replaced. -/
def Queues.set (queues : Queues) (kind : Kind) (queue : List Ranked) : Queues := fun other =>
  if other = kind then queue else queues other

/-- A feed in the making: the items placed so far, last one first, and for every place of the head
the vendor that holds it. -/
structure Progress where
  queues : Queues
  placed : List Ranked
  headVendors : List String

namespace Progress

/-- How many items are placed. -/
def size (progress : Progress) : Nat := progress.placed.length

/-- Whether the next place belongs to the head. -/
def inHead (config : MixerConfig) (progress : Progress) : Bool :=
  decide ((progress.size : Int) < config.headSize)

/-- Whether the item's id is placed already. -/
def hasPlaced (progress : Progress) (ranked : Ranked) : Bool :=
  progress.placed.any fun other => other.item.id == ranked.item.id

/-- Whether the head is being filled and the item's vendor holds all the places it may hold. -/
def isCapped (config : MixerConfig) (progress : Progress) (ranked : Ranked) : Bool :=
  progress.inHead config &&
    decide (config.maxPerVendorHead ≤ (progress.headVendors.count ranked.item.vendor : Nat))

/-- Whether an item is passed over at the next place. -/
def passesOver (config : MixerConfig) (progress : Progress) (ranked : Ranked) : Bool :=
  progress.hasPlaced ranked || progress.isCapped config ranked

/-- Place an item of a stream and go on with what is left of the stream. -/
def place (config : MixerConfig) (progress : Progress) (kind : Kind) (ranked : Ranked)
    (rest : List Ranked) : Progress where
  queues := progress.queues.set kind rest
  placed := { ranked with stream := some kind.stream } :: progress.placed
  headVendors :=
    if progress.inHead config then ranked.item.vendor :: progress.headVendors
    else progress.headVendors

/-- The progress after a stream has turned out to have nothing to give. -/
def exhaust (progress : Progress) (kind : Kind) : Progress :=
  { progress with queues := progress.queues.set kind [] }

end Progress

/-- The outcome of looking for the next item. -/
inductive Found where
  | placed (progress : Progress)
  | nothing (progress : Progress)

/-- Take the next item from one stream. -/
def takeFrom (config : MixerConfig) (progress : Progress) (kind : Kind) : Found :=
  match (progress.queues kind).dropWhile (progress.passesOver config) with
  | [] => .nothing (progress.exhaust kind)
  | ranked :: rest => .placed (progress.place config kind ranked rest)

/-- Take the next item from the first of some streams that has one. -/
def takeFromAny (config : MixerConfig) (progress : Progress) : List String → Except Fault Found
  | [] => .ok (.nothing progress)
  | name :: others =>
    match Kind.ofName? name with
    | none => .error (.unknownKey name)
    | some kind =>
      match takeFrom config progress kind with
      | .placed progress => .ok (.placed progress)
      | .nothing progress => takeFromAny config progress others

/-- The streams that are asked for a place: the one that the pattern names, then the fallbacks. -/
def streamOrder (config : MixerConfig) (required : String) : List String :=
  required :: config.fallback.filter (· != required)

/-- Fill places until the limit is reached or no stream has anything left. Every round places an
item, so as many rounds as there are items are enough. -/
def fill (config : MixerConfig) (limit : Int) : Nat → Progress → Except Fault Progress
  | 0, progress => .ok progress
  | rounds + 1, progress =>
    if limit ≤ progress.size then .ok progress
    else
      match config.pattern[progress.size % config.pattern.length]? with
      | none => .error .emptyPattern
      | some required =>
        match takeFromAny config progress (streamOrder config required) with
        | .error fault => .error fault
        | .ok (.placed progress) => fill config limit rounds progress
        | .ok (.nothing progress) => .ok progress

/-- How many items the streams hold together. -/
def Queues.total (queues : Queues) : Nat :=
  Kind.all.foldl (fun total kind => total + (queues kind).length) 0

/-- Merge three streams into a feed of at most `limit` items. -/
def mix (config : MixerConfig) (queues : Queues) (limit : Int) : Except Fault (List Ranked) :=
  (fill config limit (queues.total + 1) ⟨queues, [], []⟩).map (·.placed.reverse)

/-- The stream of every kind in a ranked list. -/
def split (ranked : List Ranked) : Queues := fun kind => ranked.filter (·.item.kind = kind)

/-- Merge a ranked list of all kinds. -/
def mixRanked (config : MixerConfig) (ranked : List Ranked) (limit : Int) :
    Except Fault (List Ranked) :=
  mix config (split ranked) limit

end Mixer

end Storefront
