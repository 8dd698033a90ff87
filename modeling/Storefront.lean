import Storefront.Feed.Evaluation
import Storefront.Log
import Storefront.Main
import Storefront.Proofs.Absence
import Storefront.Proofs.Assembly
import Storefront.Proofs.Backfills
import Storefront.Proofs.Batches
import Storefront.Proofs.Budgets
import Storefront.Proofs.Businesses
import Storefront.Proofs.Calls
import Storefront.Proofs.Comparisons
import Storefront.Proofs.Conduct
import Storefront.Proofs.Directions
import Storefront.Proofs.Evaluations
import Storefront.Proofs.EventCounts
import Storefront.Proofs.Exact.Blends
import Storefront.Proofs.Exact.Decay
import Storefront.Proofs.Exact.Directions
import Storefront.Proofs.Exact.Pools
import Storefront.Proofs.Exact.Scalars
import Storefront.Proofs.Exact.Scores
import Storefront.Proofs.Exact.Similarities
import Storefront.Proofs.Exact.Styles
import Storefront.Proofs.Explanations
import Storefront.Proofs.Feeds.Arrivals
import Storefront.Proofs.Feeds.Blocking
import Storefront.Proofs.Feeds.Companions
import Storefront.Proofs.Feeds.Grouping
import Storefront.Proofs.Feeds.Heuristics
import Storefront.Proofs.Feeds.Home
import Storefront.Proofs.Feeds.Rankings
import Storefront.Proofs.Feeds.Recency
import Storefront.Proofs.Feeds.Shared
import Storefront.Proofs.Feeds.Relations
import Storefront.Proofs.Feeds.Vendors
import Storefront.Proofs.Fetches
import Storefront.Proofs.Figures
import Storefront.Proofs.Flights
import Storefront.Proofs.Floats.Comparison
import Storefront.Proofs.Floats.Definedness
import Storefront.Proofs.Floats.Order
import Storefront.Proofs.Floats.Rounding
import Storefront.Proofs.Floats.Values
import Storefront.Proofs.Floats.Wholes
import Storefront.Proofs.Guarantees
import Storefront.Proofs.Histories
import Storefront.Proofs.Imports
import Storefront.Proofs.Interleavings
import Storefront.Proofs.KeptProfiles
import Storefront.Proofs.Listings
import Storefront.Proofs.Lookups
import Storefront.Proofs.Merging
import Storefront.Proofs.Mixing.Account
import Storefront.Proofs.Mixing.Filling
import Storefront.Proofs.Mixing.Growth
import Storefront.Proofs.Mixing.Omission
import Storefront.Proofs.Mixing.Steps
import Storefront.Proofs.Mixing.Turns
import Storefront.Proofs.Occurrences
import Storefront.Proofs.Outages
import Storefront.Proofs.Parameters
import Storefront.Proofs.Previews
import Storefront.Proofs.Ranking
import Storefront.Proofs.Recomputations
import Storefront.Proofs.Records
import Storefront.Proofs.References
import Storefront.Proofs.Resilience
import Storefront.Proofs.Retrieval
import Storefront.Proofs.Routings
import Storefront.Proofs.Searches
import Storefront.Proofs.Sequences
import Storefront.Proofs.Sessions
import Storefront.Proofs.Stages
import Storefront.Proofs.Stores
import Storefront.Proofs.Tightening
import Storefront.Proofs.Updates
import Storefront.Proofs.Upserts
import Storefront.Proofs.Vectors
import Storefront.Proofs.Vouching
import Storefront.Rehearsal.Front
import Storefront.Rehearsal.Tuning
import Storefront.Vector.Reader
import Storefront.Proofs.Keys
