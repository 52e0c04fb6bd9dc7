import CurveNeighbors.Dataset.Reading
import CurveNeighbors.Index.Build
import CurveNeighbors.Index.Session
import CurveNeighbors.Neighbors.ExactSearch
import CurveNeighbors.Text.Lines
import CurveNeighbors.Proofs.KeyEquality
import CurveNeighbors.Proofs.KeySequence
import CurveNeighbors.Proofs.Neighbors.HeapOrder
import CurveNeighbors.Proofs.Neighbors.Retention
import CurveNeighbors.Proofs.Computation
import CurveNeighbors.Proofs.CurveMasks
import CurveNeighbors.Proofs.Candidates.Positions
import CurveNeighbors.Proofs.Neighbors.Scoring
import CurveNeighbors.Proofs.Neighbors.Ranking
import CurveNeighbors.Proofs.Neighbors.Searches
import CurveNeighbors.Proofs.Index.Demands
import CurveNeighbors.Proofs.Index.CurveCandidates
import CurveNeighbors.Proofs.Random.Sampling
import CurveNeighbors.Proofs.Index.SampleCandidates
import CurveNeighbors.Proofs.Index.Checks
import CurveNeighbors.Proofs.Index.Queries
import CurveNeighbors.Proofs.Neighbors.Parts
import CurveNeighbors.Proofs.Number.Doubles
import CurveNeighbors.Proofs.Number.Values
import CurveNeighbors.Proofs.Neighbors.Recall
import CurveNeighbors.Proofs.Index.Answers
import CurveNeighbors.Proofs.Index.WiderQueries
import CurveNeighbors.Proofs.Distances
import CurveNeighbors.Proofs.Index.Inclusion
import CurveNeighbors.Proofs.Counting
import CurveNeighbors.Proofs.Index.QueryStates
import CurveNeighbors.Proofs.Index.Exactness
import CurveNeighbors.Proofs.Index.Schedules
import CurveNeighbors.Proofs.Index.Batches
import CurveNeighbors.Proofs.Index.SharedGenerators
import CurveNeighbors.Proofs.Index.Arrivals
import CurveNeighbors.Proofs.Sorting
import CurveNeighbors.Proofs.Renaming.Keys
import CurveNeighbors.Proofs.Renaming.Searches
import CurveNeighbors.Proofs.Renaming.Queries
import CurveNeighbors.Proofs.Renaming.Building
import CurveNeighbors.Proofs.Renaming.Indexes
import CurveNeighbors.Proofs.Number.Rounding
import CurveNeighbors.Proofs.Neighbors.Listings
import CurveNeighbors.Proofs.NearestPositions
import CurveNeighbors.Proofs.Index.Coverage
import CurveNeighbors.Proofs.Rearranging.Orders
import CurveNeighbors.Proofs.Rearranging.Queries
import CurveNeighbors.Proofs.Observing.Searches
import CurveNeighbors.Proofs.Observing.Queries
import CurveNeighbors.Proofs.Observing.Schedules
import CurveNeighbors.Proofs.Observing.Sessions
import CurveNeighbors.Proofs.ValueOrder
import CurveNeighbors.Proofs.CurveBuilding
import CurveNeighbors.Proofs.Random.Relabeling
import CurveNeighbors.Proofs.Random.Shuffles
import CurveNeighbors.Proofs.Random.Streams
import CurveNeighbors.Proofs.Random.Uniformity
import CurveNeighbors.Proofs.DatasetReading
import CurveNeighbors.Proofs.Neighbors.RelativeErrors
import CurveNeighbors.Proofs.Neighbors.BestEntries
