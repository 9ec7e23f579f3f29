import ShapeMatch.CaseChain
import ShapeMatch.Dispatch
import ShapeMatch.Pattern.Render
import ShapeMatch.Proofs.PatternParts
import ShapeMatch.Proofs.Constraints
import ShapeMatch.Proofs.DepthThreshold
import ShapeMatch.Proofs.LiteralLifting
import ShapeMatch.Proofs.CaseSelection
import ShapeMatch.Proofs.EqualityInvariance
import ShapeMatch.Proofs.Coverage
import ShapeMatch.Proofs.ChainTables
import ShapeMatch.Proofs.Subsets
import ShapeMatch.Proofs.PatternRewrites
import ShapeMatch.Proofs.Widening
import ShapeMatch.Proofs.CaseOrder
import ShapeMatch.Proofs.EqualityLaws
import ShapeMatch.Proofs.MutualAcceptance
import ShapeMatch.Proofs.IndexedRecords
import ShapeMatch.Proofs.Recasting
import ShapeMatch.Proofs.CanonicalNumbers
import ShapeMatch.Proofs.ElementMatchers
import ShapeMatch.Proofs.TotalTables
import ShapeMatch.Proofs.Unions
import ShapeMatch.Proofs.Allocations
import ShapeMatch.Proofs.Classification
import ShapeMatch.Proofs.Variants
import ShapeMatch.Proofs.LiftedTexts
import ShapeMatch.Proofs.ListKeys
import ShapeMatch.Proofs.Environment
import ShapeMatch.Proofs.IntegerFloats
import ShapeMatch.Proofs.DebugTexts
import ShapeMatch.Hashed
import ShapeMatch.Stored
import ShapeMatch.Proofs.HashedFields
import ShapeMatch.Proofs.StoredValues
import ShapeMatch.Proofs.Constructions
