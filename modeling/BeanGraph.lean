import BeanGraph.Introspection.Builder
import BeanGraph.Json.Reader
import BeanGraph.Registration
import BeanGraph.Proofs.Paths
import BeanGraph.Proofs.Reference
import BeanGraph.Proofs.Rendering
import BeanGraph.Proofs.Location
import BeanGraph.Proofs.Verdict
import BeanGraph.Proofs.Guard
import BeanGraph.Proofs.Tour
import BeanGraph.Proofs.Touring
import BeanGraph.Proofs.Groups
import BeanGraph.Proofs.SingleProperty
import BeanGraph.Proofs.Acyclic
import BeanGraph.Proofs.FirstEntry
import BeanGraph.Proofs.FirstRegistration
import BeanGraph.Proofs.Candidate
import BeanGraph.Proofs.CascadeMark
import BeanGraph.Proofs.Outcome
import BeanGraph.Proofs.Gate
import BeanGraph.Proofs.Confinement
import BeanGraph.Proofs.Thorough
import BeanGraph.Proofs.Veto
import BeanGraph.Proofs.Parallel
import BeanGraph.Proofs.AddedConstraint
import BeanGraph.Proofs.SecondLook
import BeanGraph.Proofs.Declarations
import BeanGraph.Proofs.Unwrapping
import BeanGraph.Proofs.Activation
import BeanGraph.Proofs.Nodes
import BeanGraph.Proofs.NullValue
import BeanGraph.Proofs.Rounding
import BeanGraph.Proofs.Appending
import BeanGraph.Proofs.Completion
import BeanGraph.Proofs.DecimalBound
import BeanGraph.Proofs.Framing
import BeanGraph.Proofs.Matching
import BeanGraph.Proofs.NullElement
import BeanGraph.Proofs.Merge
import BeanGraph.Proofs.Script
import BeanGraph.Proofs.Sign
import BeanGraph.Proofs.WholePattern
import BeanGraph.Proofs.PathText
import BeanGraph.Proofs.ValueEquality
import BeanGraph.Proofs.Delivery
