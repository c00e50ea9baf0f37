import Criteria.Config.Reader
import Criteria.Event.Record
import Criteria.Event.Tally
import Criteria.Repository
import Criteria.Value.Conversion
import Criteria.Wire.Reader
import Criteria.Proofs.Compilation.Typing
import Criteria.Proofs.Compilation.Fidelity
import Criteria.Proofs.Compilation.Ordering
import Criteria.Proofs.Compilation.Minimality
import Criteria.Proofs.Compilation.Coverage
import Criteria.Proofs.Predicate.Pattern
import Criteria.Proofs.Compilation.Conjunction
import Criteria.Proofs.Compilation.Faults
import Criteria.Proofs.Compilation.Extension
import Criteria.Proofs.Compilation.Independence
import Criteria.Proofs.Compilation.Course
import Criteria.Proofs.Compilation.Remembering
import Criteria.Proofs.Compilation.Validated
import Criteria.Proofs.Compilation.Growth
import Criteria.Proofs.Repository.Calls
import Criteria.Proofs.Repository.Balance
import Criteria.Proofs.Schema.Paths
import Criteria.Proofs.Schema.Faults
import Criteria.Proofs.Predicate.Acceptance
import Criteria.Proofs.Predicate.Explanation
import Criteria.Proofs.Page.Walk
import Criteria.Proofs.Repository.PageSize
import Criteria.Proofs.Filter.Inheritance
import Criteria.Proofs.Filter.Carrier
import Criteria.Proofs.Join.Index
import Criteria.Proofs.Compilation.Repetition
import Criteria.Proofs.Schema.Registration
