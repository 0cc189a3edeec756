import OutOfDomain.Composition
import OutOfDomain.Encoding.Inputs
import OutOfDomain.Encoding.Parameters
import OutOfDomain.Parameters.Digest
import OutOfDomain.Proofs.Check.Errors
import OutOfDomain.Proofs.Check.Guard
import OutOfDomain.Proofs.Check.Missized
import OutOfDomain.Proofs.Check.Quotients
import OutOfDomain.Proofs.Check.Reordering
import OutOfDomain.Proofs.Check.Sensitivity
import OutOfDomain.Proofs.Check.Strategy
import OutOfDomain.Proofs.Composition.Agreement
import OutOfDomain.Proofs.Composition.Columns
import OutOfDomain.Proofs.Encoding.Gate
import OutOfDomain.Proofs.Encoding.Loaders
import OutOfDomain.Proofs.Parameters.Digest
import OutOfDomain.Proofs.Parameters.Validation
import OutOfDomain.Proofs.Recurrence.Completeness
import OutOfDomain.Proofs.Recurrence.Composability
import OutOfDomain.Proofs.Recurrence.Degrees
import OutOfDomain.Proofs.Recurrence.Failures
import OutOfDomain.Proofs.Recurrence.Run
import OutOfDomain.Proofs.Recurrence.Soundness
import OutOfDomain.Proofs.Recurrence.Tampering
import OutOfDomain.Proofs.Residue.Arithmetic
import OutOfDomain.Proofs.Residue.Subgroup
import OutOfDomain.Proofs.Trace.Transposition
import OutOfDomain.Recurrence
