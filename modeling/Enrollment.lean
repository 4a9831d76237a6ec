import Enrollment.Main
import Enrollment.Proofs.Registration.Creation
import Enrollment.Proofs.Registration.Promotion
import Enrollment.Proofs.Registration.Uniqueness
import Enrollment.Proofs.Registration.Convergence
import Enrollment.Proofs.Registration.Repetition
import Enrollment.Proofs.Registration.Confirmation
import Enrollment.Proofs.Registration.Conflict
import Enrollment.Proofs.Registration.Refinement
import Enrollment.Proofs.Registration.Naming
import Enrollment.Proofs.Registration.Concurrency
import Enrollment.Proofs.Unregistration.Order
import Enrollment.Proofs.Inventory.Classification
import Enrollment.Proofs.Inventory.Host
import Enrollment.Proofs.Record.RoundTrip
import Enrollment.Proofs.Registration.PrivateCloud
import Enrollment.Proofs.Unregistration.Undoing
import Enrollment.Proofs.Inventory.Refusal
import Enrollment.Proofs.Registration.Refusal
import Enrollment.Proofs.Registration.Token
import Enrollment.Proofs.Http.Schedule
import Enrollment.Proofs.Time.Budget
import Enrollment.Proofs.Registration.Secrecy
import Enrollment.Proofs.Registration.Visibility
import Enrollment.Proofs.Record.Standing
import Enrollment.Proofs.Unregistration.Resumption
import Enrollment.Proofs.Registration.Payload
import Enrollment.Proofs.Record.Unordered
import Enrollment.Proofs.Inventory.Frame
import Enrollment.Proofs.Inventory.Validity
import Enrollment.Proofs.Inventory.Urls
import Enrollment.Proofs.Config.Variables
import Enrollment.Proofs.Secret.Lookup
import Enrollment.Proofs.Time.Backoff
import Enrollment.Proofs.Inventory.Freshness
import Enrollment.Proofs.Record.Strings
import Enrollment.Proofs.Time.Overflow
