import Calculator.Log.Evaluation
import Calculator.Log.Timing
import Calculator.Main
import Calculator.Proofs.Configuring.Keeping
import Calculator.Proofs.Configuring.Loading
import Calculator.Proofs.Conversing.Batches
import Calculator.Proofs.Conversing.Dialogue
import Calculator.Proofs.Conversing.Runs
import Calculator.Proofs.Evaluating.Domains
import Calculator.Proofs.Lexing.Coverage
import Calculator.Proofs.Lexing.Unreadable
import Calculator.Proofs.Logging.Records
import Calculator.Proofs.Meaning.Acceptance
import Calculator.Proofs.Meaning.Angles
import Calculator.Proofs.Meaning.Composition
import Calculator.Proofs.Meaning.Details
import Calculator.Proofs.Meaning.Separators
import Calculator.Proofs.Ordering.Conservation
import Calculator.Proofs.Ordering.Contexts
import Calculator.Proofs.Ordering.Extent
import Calculator.Proofs.Ordering.Moments
import Calculator.Proofs.Ordering.Sequence
import Calculator.Proofs.Registering.Listing
import Calculator.Proofs.Serving.Agreement
import Calculator.Service.Startup
import Calculator.Service.ToolServer
import Calculator.Service.WebServer
