import DebugFind.CommandLine.Reader
import DebugFind.Main
import DebugFind.Pattern.Literal
import DebugFind.Proofs.Address.View
import DebugFind.Proofs.Assertion
import DebugFind.Proofs.Attach.Opening
import DebugFind.Proofs.Classifier
import DebugFind.Proofs.Display.Leaving
import DebugFind.Proofs.Extraction
import DebugFind.Proofs.Failure
import DebugFind.Proofs.FieldReading
import DebugFind.Proofs.Profile.Schema
import DebugFind.Proofs.Scenario.Independence
import DebugFind.Proofs.Scenario.Rerun
import DebugFind.Proofs.Scenario.Stages
import DebugFind.Proofs.Showable
import DebugFind.Proofs.Startup
import DebugFind.Proofs.Sweep.Launches
import DebugFind.Proofs.Timeout
