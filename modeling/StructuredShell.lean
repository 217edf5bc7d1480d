import StructuredShell.Main
import StructuredShell.Proofs.Arithmetic.Outlines
import StructuredShell.Proofs.Capture.Environments
import StructuredShell.Proofs.CommandLine.Overwriting
import StructuredShell.Proofs.Composition.Programs
import StructuredShell.Proofs.ControlFlow.Refinement
import StructuredShell.Proofs.Cursor.Runs
import StructuredShell.Proofs.Definitions.Sections
import StructuredShell.Proofs.Dumps.Conditions
import StructuredShell.Proofs.Dumps.Tokens
import StructuredShell.Proofs.Environments.Programs
import StructuredShell.Proofs.Evaluation.Prediction
import StructuredShell.Proofs.Failures.Carets
import StructuredShell.Proofs.Interchange.Programs
import StructuredShell.Proofs.Layout.Programs
import StructuredShell.Proofs.Lexing.Respelling
import StructuredShell.Proofs.Literals.Programs
import StructuredShell.Proofs.Names.FirstUse
import StructuredShell.Proofs.Names.Hygiene
import StructuredShell.Proofs.Places.Independence
import StructuredShell.Proofs.Prefixes.Sources
import StructuredShell.Proofs.Quoting.Words
import StructuredShell.Proofs.Scanning.Tokens
import StructuredShell.Proofs.WellFormed.Image
