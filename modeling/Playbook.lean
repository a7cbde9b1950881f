import Playbook.FileTree
import Playbook.Main
import Playbook.Proofs.Dependence
import Playbook.Proofs.Unfolding
import Playbook.Proofs.Reports
import Playbook.Proofs.Patterns
import Playbook.Proofs.Filters
import Playbook.Proofs.Evaluation
import Playbook.Proofs.Rendering
import Playbook.Proofs.Evaluation.Data
import Playbook.Proofs.Evaluation.Operators
import Playbook.Proofs.Evaluation.Words
import Playbook.Proofs.FaultKinds
import Playbook.Proofs.Walk
import Playbook.Proofs.Reporting
import Playbook.Proofs.Extraction
import Playbook.Proofs.Listening
import Playbook.Proofs.Spelling
import Playbook.Proofs.Reentry
import Playbook.Proofs.Output
import Playbook.Proofs.Interchange
import Playbook.Proofs.JsonReader
import Playbook.Proofs.Readback
import Playbook.Proofs.Shortcut
import Playbook.Proofs.Evaluation.Holding
import Playbook.Proofs.Inert
import Playbook.Proofs.Isolation
import Playbook.Proofs.Segments
import Playbook.Proofs.Interpolation
import Playbook.Proofs.Shadowing
import Playbook.Proofs.Confinement
import Playbook.Proofs.Confinement.Rendering
import Playbook.Proofs.ExtraVars
import Playbook.Proofs.Shape
import Playbook.Proofs.Accumulation
import Playbook.Proofs.Context
import Playbook.Proofs.Base64
import Playbook.Proofs.Classification
