import Lexis.Session
import Lexis.Catalogue
import Lexis.Main
import Lexis.Proofs.Construction
import Lexis.Proofs.Words
import Lexis.Proofs.Units
import Lexis.Proofs.Reclassification
import Lexis.Proofs.SessionInvariant
import Lexis.Proofs.CommandLine
import Lexis.Proofs.NormalForm
import Lexis.Proofs.Range
import Lexis.Proofs.Spacing
import Lexis.Proofs.Utf8
import Lexis.Proofs.Endings
import Lexis.Proofs.Sources
import Lexis.Proofs.Switching
import Lexis.Proofs.Verbosity
import Lexis.Proofs.Dependence
import Lexis.Proofs.Reading
import Lexis.Proofs.Lines
import Lexis.Proofs.Malformed
import Lexis.Proofs.Languages
import Lexis.Proofs.Display
import Lexis.Proofs.Literals
import Lexis.Proofs.Routes
import Lexis.Proofs.LineBreaks
import Lexis.Proofs.Refusals
import Lexis.Proofs.Replacement
import Lexis.Proofs.OptionEffects
import Lexis.Proofs.Acceptance
import Lexis.Proofs.Counting
import Lexis.Proofs.Handling
