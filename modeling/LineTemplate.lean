import LineTemplate.Main
import LineTemplate.Proofs.AbsorbedBlanks
import LineTemplate.Proofs.CarriedDirectives
import LineTemplate.Proofs.CaseFlags
import LineTemplate.Proofs.ChangedLines
import LineTemplate.Proofs.DecodedLiterals
import LineTemplate.Proofs.FileEffects
import LineTemplate.Proofs.FinishedBodies
import LineTemplate.Proofs.Growth
import LineTemplate.Proofs.ReadBack
import LineTemplate.Proofs.Rebuilding
import LineTemplate.Proofs.Recognition
import LineTemplate.Proofs.ReferenceScan
import LineTemplate.Proofs.RepeatedAnchors
import LineTemplate.Proofs.StateNames
