import EquatorialMount.Horizontal
import EquatorialMount.Rotator.Call
import EquatorialMount.Decimal.Notation
import EquatorialMount.Document.Writing
import EquatorialMount.Samples
import EquatorialMount.Wording
import EquatorialMount.Main
import EquatorialMount.Proofs.Rotator.Conversion
import EquatorialMount.Proofs.Rotator.Prediction
import EquatorialMount.Proofs.Sphere.AnglePair
import EquatorialMount.Proofs.Sphere.PlaneNormal
import EquatorialMount.Proofs.Sphere.Collinear
import EquatorialMount.Proofs.Sphere.Symmetry
import EquatorialMount.Proofs.Sphere.HourAngles
import EquatorialMount.Proofs.Horizontal.Frame
import EquatorialMount.Proofs.Horizontal.PolarError
import EquatorialMount.Proofs.Horizontal.Rotation
import EquatorialMount.Proofs.Horizontal.Mirror
import EquatorialMount.Proofs.Horizontal.Ends
import EquatorialMount.Proofs.Sphere.Ends
import EquatorialMount.Proofs.Report
import EquatorialMount.Proofs.Coincidence
import EquatorialMount.Proofs.Binary64.Angle
import EquatorialMount.Proofs.Binary64.Sign
import EquatorialMount.Proofs.Disk
import EquatorialMount.Proofs.Document.Entries
import EquatorialMount.Proofs.Document.View
import EquatorialMount.Proofs.Document.Same
import EquatorialMount.Proofs.Document.SetOrder
import EquatorialMount.Proofs.Options.Store
import EquatorialMount.Proofs.Rotator.Keeping
import EquatorialMount.Proofs.Wrapping
import EquatorialMount.Proofs.Rotator.Persistence
import EquatorialMount.Proofs.Options.Arrangement
import EquatorialMount.Proofs.Options.Reload
import EquatorialMount.Proofs.Options.Reopening
import EquatorialMount.Proofs.Document.Trimming
import EquatorialMount.Proofs.Options.Shapes
import EquatorialMount.Proofs.Binary64.Rounding
import EquatorialMount.Proofs.Binary64.Operations
import EquatorialMount.Proofs.Binary64.Bounds
import EquatorialMount.Proofs.Binary64.Library
import EquatorialMount.Proofs.Program
import EquatorialMount.Proofs.Sphere.Determined
import EquatorialMount.Proofs.ExitCode
import EquatorialMount.Proofs.Exact.Reading
import EquatorialMount.Proofs.Rotator.Restart
import EquatorialMount.Proofs.Rotator.Range
import EquatorialMount.Proofs.Rotator.Reentrance
import EquatorialMount.Proofs.Rotator.Refusal
import EquatorialMount.Proofs.Rotator.Reports
import EquatorialMount.Proofs.Rotator.Image
import EquatorialMount.Proofs.Rotator.Solving
import EquatorialMount.Proofs.Document.Overlay
import EquatorialMount.Proofs.Rotator.Distance
import EquatorialMount.Proofs.Sphere.Opposite
import EquatorialMount.Proofs.Samples
import EquatorialMount.Proofs.Representative
