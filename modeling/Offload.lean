import Offload.Text.Blank
import Offload.Text.Lowercase
import Offload.Text.Quoted
import Offload.Number.Bounds
import Offload.Number.Decimal
import Offload.Registry
import Offload.Config.Load
import Offload.Blas.RocBlas
import Offload.Dft.Compute
import Offload.Dft.Reference
import Offload.Dft.RocFft
import Offload.Session.Step
import Offload.Rocm.Availability
import Offload.Proofs.Blas.GroupTotals
import Offload.Proofs.Blas.WordArithmetic
import Offload.Proofs.Config.Layers
import Offload.Proofs.Device.Specifications
import Offload.Proofs.Dft.Reference.Forms
import Offload.Proofs.Dft.Reference.HalfSpectrum
import Offload.Proofs.Dft.Refusal
import Offload.Proofs.Dft.SaturatedStrides
import Offload.Proofs.Dft.VendorRefusal
import Offload.Proofs.Queue.Accounting
import Offload.Proofs.Queue.RootCause
import Offload.Proofs.Registry.Choice
