import FaultResponse.Comparison
import FaultResponse.Inspection
import FaultResponse.Session
import FaultResponse.Service.Application
import FaultResponse.Proofs.Draft
import FaultResponse.Proofs.Delivery
import FaultResponse.Proofs.Escape
import FaultResponse.Proofs.Noninterference
import FaultResponse.Proofs.Payload
import FaultResponse.Proofs.BlankMessage
import FaultResponse.Proofs.Effect
import FaultResponse.Proofs.ChannelRun
import FaultResponse.Proofs.Registration
import FaultResponse.Proofs.Rereading
import FaultResponse.Proofs.VerdictShape
import FaultResponse.Proofs.ScopeRun
import FaultResponse.Proofs.InFlight
import FaultResponse.Proofs.Octets
import FaultResponse.Proofs.Dispatch
import FaultResponse.Proofs.HeaderNames
import FaultResponse.Proofs.Identity
import FaultResponse.Proofs.Linearisation
import FaultResponse.Proofs.Hierarchy
import FaultResponse.Proofs.NearestDeclaration
import FaultResponse.Proofs.DeclarationReach
import FaultResponse.Proofs.Verbosity
import FaultResponse.Proofs.GuidanceReach
import FaultResponse.Proofs.GuidanceFrame
import FaultResponse.Proofs.Precedence
import FaultResponse.Proofs.ResponseReading
import FaultResponse.Proofs.ContextContract
import FaultResponse.Proofs.Lookalikes
import FaultResponse.Proofs.PlainSubclass
import FaultResponse.Proofs.ContextAddress
import FaultResponse.Proofs.Mirroring
import FaultResponse.Proofs.Wording
import FaultResponse.Proofs.LogPolicy
import FaultResponse.Proofs.Trace
import FaultResponse.Proofs.Replacement
import FaultResponse.Proofs.BodyText
import FaultResponse.Proofs.Consumption
import FaultResponse.Proofs.RegistrationHistory
import FaultResponse.Proofs.KeyOrder
import FaultResponse.Proofs.GuidanceOrder
import FaultResponse.Proofs.ReportAgreement
