import Switchboard.Main
import Switchboard.Proofs.Answer.Discretion
import Switchboard.Proofs.Answer.Expiry
import Switchboard.Proofs.Answer.Invocation
import Switchboard.Proofs.Answer.Location
import Switchboard.Proofs.Answer.Parts
import Switchboard.Proofs.Answer.RawValues
import Switchboard.Proofs.Answer.Revalidation
import Switchboard.Proofs.Bind.DottedQuad
import Switchboard.Proofs.Bind.FormValue
import Switchboard.Proofs.Bind.MailPattern
import Switchboard.Proofs.Bind.Range
import Switchboard.Proofs.Bind.Registration
import Switchboard.Proofs.Bind.Shape
import Switchboard.Proofs.Call.Applicability
import Switchboard.Proofs.Call.Course
import Switchboard.Proofs.Http.Authority
import Switchboard.Proofs.Http.Cookies
import Switchboard.Proofs.Http.Languages
import Switchboard.Proofs.Http.Parameters
import Switchboard.Proofs.Param.RoundTrip
import Switchboard.Proofs.Route.FileCache
import Switchboard.Proofs.Route.LargeFiles
import Switchboard.Proofs.Route.Listing
import Switchboard.Proofs.Route.Matching
import Switchboard.Proofs.Route.Precedence
import Switchboard.Proofs.Route.Redirects
import Switchboard.Proofs.Route.RoutesFile
import Switchboard.Proofs.Route.Search
import Switchboard.Proofs.Route.Spelling
import Switchboard.Proofs.Route.Traffic
import Switchboard.Proofs.Route.Versions
import Switchboard.Proofs.Rpc.Arguments
import Switchboard.Proofs.Rpc.Numbers
import Switchboard.Proofs.Server.Handshake
import Switchboard.Proofs.Server.Prefixes
import Switchboard.Proofs.Service.Shutdown
import Switchboard.Proofs.Socket.Delivery
import Switchboard.Proofs.Socket.Stragglers
import Switchboard.Proofs.Socket.Tasks
import Switchboard.Proofs.Socket.Timetable
import Switchboard.Server.Connection
import Switchboard.Service.Shutdown
