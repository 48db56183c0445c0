import ServiceDiscovery.Main
import ServiceDiscovery.Octets.HexDump
import ServiceDiscovery.Proofs.Session.FollowUps
import ServiceDiscovery.Proofs.Discovery.Transcript
import ServiceDiscovery.Proofs.Message.RoundTrip
import ServiceDiscovery.Proofs.Name.Runs
import ServiceDiscovery.Proofs.Reader.Origin
import ServiceDiscovery.Proofs.Session.Store
import ServiceDiscovery.Proofs.Message.Origin
import ServiceDiscovery.Proofs.QueryPacket.Encoding
import ServiceDiscovery.Proofs.Session.Targets
import ServiceDiscovery.Proofs.Discovery.Delivery
import ServiceDiscovery.Proofs.Session.Instances
import ServiceDiscovery.Proofs.Session.ArrivalOrder
import ServiceDiscovery.Proofs.Session.Redelivery
import ServiceDiscovery.Proofs.Discovery.Noise
import ServiceDiscovery.Proofs.Message.Extent
import ServiceDiscovery.Proofs.Name.Normal
import ServiceDiscovery.Proofs.Name.RoundTrip
import ServiceDiscovery.Proofs.QueryPacket.Contents
import ServiceDiscovery.Proofs.Service.Browse
import ServiceDiscovery.Proofs.Session.InstanceNames
import ServiceDiscovery.Proofs.Reader.Motion
import ServiceDiscovery.Proofs.Discovery.Repeats
import ServiceDiscovery.Proofs.Message.Overrun
import ServiceDiscovery.Proofs.Reader.Words
import ServiceDiscovery.Proofs.Text.Characters
import ServiceDiscovery.Proofs.Text.Lossy
import ServiceDiscovery.Proofs.Attributes.FirstEntries
import ServiceDiscovery.Proofs.Record.RoundTrip
import ServiceDiscovery.Proofs.Message.Counts
import ServiceDiscovery.Proofs.Service.Domains
import ServiceDiscovery.Proofs.Session.Isolation
import ServiceDiscovery.Proofs.Service.Types
import ServiceDiscovery.Proofs.Name.Trail
import ServiceDiscovery.Proofs.Message.Headers
import ServiceDiscovery.Proofs.Message.Reservations
import ServiceDiscovery.Proofs.Discovery.Turns
