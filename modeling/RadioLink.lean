import RadioLink.Action
import RadioLink.Adapter
import RadioLink.Adapter.Device
import RadioLink.Bytes
import RadioLink.Association
import RadioLink.Checksum
import RadioLink.CommandLine.Arguments
import RadioLink.CommandLine.Numbers
import RadioLink.CommandLine.Session
import RadioLink.Config
import RadioLink.Credentials
import RadioLink.Datagram
import RadioLink.Dispatcher
import RadioLink.Error
import RadioLink.Firmware.Image
import RadioLink.Firmware.ImageFile
import RadioLink.Flasher
import RadioLink.Frame
import RadioLink.Lifecycle
import RadioLink.Line
import RadioLink.Link.Basic
import RadioLink.Link.Reception
import RadioLink.Loader
import RadioLink.Loader.Response
import RadioLink.Log
import RadioLink.Main
import RadioLink.Message.Basic
import RadioLink.Message.DatagramHeader
import RadioLink.Message.Info
import RadioLink.PortListing
import RadioLink.PortTable
import RadioLink.Provisioning
import RadioLink.Settings
import RadioLink.Simulation.Device
import RadioLink.Simulation.Files
import RadioLink.Simulation.Peer
import RadioLink.Slip
import RadioLink.Slip.Port
import RadioLink.Telemetry
import RadioLink.Text
import RadioLink.Time
import RadioLink.Transport
import RadioLink.Verdict
import RadioLink.Proofs.Actions
import RadioLink.Proofs.EventKinds
import RadioLink.Proofs.LineEvents
import RadioLink.Proofs.ReadySignal
import RadioLink.Proofs.PacketPort
import RadioLink.Proofs.LoaderTraffic
import RadioLink.Proofs.FlasherTraffic
import RadioLink.Proofs.FlashDiscipline
import RadioLink.Proofs.RetryPolicy
import RadioLink.Proofs.LoaderTries
import RadioLink.Proofs.FrameCodec
import RadioLink.Proofs.MessageLayouts
import RadioLink.Proofs.Reception
import RadioLink.Proofs.LiveRun
import RadioLink.Proofs.AliveStage
import RadioLink.Proofs.FirmwareTalk
import RadioLink.Proofs.ResetDiscipline
import RadioLink.Proofs.Shutdown
import RadioLink.Proofs.FlowControl
import RadioLink.Proofs.Recovery
import RadioLink.Proofs.LineSteps
import RadioLink.Proofs.Operations
import RadioLink.Proofs.ReadyEdges
import RadioLink.Proofs.Reassembly
import RadioLink.Proofs.MessageEffects
import RadioLink.Proofs.RunClock
import RadioLink.Proofs.SessionUptime
import RadioLink.Proofs.UptimeDrift
import RadioLink.Proofs.ReceiveDeadline
import RadioLink.Proofs.DatagramTransfer
import RadioLink.Proofs.RefusedAnnouncement
import RadioLink.Proofs.PacketStream
import RadioLink.Proofs.PacketDecoding
import RadioLink.Proofs.CheckPolynomial
import RadioLink.Proofs.CheckRemainder
import RadioLink.Proofs.CorruptionDetection
import RadioLink.Proofs.AssociationPhases
import RadioLink.Proofs.FrameNumbering
import RadioLink.Proofs.ResetHandshake
import RadioLink.Proofs.JoinRequests
import RadioLink.Proofs.PortMirror
import RadioLink.Proofs.OpenPorts
import RadioLink.Proofs.RequestAnswer
import RadioLink.Proofs.WaitBounds
import RadioLink.Proofs.FrameGathering
import RadioLink.Proofs.PacketReading
import RadioLink.Proofs.TimedWaits
import RadioLink.Proofs.BlockReading
import RadioLink.Proofs.ImageStreaming
import RadioLink.Proofs.LoaderExchange
import RadioLink.Proofs.StubLoading
import RadioLink.Proofs.LoaderLengths
import RadioLink.Proofs.ImageContainers
import RadioLink.Proofs.ProgramLoading
import RadioLink.Proofs.ProgramCalls
import RadioLink.Proofs.StationOrder
import RadioLink.Proofs.AccessPointFallback
import RadioLink.Proofs.PortWaiting
import RadioLink.Proofs.DigestText
