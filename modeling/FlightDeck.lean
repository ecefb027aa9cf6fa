import FlightDeck.Lib.ByteCodec
import FlightDeck.Lib.Crc
import FlightDeck.Lib.CrcDetection
import FlightDeck.Lib.CrcPolynomial
import FlightDeck.Lib.Ieee754
import FlightDeck.Lib.FloatRounding
import FlightDeck.Lib.FloatOperations
import FlightDeck.Lib.FloatEncoding
import FlightDeck.Lib.Binary64
import FlightDeck.Lib.FloatBounds
import FlightDeck.Lib.Binary32
import FlightDeck.Lib.JsInt
import FlightDeck.Lib.TransitionSystem
import FlightDeck.Lib.CyclicIndex
import FlightDeck.Lib.Window
import FlightDeck.Lib.Framing
import FlightDeck.Lib.InsertionMap
import FlightDeck.Lib.Replay
import FlightDeck.Lib.Decimation
import FlightDeck.Lib.Decay
import FlightDeck.Lib.HalfAngle
import FlightDeck.Lib.Stride
import FlightDeck.Protocol.Telemetry
import FlightDeck.Protocol.RoundTrip
import FlightDeck.Generator.SpscRingBuffer
import FlightDeck.Generator.UdpTransmitter
import FlightDeck.Generator.ControlServer
import FlightDeck.Generator.CommandParser
import FlightDeck.Generator.FlightSimulation
import FlightDeck.Generator.FlightPhases
import FlightDeck.Generator.Simulator
import FlightDeck.Generator.EngineCutoff
import FlightDeck.Generator.RealFlight
import FlightDeck.Generator.Attitude
import FlightDeck.Generator.CheckedStep
import FlightDeck.Generator.SafeArithmetic
import FlightDeck.Generator.FlightProfile
import FlightDeck.Generator.Ascent
import FlightDeck.Generator.Termination
import FlightDeck.Generator.Altitude
import FlightDeck.Generator.LandingBurn
import FlightDeck.Generator.Apogee
import FlightDeck.Generator.FlightBounds
import FlightDeck.Generator.FlightInvariant
import FlightDeck.Generator.SimulatorRuns
import FlightDeck.Generator.CommandLine
import FlightDeck.Generator.SimulatorProcess
import FlightDeck.Generator.Receiver
import FlightDeck.Server.Types
import FlightDeck.Server.Telemetry
import FlightDeck.Server.DecoderAgreement
import FlightDeck.System.Checksum
import FlightDeck.Server.Corruption
import FlightDeck.Server.CircularBuffer
import FlightDeck.Server.SequenceTracker
import FlightDeck.Server.TelemetryServer
import FlightDeck.Server.Segments
import FlightDeck.Server.Reordering
import FlightDeck.Server.Relay
import FlightDeck.Server.ControlClient
import FlightDeck.System.ControlRecords
import FlightDeck.System.ControlLink
import FlightDeck.System.ControlInvariant
import FlightDeck.System.ControlRuns
import FlightDeck.System.ControlConvergence
import FlightDeck.System.ControlDelivery
import FlightDeck.System.ControlConnection
import FlightDeck.System.LossMetric
import FlightDeck.System.FaultEffects
import FlightDeck.System.LossTracking
import FlightDeck.System.LineFraming
import FlightDeck.System.CommandRoundTrip
import FlightDeck.Dashboard.TelemetryUtils
import FlightDeck.Dashboard.UseTelemetry
import FlightDeck.Dashboard.TelemetryLink
import FlightDeck.Dashboard.CurrentFlight
import FlightDeck.Dashboard.ChartSamples
import FlightDeck.Dashboard.Retention
import FlightDeck.Dashboard.MissionEvents
import FlightDeck.Dashboard.EventLog
import FlightDeck.Dashboard.Memory
import FlightDeck.Dashboard.CommandReadout
import FlightDeck.System.FlightBoundaries
import FlightDeck.System.FlightOnScreen
import FlightDeck.System.PacketPath
import FlightDeck.System.CommandLoop
import FlightDeck.System.CommandAnswers
import FlightDeck.System.SampleOrigin
import FlightDeck.System.ShownPackets
import FlightDeck.System.ClosedLoop
import FlightDeck.System.TruthOnScreen
import FlightDeck.System.ClockRate
import FlightDeck.System.FlightSequence
