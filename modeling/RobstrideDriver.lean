import RobstrideDriver.Matching
import RobstrideDriver.RunModeCheck
import RobstrideDriver.AtSerialLink
import RobstrideDriver.SocketCan
import RobstrideDriver.StubFleet
import RobstrideDriver.PositionUnwrapper
import RobstrideDriver.Tracking
import RobstrideDriver.AtSerialFraming
import RobstrideDriver.ParamCodec
import RobstrideDriver.FeedbackCache
import RobstrideDriver.StubHistory
import RobstrideDriver.Lib.HeldSignal
import RobstrideDriver.StubMotion
import RobstrideDriver.Lib.Unwinding
import RobstrideDriver.StubIsolation
import RobstrideDriver.StubAddressing
import RobstrideDriver.UnwrapperHistory
import RobstrideDriver.AtSerialPoll
import RobstrideDriver.MotionCodec
import RobstrideDriver.ValidBytes
import RobstrideDriver.GatedOperations
import RobstrideDriver.Timeouts
import RobstrideDriver.MotorIdFilter
import RobstrideDriver.StubReports
import RobstrideDriver.Interruptions
import RobstrideDriver.Bus
import RobstrideDriver.SerialBus
import RobstrideDriver.SocketBus
import RobstrideDriver.Lib.Conversation
import RobstrideDriver.TrackingCapture
import RobstrideDriver.CaptureConversations
import RobstrideDriver.CapturedPositions
import RobstrideDriver.CaptureReports
import RobstrideDriver.Descriptors
import RobstrideDriver.StubStandIn
import RobstrideDriver.SimulatedCaptures
