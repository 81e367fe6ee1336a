import Gumstix.CanSpi.BufferBounds
import Gumstix.CanSpi.BusyFlag
import Gumstix.CanSpi.MessageReuse
import Gumstix.CanSpi.ReadNotification
import Gumstix.CanSpi.UserBuffer
import Gumstix.CanSpi.WordRate
import Gumstix.Classes.Callbacks
import Gumstix.Classes.EventDescriptors
import Gumstix.Classes.Gestionnaire
import Gumstix.Classes.RequestFraming
import Gumstix.Classes.ResponseSegments
import Gumstix.Classes.LM74Modes
import Gumstix.Gpio.Directions
import Gumstix.Gpio.FailedLoad
import Gumstix.Gpio.Multiplexing
import Gumstix.Gpio.Ownership
import Gumstix.Gpio.Readers
import Gumstix.Gpio.WakeUps
import Gumstix.Library.HttpRequests
import Gumstix.Library.RingLog
import Gumstix.Mcspi.DmaChannels
import Gumstix.Mcspi.DmaMappings
import Gumstix.Mcspi.DmaInterleavings
import Gumstix.Mcspi.Loopback
import Gumstix.Mcspi.ProbeRuns
import Gumstix.Mcspi.SensorCalls
import Gumstix.Synchronization.Cleanup
import Gumstix.Synchronization.ElapsedTime
import Gumstix.Synchronization.ErrorValue
import Gumstix.Synchronization.Export
import Gumstix.Synchronization.ExportedTime
import Gumstix.Synchronization.FixEvidence
import Gumstix.Synchronization.Loading
import Gumstix.Synchronization.MeasuredSeconds
import Gumstix.Synchronization.MicroSeconds
import Gumstix.Synchronization.Notification
import Gumstix.Synchronization.OffPeriod
import Gumstix.Synchronization.PhaseCorrection
import Gumstix.Synchronization.PreemptionRead
import Gumstix.Synchronization.PreemptionTimes
import Gumstix.Synchronization.QuartzErrors
import Gumstix.Synchronization.RecordCopy
import Gumstix.Synchronization.SecondsMonitor
import Gumstix.Synchronization.Settings
