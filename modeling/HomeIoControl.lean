import HomeIoControl.OperationCoalescing
import HomeIoControl.OperationConservation
import HomeIoControl.StalePolls
import HomeIoControl.ExchangeIsolation
import HomeIoControl.AuthenticationAgreement
import HomeIoControl.KeyRedaction
import HomeIoControl.IvBinding
import HomeIoControl.AesInverse
import HomeIoControl.ProbeAlignment
import HomeIoControl.ProbeIndices
import HomeIoControl.CrcDetection
import HomeIoControl.OneWayRepeats
import HomeIoControl.PollLiveness
import HomeIoControl.StopRepeats
import HomeIoControl.DeclaredMetadata
import HomeIoControl.CoverInversion
import HomeIoControl.ConfigValidation
import HomeIoControl.DeviceNames
import HomeIoControl.RenameReadback
import HomeIoControl.WritableNames
import HomeIoControl.NameDecoding
import HomeIoControl.PassiveReception
import HomeIoControl.LinkHealth
import HomeIoControl.RssiAverage
import HomeIoControl.MotionState
import HomeIoControl.RfSilence
import HomeIoControl.TuningRoundTrip
import HomeIoControl.PlatformLight
import HomeIoControl.StatusRequests
import HomeIoControl.KeyTransferGate
import HomeIoControl.RekeyConsistency
import HomeIoControl.LogExtraction
import HomeIoControl.Sx1262Link
import HomeIoControl.Sx1276Receiver
import HomeIoControl.TransmissionRuns
import HomeIoControl.PairingCompletion
import HomeIoControl.KeyEavesdropping
import HomeIoControl.CommandExecution
import HomeIoControl.DeviceIsolation
import HomeIoControl.StandardCipher
