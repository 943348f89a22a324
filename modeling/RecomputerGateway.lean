import RecomputerGateway.Transition
import RecomputerGateway.InodeStore
import RecomputerGateway.RenamePublish
import RecomputerGateway.RenamePublishGuarantees
import RecomputerGateway.TextLines
import RecomputerGateway.OtaState
import RecomputerGateway.OtaScript
import RecomputerGateway.OtaSimulation
import RecomputerGateway.OtaImage
import RecomputerGateway.OtaProcesses
import RecomputerGateway.OtaCancel
import RecomputerGateway.OtaLaterDownload
import RecomputerGateway.OtaUpgrade
import RecomputerGateway.OtaReaders
import RecomputerGateway.OtaStatusText
import RecomputerGateway.OtaStatusPart
import RecomputerGateway.OtaStatus
import RecomputerGateway.OtaStart
import RecomputerGateway.ByteLayout
import RecomputerGateway.Hexadecimal
import RecomputerGateway.EepromShell
import RecomputerGateway.EepromWriter
import RecomputerGateway.EepromReader
import RecomputerGateway.EepromRecord
import RecomputerGateway.EepromRoundTrip
import RecomputerGateway.EepromCheck
import RecomputerGateway.EepromFormat
import RecomputerGateway.ShiftRegister
import RecomputerGateway.EepromBursts
import RecomputerGateway.EepromZlib
import RecomputerGateway.StationStatistics
import RecomputerGateway.RustText
import RecomputerGateway.BoundedChannel
import RecomputerGateway.Rs485Config
import RecomputerGateway.Rs485Modbus
import RecomputerGateway.Rs485MainLoop
import RecomputerGateway.Rs485Channel
import RecomputerGateway.Rs485Trigger
import RecomputerGateway.DescriptorTable
import RecomputerGateway.ForwarderCloses
import RecomputerGateway.ForwarderSpi
import RecomputerGateway.ForwarderSx1261
import RecomputerGateway.Rs485Cuts
import RecomputerGateway.Rs485Transports
import RecomputerGateway.Rs485Security
import RecomputerGateway.Rs485Connection
import RecomputerGateway.Rs485Uplinks
import RecomputerGateway.Rs485Requests
import RecomputerGateway.ShellRead
import RecomputerGateway.UbusStore
import RecomputerGateway.UbusSignature
import RecomputerGateway.NetState
import RecomputerGateway.ForwarderReports
import RecomputerGateway.ForwarderOrder
import RecomputerGateway.LteServe
import RecomputerGateway.LogHighlight
import RecomputerGateway.UciFile
import RecomputerGateway.UciStore
import RecomputerGateway.UpsCommands
import RecomputerGateway.WlanConfig
import RecomputerGateway.WlanHistory
import RecomputerGateway.WlanRewriting
import RecomputerGateway.QuectelList
import RecomputerGateway.QmiProxyClients
import RecomputerGateway.MbimProxySessions
import RecomputerGateway.MbimCommand
import RecomputerGateway.AtReader
import RecomputerGateway.AtCommands
import RecomputerGateway.AtAnswers
import RecomputerGateway.ConnectionLoop
import RecomputerGateway.AtRegistration
import RecomputerGateway.QmiThreadReports
import RecomputerGateway.MbimConnect
