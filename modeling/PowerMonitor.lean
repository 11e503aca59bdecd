import PowerMonitor.EspIdf
import PowerMonitor.Dictionary
import PowerMonitor.SlaveResolution
import PowerMonitor.FirstMatch
import PowerMonitor.ResolutionOrder
import PowerMonitor.CursorTable
import PowerMonitor.FirstSight
import PowerMonitor.SlaveList
import PowerMonitor.RegistrationPass
import PowerMonitor.QueryService
import PowerMonitor.StartUp
import PowerMonitor.IpTable
import PowerMonitor.RetryTable
import PowerMonitor.DocumentedTable
import PowerMonitor.Registration
import PowerMonitor.Advertisement
import PowerMonitor.Binary32
import PowerMonitor.Motor
import PowerMonitor.PowerSensor
import PowerMonitor.ByteMemory
import PowerMonitor.MasterRead
import PowerMonitor.MasterVisit
import PowerMonitor.PollRun
import PowerMonitor.StorageFrame
import PowerMonitor.PollOrder
import PowerMonitor.FailedTransfers
import PowerMonitor.SignalledQueue
import PowerMonitor.EventHistory
import PowerMonitor.SensorWords
import PowerMonitor.ModbusServer
import PowerMonitor.AccessReports
import PowerMonitor.NotificationQueue
import PowerMonitor.MaskedBits
import PowerMonitor.MotorDisplay
import PowerMonitor.PathResolution
import PowerMonitor.StaticFiles
import PowerMonitor.FileMapping
import PowerMonitor.ContentType
import PowerMonitor.WebRoot
import PowerMonitor.Pieces
import PowerMonitor.FileResponse
import PowerMonitor.TableBounds
import PowerMonitor.IntrusiveList
import PowerMonitor.Teardown
import PowerMonitor.LightUpload
import PowerMonitor.UploadBounds
import PowerMonitor.UploadText
import PowerMonitor.MalformedUpload
import PowerMonitor.DelayedCopy
import PowerMonitor.RegisterMap
import PowerMonitor.ControlLoop
import PowerMonitor.Actuation
import PowerMonitor.LostRequests
import PowerMonitor.MeasurementIndependence
import PowerMonitor.Telemetry
import PowerMonitor.Passes
import PowerMonitor.Discovery
import PowerMonitor.HBridge
import PowerMonitor.Boot
import PowerMonitor.Restarts
import PowerMonitor.LoopRefinement
import PowerMonitor.Progress
import PowerMonitor.Recovery
import PowerMonitor.WebServer
import PowerMonitor.FieldText
import PowerMonitor.AddressText
import PowerMonitor.Rounding
import PowerMonitor.SensorFloats
