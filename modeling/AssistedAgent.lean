import AssistedAgent.Lib.Transition
import AssistedAgent.Lib.GoNet
import AssistedAgent.FreeAddresses.Stepping
import AssistedAgent.FreeAddresses.Scan
import AssistedAgent.FreeAddresses.Exact
import AssistedAgent.Commands.ReplyCache
import AssistedAgent.Commands.StutterFilter
import AssistedAgent.Commands.StepProcessor
import AssistedAgent.Lib.Bytes
import AssistedAgent.Connectivity.Params
import AssistedAgent.Connectivity.ProcessHost
import AssistedAgent.Lib.StableSort
import AssistedAgent.Connectivity.Runner
import AssistedAgent.Connectivity.Schedules
import AssistedAgent.Lib.GoRegexp
import AssistedAgent.Connectivity.Checkers
import AssistedAgent.Connectivity.Order
import AssistedAgent.BootArtifacts.Execution
import AssistedAgent.BootArtifacts.AllOrNothing
import AssistedAgent.BootArtifacts.Download
import AssistedAgent.BootArtifacts.Space
import AssistedAgent.DhcpLease.Lease
import AssistedAgent.DhcpLease.Allocate
import AssistedAgent.DhcpLease.RoundTrip
import AssistedAgent.Inventory.Disks
import AssistedAgent.Inventory.Eligibility
import AssistedAgent.Inventory.Identifiers
import AssistedAgent.Inventory.Iscsi
import AssistedAgent.Lib.Shell
import AssistedAgent.Lib.Json
import AssistedAgent.Lib.JsonPointers
import AssistedAgent.Lib.GoFloat
import AssistedAgent.Actions.Validate
import AssistedAgent.Actions.DiskPerfCheck
import AssistedAgent.Lib.HtmlText
import AssistedAgent.Actions.LogsGather
import AssistedAgent.Commands.ToolOutputs
import AssistedAgent.Lib.GoNetText
import AssistedAgent.Lib.GoNetV6
import AssistedAgent.Lib.GoSlice
import AssistedAgent.Actions.Install
import AssistedAgent.Actions.InstallCommand
import AssistedAgent.VipsVerifier.Verify
import AssistedAgent.Util.Interface
import AssistedAgent.Inventory.Interfaces
import AssistedAgent.Connectivity.OutgoingNics
import AssistedAgent.Connectivity.Mtu
import AssistedAgent.Connectivity.Arping
import AssistedAgent.Connectivity.PingSummary
import AssistedAgent.Actions.New
import AssistedAgent.Actions.RebootForReclaim
import AssistedAgent.LogsSender.PartialLogs
import AssistedAgent.Lib.TryLock
import AssistedAgent.Lib.RegexpMatches
import AssistedAgent.UpgradeAgent.Restart
import AssistedAgent.Util.V6Prefixes
import AssistedAgent.Inventory.Memory
import AssistedAgent.Inventory.Bmc
import AssistedAgent.Inventory.Listings
import AssistedAgent.Lib.FanIn
import AssistedAgent.DiskSpeedCheck.FioPerfCheck
import AssistedAgent.Inventory.Cpu
import AssistedAgent.LogsSender.CoreDumps
import AssistedAgent.Commands.Collectors
import AssistedAgent.Inventory.Hostname
import AssistedAgent.Lib.GoUuid
import AssistedAgent.Scanners.MachineUuid
import AssistedAgent.Commands.ProcessSteps
import AssistedAgent.Commands.Delivery
import AssistedAgent.Config.ProcessArgs
import AssistedAgent.Actions.NextStepRunner
import AssistedAgent.LogsSender.Configuration
import AssistedAgent.Agent.RunAgent
import AssistedAgent.Lib.Rehttp
import AssistedAgent.Session.InventorySession
import AssistedAgent.LogsSender.GatherLogs
import AssistedAgent.LogsSender.SendLogs
import AssistedAgent.Lib.World
import AssistedAgent.NtpSynchronizer.Synchronize
import AssistedAgent.ContainerImages.Availability
import AssistedAgent.ApiVip.Ignition
import AssistedAgent.LogsSender.Interleaving
import AssistedAgent.ApiVip.CheckConnectivity
