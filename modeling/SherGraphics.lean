import SherGraphics.Machine
import SherGraphics.KernelInterface
import SherGraphics.GpuAbstraction
import SherGraphics.Runtime
import SherGraphics.RuntimeStep
import SherGraphics.RuntimeFrame
import SherGraphics.TimelineHistory
import SherGraphics.ContextTable
import SherGraphics.DriverCalls
import SherGraphics.AuditTrail
import SherGraphics.TimelineOwnership
import SherGraphics.PipelineIntegrity
import SherGraphics.TableIntegrity
import SherGraphics.MethodRelation
import SherGraphics.RecordingDriver
import SherGraphics.SubmitEffect
import SherGraphics.StreamIsolation
import SherGraphics.Teardown
import SherGraphics.VramPool
import SherGraphics.VulkanDriver
import SherGraphics.VulkanTables
import SherGraphics.Ledger
import SherGraphics.VramLedger
import SherGraphics.VramConservation
import SherGraphics.VulkanFaults
import SherGraphics.VulkanRecovery
import SherGraphics.VulkanLoss
import SherGraphics.Execution
import SherGraphics.RenderProtocol
import SherGraphics.AddressWindows
import SherGraphics.VramOwnership
import SherGraphics.PanickingDriver
import SherGraphics.FailedCalls
import SherGraphics.CursorImages
import SherGraphics.FaultRecord
import SherGraphics.FaultedContexts
import SherGraphics.FaultLifecycle
import SherGraphics.GpuActions
import SherGraphics.TableRenaming
import SherGraphics.RuntimeAgreement
import SherGraphics.AlikeCalls
import SherGraphics.GpuIsolation
import SherGraphics.RenderOrder
import SherGraphics.RenderRefinement
import SherGraphics.RealizedExchanges
import SherGraphics.FallbackDriver
import SherGraphics.RuntimePairing
import SherGraphics.Interchange
import SherGraphics.StoreMatch
import SherGraphics.DriverSwap
import SherGraphics.FramebufferPool
import SherGraphics.DisplayMemory
import SherGraphics.DrmCompat
import SherGraphics.GemHandles
import SherGraphics.ResourceSize
import SherGraphics.AtomicFree
import SherGraphics.AcceptedStreams
import SherGraphics.Ongoing
import SherGraphics.BumpRanges
import SherGraphics.VulkanAddresses
import SherGraphics.VulkanOverrun
import SherGraphics.MethodRules
import SherGraphics.Lifetimes
import SherGraphics.OffscreenRender
import SherGraphics.OffscreenLifetimes
import SherGraphics.OffscreenCalls
import SherGraphics.OffscreenPending
import SherGraphics.OffscreenReadback
import SherGraphics.WorkloadClasses
import SherGraphics.QueueOwnership
import SherGraphics.Inevitable
import SherGraphics.RenderProgress
import SherGraphics.NestedLifetimes
import SherGraphics.ErrorOrigin
import SherGraphics.OffscreenErrors
import SherGraphics.VulkanContext
import SherGraphics.ContextLifetimes
import SherGraphics.ContextErrors
import SherGraphics.RealVulkanBackend
import SherGraphics.RealVulkanLife
import SherGraphics.ContextUsers
import SherGraphics.ReliableThread
import SherGraphics.RealVulkanFaults
import SherGraphics.VulkanOpening
import SherGraphics.RuleBook
import SherGraphics.VulkanRules
import SherGraphics.OffscreenUsage
import SherGraphics.OffscreenPicture
import SherGraphics.Delivery
import SherGraphics.HealthyVulkan
import SherGraphics.HandedOut
import SherGraphics.LiveObjects
import SherGraphics.ScreenHistory
import SherGraphics.BackInService
import SherGraphics.MemoryBooks
import SherGraphics.GrantedCalls
import SherGraphics.SharedHandles
