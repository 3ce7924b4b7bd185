import VirtualCamera.Core.CanonicalMode
import VirtualCamera.Core.FenceConsolidation
import VirtualCamera.Core.FpsRanges
import VirtualCamera.Core.FrameDurations
import VirtualCamera.Core.FrameFiller
import VirtualCamera.Core.HandleImporterCompat
import VirtualCamera.Core.MetadataBuilder
import VirtualCamera.Core.ModeSelection
import VirtualCamera.Core.ProducerCapabilities
import VirtualCamera.Core.ReadFenceSet
import VirtualCamera.Core.ReadFenceTwins
import VirtualCamera.Core.RendererFrame
import VirtualCamera.Core.StreamLimits
import VirtualCamera.Core.VirtualCameraFrameSource
import VirtualCamera.Core.YuvCopy
import VirtualCamera.E2E.FrameIdentity
import VirtualCamera.E2E.MarkerErrors
import VirtualCamera.E2E.MarkerOrientation
import VirtualCamera.E2E.MarkerReading
import VirtualCamera.Hal.Announcements
import VirtualCamera.Hal.AtomicSubmission
import VirtualCamera.Hal.Attribution
import VirtualCamera.Hal.AvailabilityBridge
import VirtualCamera.Hal.BufferReferences
import VirtualCamera.Hal.Bystanders
import VirtualCamera.Hal.Configurations
import VirtualCamera.Hal.Conservation
import VirtualCamera.Hal.DescriptorMoves
import VirtualCamera.Hal.Evolution
import VirtualCamera.Hal.HalWorld
import VirtualCamera.Hal.Numbering
import VirtualCamera.Hal.Operations
import VirtualCamera.Hal.Ownership
import VirtualCamera.Hal.PendingReads
import VirtualCamera.Hal.Presence
import VirtualCamera.Hal.SlotIsolation
import VirtualCamera.Hal.SlotMoves
import VirtualCamera.Hal.SlotTwins
import VirtualCamera.Hal.StableHal
import VirtualCamera.Hal.Submission
import VirtualCamera.Hal.Tidying
import VirtualCamera.Hal.TwinOperations
import VirtualCamera.Hal.VirtualCameraSlots
import VirtualCamera.Platform.PlatformInvariants
import VirtualCamera.Platform.PlatformWorld
import VirtualCamera.Platform.ReadinessAuthority
import VirtualCamera.Producer.RenderRequestQueue
import VirtualCamera.Relay.BufferReuse
import VirtualCamera.Relay.ConnectionEpochs
import VirtualCamera.Relay.DescriptorPipeline
import VirtualCamera.Relay.ProducerDescriptor
import VirtualCamera.Relay.RelayHalWorld
import VirtualCamera.Relay.RelayInvariants
import VirtualCamera.Relay.RelayJoin
import VirtualCamera.Relay.RelayMoves
import VirtualCamera.Relay.RelayWorld
import VirtualCamera.Relay.Undisturbed
import VirtualCamera.Relay.VirtualCameraRelay
import VirtualCamera.Service.Availability
import VirtualCamera.Service.ExclusiveSlots
import VirtualCamera.Service.LifecycleJoin
import VirtualCamera.Service.LifecycleSlot
import VirtualCamera.Service.ProducerCapabilities
import VirtualCamera.Service.ProducerTokens
import VirtualCamera.Service.ServiceWorld
import VirtualCamera.Service.SlotLeases
import VirtualCamera.Service.VirtualCameraService
import VirtualCamera.Session.Announced
import VirtualCamera.Session.Authority
import VirtualCamera.Session.Bookkeeping
import VirtualCamera.Session.BufferCache
import VirtualCamera.Session.CallbackProtocol
import VirtualCamera.Session.Cancelling
import VirtualCamera.Session.Capture
import VirtualCamera.Session.CloseFinal
import VirtualCamera.Session.CloseReturns
import VirtualCamera.Session.Closing
import VirtualCamera.Session.Completion
import VirtualCamera.Session.Ending
import VirtualCamera.Session.Environment
import VirtualCamera.Session.Exposures
import VirtualCamera.Session.Footprint
import VirtualCamera.Session.FreshCaptures
import VirtualCamera.Session.GpuCompositor
import VirtualCamera.Session.GpuView
import VirtualCamera.Session.HalSteps
import VirtualCamera.Session.Ledger
import VirtualCamera.Session.LocalSteps
import VirtualCamera.Session.LongestFrame
import VirtualCamera.Session.Negotiation
import VirtualCamera.Session.Operations
import VirtualCamera.Session.Pacing
import VirtualCamera.Session.Progress
import VirtualCamera.Session.Prologue
import VirtualCamera.Session.Renegotiation
import VirtualCamera.Session.SessionSystem
import VirtualCamera.Session.Sightings
import VirtualCamera.Session.SlotAuthority
import VirtualCamera.Session.Stages
import VirtualCamera.Session.TargetRate
import VirtualCamera.Session.Template
import VirtualCamera.Session.Timing
import VirtualCamera.Session.UntouchedFailure
import VirtualCamera.Session.VirtualCameraSession
import VirtualCamera.Shared.Checksums
import VirtualCamera.Shared.Custody
import VirtualCamera.Shared.Descriptors
import VirtualCamera.Shared.Interaction
import VirtualCamera.Shared.Interleaving
import VirtualCamera.Shared.Joins
import VirtualCamera.Shared.KernelTwins
import VirtualCamera.Shared.Leases
import VirtualCamera.Shared.Notices
import VirtualCamera.Shared.OwnedCache
import VirtualCamera.Shared.Renaming
import VirtualCamera.Shared.Rings
import VirtualCamera.Shared.Runs
import VirtualCamera.Shared.Selection
import VirtualCamera.Shared.Service
import VirtualCamera.Shared.Stores
import VirtualCamera.V2.BufferOwnership
import VirtualCamera.V2.ControlRing
import VirtualCamera.V2.Fences
import VirtualCamera.V2.HalInterface
import VirtualCamera.V2.Negotiation
import VirtualCamera.V2.PoolSetup
import VirtualCamera.V2.PoolTransfer
import VirtualCamera.V2.RendererInterface
import VirtualCamera.V2.RingFifo
import VirtualCamera.V2.SetupHal
import VirtualCamera.V2.SetupHandling
import VirtualCamera.V2.SetupInvariants
import VirtualCamera.V2.SetupWorld
import VirtualCamera.V2.SetupWriters
import VirtualCamera.V2.SharedBufferPool
import VirtualCamera.V2.UntrustedRing
import VirtualCamera.V2.ZeroCopyWorld
