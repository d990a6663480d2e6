import GpuCompute.Schema
import GpuCompute.Registry.Shelf
import GpuCompute.InMemory.Session
import GpuCompute.Vulkan.Session
import GpuCompute.Proofs.Settlement
import GpuCompute.Proofs.Vulkan.Ledger
import GpuCompute.Proofs.Vulkan.Runs
import GpuCompute.Proofs.Binding
import GpuCompute.Proofs.Borrowing
import GpuCompute.Proofs.Vulkan.Balance
import GpuCompute.Proofs.Vulkan.Released
import GpuCompute.Proofs.Absorption
import GpuCompute.Proofs.Vulkan.Effects
import GpuCompute.Proofs.Vulkan.Managers
import GpuCompute.Proofs.Agreement
import GpuCompute.Proofs.Bookkeeping
import GpuCompute.Proofs.Clearing
import GpuCompute.Proofs.Vulkan.Obliviousness
import GpuCompute.Proofs.Vulkan.Clearing
import GpuCompute.Proofs.Driving
import GpuCompute.Proofs.Estates
import GpuCompute.Proofs.Conservation
import GpuCompute.Proofs.Owners
import GpuCompute.Proofs.Vulkan.Estates
import GpuCompute.Proofs.Vulkan.Owners
import GpuCompute.Proofs.Queues
import GpuCompute.Proofs.Retirement
import GpuCompute.Proofs.Management
import GpuCompute.Proofs.Atomicity
import GpuCompute.Proofs.Configurations
import GpuCompute.Proofs.Vulkan.Allotments
import GpuCompute.Proofs.Vulkan.Descriptors
import GpuCompute.Proofs.Backing
import GpuCompute.Proofs.Acceptance
import GpuCompute.Proofs.Access
import GpuCompute.Proofs.Vulkan.Sizes
import GpuCompute.Proofs.Vulkan.Quiescence
import GpuCompute.Proofs.Tracking
import GpuCompute.Proofs.Registered
import GpuCompute.Proofs.Vulkan.Advertised
import GpuCompute.Proofs.Descriptions
import GpuCompute.Proofs.Words
import GpuCompute.Proofs.Coherence
