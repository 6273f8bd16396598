import Kvdo.Status
import Kvdo.Vdo.SlabPriority
import Kvdo.Vdo.PriorityTable
import Kvdo.Vdo.BlockAllocator
import Kvdo.Vdo.PrepareSlabs
import Kvdo.Vdo.AllocatorRuns
import Kvdo.Vdo.SlabPlacement
import Kvdo.Vdo.AllocateBlock
import Kvdo.Vdo.PlacementSteps
import Kvdo.Vdo.AllocatedBlocks
import Kvdo.Vdo.AllocatorInvariant
import Kvdo.Vdo.AllocatorContracts
import Kvdo.Vdo.Extent
import Kvdo.Vdo.AllocatingVio
import Kvdo.Vdo.AllocatorAdmin
import Kvdo.Vdo.SlabIterator
import Kvdo.Vdo.ZoneActions
import Kvdo.Vdo.ZoneIndependence
import Kvdo.Uds.Config
import Kvdo.Kernel.Dump
import Kvdo.Uds.MakeConfiguration
import Kvdo.Kernel.Sysfs
