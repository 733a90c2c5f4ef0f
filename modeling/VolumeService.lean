import VolumeService.Session.Run
import VolumeService.Proofs.BootChoice
import VolumeService.Proofs.FailedRequests
import VolumeService.Proofs.RaceOutcome
import VolumeService.Proofs.VolumeIds
import VolumeService.Proofs.MountNames
import VolumeService.Proofs.SystemSlot
import VolumeService.Proofs.LockedUpdates
import VolumeService.Proofs.FirstOfName
import VolumeService.Proofs.Grounded
import VolumeService.Proofs.RoundTrip
import VolumeService.Proofs.ScriptedReferences
import VolumeService.Proofs.Custody
import VolumeService.Proofs.ServiceRefinement
import VolumeService.Proofs.MovingCursor
import VolumeService.Proofs.NormalPaths
import VolumeService.Kernel
import VolumeService.Proofs.LogIndependence
import VolumeService.Proofs.RegistrationOrder
import VolumeService.Proofs.RootParent
import VolumeService.Proofs.DriverCalls
import VolumeService.Proofs.NameLimit
import VolumeService.Proofs.WalkParts
import VolumeService.Proofs.DirectoryMap
import VolumeService.Proofs.ParentLinks
import VolumeService.Proofs.ImageReads
import VolumeService.Proofs.DriverRegistries
import VolumeService.Proofs.Reports
import VolumeService.Proofs.MountPointLinks
import VolumeService.Proofs.Spellings
import VolumeService.Proofs.DirectoryGrowth
import VolumeService.Proofs.ScanBounds
