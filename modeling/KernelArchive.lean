import KernelArchive.Catalog.Basic
import KernelArchive.Handle
import KernelArchive.Inventory.OpenModeData
import KernelArchive.Inventory.Save
import KernelArchive.Json.Numeral
import KernelArchive.RestoredKernel.Data
import KernelArchive.Proofs.Backend.FailedSaves
import KernelArchive.Proofs.Backend.LastingHits
import KernelArchive.Proofs.Backend.Reuse
import KernelArchive.Proofs.Backend.RoundTrip
import KernelArchive.Proofs.Backend.SavesElsewhere
import KernelArchive.Proofs.Catalog.Calls
import KernelArchive.Proofs.Catalog.Discovery
import KernelArchive.Proofs.Catalog.Excluded
import KernelArchive.Proofs.Catalog.Laziness
import KernelArchive.Proofs.Text.ByteOrder
import KernelArchive.Proofs.Inventory.Containment
import KernelArchive.Proofs.Inventory.EmptyDirectory
import KernelArchive.Proofs.Inventory.ExportCalls
import KernelArchive.Proofs.Inventory.Independence
import KernelArchive.Proofs.Inventory.Repetition
import KernelArchive.Proofs.RestoredKernel.Forms
import KernelArchive.Proofs.Backend.Completeness
import KernelArchive.Proofs.Backend.Inventories
import KernelArchive.Proofs.Backend.OptionalFiles
import KernelArchive.Proofs.Catalog.Lookups
import KernelArchive.Proofs.Catalog.ProbeFailures
import KernelArchive.Proofs.Backend.DeviceSources
import KernelArchive.Proofs.Text.Lowered
import KernelArchive.Proofs.Text.Trimming
import KernelArchive.Proofs.Exclusions.Lists
import KernelArchive.Proofs.SourceKind
import KernelArchive.Proofs.Exclusions.NormalForm
import KernelArchive.Proofs.FileSystem.FileNames
import KernelArchive.Proofs.Backend.Wrappers
