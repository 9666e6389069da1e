import LakeCatalog.Catalog.Tables
import LakeCatalog.Config.Connect
import LakeCatalog.Config.Load
import LakeCatalog.Simulation.World
import LakeCatalog.Proofs.LateErrors
import LakeCatalog.Proofs.RegistryRefinement
import LakeCatalog.Proofs.DefaultIds
import LakeCatalog.Proofs.RenameRace
import LakeCatalog.Proofs.DropRace
import LakeCatalog.Proofs.TableListing
import LakeCatalog.Proofs.NameRace
import LakeCatalog.Proofs.Filing
import LakeCatalog.Proofs.GlueRoundTrip
import LakeCatalog.Proofs.Signals
import LakeCatalog.Proofs.StoredMetadata
import LakeCatalog.Proofs.RenameChains
import LakeCatalog.Proofs.MovingListings
import LakeCatalog.Proofs.PropertyUpdates
import LakeCatalog.Proofs.NamespaceRecords
import LakeCatalog.Proofs.ObjectAddresses
import LakeCatalog.Proofs.ConfigConditions
import LakeCatalog.Proofs.IdMarks
import LakeCatalog.Proofs.GlueRewrites
import LakeCatalog.Proofs.NameGrammar
import LakeCatalog.Proofs.TablePlaces
