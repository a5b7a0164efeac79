import CloudClient.LogSettings
import CloudClient.Places
import CloudClient.Proofs.BuiltCatalogs
import CloudClient.Proofs.CacheLog
import CloudClient.Proofs.CallRecovery
import CloudClient.Proofs.CatalogShapes
import CloudClient.Proofs.DialectSequence
import CloudClient.Proofs.ErrorReports
import CloudClient.Proofs.FailedAuthentication
import CloudClient.Proofs.HomeRegion
import CloudClient.Proofs.HostRegions
import CloudClient.Proofs.MissingVersions
import CloudClient.Proofs.PathVersions
import CloudClient.Proofs.ProfilePrecedence
import CloudClient.Proofs.RegionalAuthentication
import CloudClient.Proofs.RejectionTests
import CloudClient.Proofs.RequestBodies
import CloudClient.Proofs.RequestCatalog
import CloudClient.Proofs.ResolvedRegions
import CloudClient.Proofs.ResourceTargets
import CloudClient.Proofs.Revalidation
import CloudClient.Proofs.SessionExclusion
import CloudClient.Proofs.SingleFlight
import CloudClient.Proofs.ThrottlePauses
import CloudClient.Proofs.TokenHeaders
import CloudClient.Proofs.WireSecrecy
