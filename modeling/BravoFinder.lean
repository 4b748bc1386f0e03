import BravoFinder.Graph.YenOrder
import BravoFinder.Graph.SearchExact
import BravoFinder.Navdb.ForcedRoutes
import BravoFinder.Cache.GraphDecode
import BravoFinder.HttpServer.Response
import BravoFinder.HttpServer.KeepAlive
import BravoFinder.Cache.SegmentDamage
import BravoFinder.Navdb.ProcedureCoherence
import BravoFinder.Service.RegistryRuns
import BravoFinder.Constraints.AirwayRule
import BravoFinder.Build.NearestOnNetwork
import BravoFinder.Constraints.MoraConstraint
import BravoFinder.Navdb.NamedProcedure
import BravoFinder.Build.SpliceSeeds
import BravoFinder.Build.ApproachSeeds
import BravoFinder.Navdb.ViaPoints
import BravoFinder.Navdb.RouteAssembler
import BravoFinder.Navdb.AssembledRoutes
import BravoFinder.Cache.CrcBurst
import BravoFinder.Graph.PathVerdict
import BravoFinder.Graph.SearchHistory
import BravoFinder.Navdb.AirwayIndex
import BravoFinder.Library.RowTable
import BravoFinder.Build.KeyedVertices
import BravoFinder.Build.Populate
import BravoFinder.Build.FaithfulGraph
import BravoFinder.Mcp.JsonValue
import BravoFinder.Mcp.Dispatcher
import BravoFinder.Mcp.Replies
import BravoFinder.Core.ProcedureText
import BravoFinder.Loaders.SqliteRows
import BravoFinder.Loaders.FenixProcedures
import BravoFinder.Loaders.FenixAgreement
import BravoFinder.Loaders.DfdAgreement
import BravoFinder.Cache.SegmentSafety
import BravoFinder.Cache.ArchiveSafety
import BravoFinder.Navdb.ParseRoute
import BravoFinder.Navdb.ParseRuns
import BravoFinder.Navdb.ParsedRoutes
import BravoFinder.Cache.ByteCursor
import BravoFinder.Cache.ReaderPromises
import BravoFinder.Library.BinarySearch
import BravoFinder.Core.PackedIdent
import BravoFinder.Build.PackedIndex
import BravoFinder.Build.IndexScans
import BravoFinder.Cache.DetailLookup
import BravoFinder.Cache.DetailListing
import BravoFinder.Cache.BfdbNaming
import BravoFinder.Service.InventoryScan
import BravoFinder.HttpServer.RequestLimits
import BravoFinder.Loaders.PointDedup
import BravoFinder.Library.KeyRuns
import BravoFinder.Loaders.DfdAirways
import BravoFinder.Loaders.CifpGrouping
import BravoFinder.Service.AirwayRuleArgs
import BravoFinder.Loaders.KeptNumbers
import BravoFinder.Cache.GraphRoundTrip
import BravoFinder.Cache.ContainerRoundTrip
import BravoFinder.Cache.ContainerDamage
import BravoFinder.Build.CachedGraph
import BravoFinder.Navdb.FiledRoutes
import BravoFinder.Constraints.ConstraintAssembly
import BravoFinder.Navdb.CompliantRoutes
import BravoFinder.Graph.SearchReach
import BravoFinder.Navdb.NoRoute
import BravoFinder.Library.LineFraming
import BravoFinder.Mcp.StdioRunner
import BravoFinder.HttpServer.WorkQueue
import BravoFinder.Mcp.McpHttp
import BravoFinder.HttpServer.Router
import BravoFinder.Library.ListUpdates
import BravoFinder.Library.Volume
import BravoFinder.HttpServer.ConnectionTeardown
import BravoFinder.HttpServer.Server
import BravoFinder.Cache.CacheReplace
