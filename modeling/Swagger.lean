import Swagger.Config.Description
import Swagger.Main
import Swagger.Proofs.CopiedSchemas
import Swagger.Proofs.LeftOut
import Swagger.Proofs.ObjectRoundTrips
import Swagger.Proofs.ParameterForm
import Swagger.Proofs.Reordering
import Swagger.Proofs.SharedDefinitions
import Swagger.Proofs.SharedPointers
import Swagger.Proofs.EntryPoints
import Swagger.Proofs.ManifestRoutes
import Swagger.Proofs.RequestBodies
import Swagger.Proofs.Capitals
import Swagger.Proofs.ServiceCalls
import Swagger.Proofs.BuiltKeys
import Swagger.Proofs.RepeatedKeys
import Swagger.Proofs.RepeatedNames
import Swagger.Proofs.ResolvedPlaces
import Swagger.Proofs.DefinitionCalls
import Swagger.Proofs.ParameterPartition
import Swagger.Proofs.SharedNames
import Swagger.Proofs.MapKeys
import Swagger.Proofs.MarkerLines
import Swagger.Proofs.JoinedPaths
import Swagger.Proofs.EscapedKeys
import Swagger.Proofs.MethodSlots
import Swagger.Proofs.DraftBodies
import Swagger.Proofs.TypePaths
import Swagger.Proofs.FreeNames
import Swagger.Proofs.DraftResponses
