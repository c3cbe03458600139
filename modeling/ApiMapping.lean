import ApiMapping.Config.Writing
import ApiMapping.Document.Values
import ApiMapping.Gateway.Front
import ApiMapping.Main
import ApiMapping.Plugin.BuiltIn
import ApiMapping.Proofs.Template.Footprint
import ApiMapping.Proofs.Exchange.Query
import ApiMapping.Proofs.Config.Verdict
import ApiMapping.Proofs.Gateway.Isolation
import ApiMapping.Proofs.Gateway.Lookup
import ApiMapping.Proofs.Gateway.Plugins
import ApiMapping.Proofs.Gateway.Front
import ApiMapping.Proofs.Template.Filling
import ApiMapping.Proofs.Template.Spelling
import ApiMapping.Proofs.Routing.StatusRouting
import ApiMapping.Proofs.Config.Reading
import ApiMapping.Proofs.Config.RoundTrip
import ApiMapping.Proofs.Json.Positions
import ApiMapping.Proofs.Plugin.Table
import ApiMapping.Proofs.Template.Addressing
import ApiMapping.Proofs.Template.Joining
import ApiMapping.Proofs.Template.RootPrefix
import ApiMapping.Proofs.Template.Escapes
import ApiMapping.Proofs.Template.Verdicts
import ApiMapping.Proofs.Template.BlanksBehind
import ApiMapping.Proofs.Exchange.Headers
import ApiMapping.Proofs.Gateway.TargetRequest
import ApiMapping.Proofs.Template.Coercion
import ApiMapping.Proofs.Template.Commas
import ApiMapping.Proofs.Template.Extent
