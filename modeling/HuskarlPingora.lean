import HuskarlPingora.AnswerWrites
import HuskarlPingora.AssembledServer
import HuskarlPingora.Assembly
import HuskarlPingora.AssemblyRouting
import HuskarlPingora.BoundaryAgreement
import HuskarlPingora.BranchDispatch
import HuskarlPingora.BuilderChains
import HuskarlPingora.CookieConservation
import HuskarlPingora.CredentialStripping
import HuskarlPingora.DecisionProtocol
import HuskarlPingora.EngineProtocol
import HuskarlPingora.EventMonitors
import HuskarlPingora.FieldMultimap
import HuskarlPingora.GuardAuthorization
import HuskarlPingora.GuardNoninterference
import HuskarlPingora.HttpModel
import HuskarlPingora.IdentityForwarding
import HuskarlPingora.KeyedRegistry
import HuskarlPingora.LocalResponses
import HuskarlPingora.LoginAccess
import HuskarlPingora.LoginAdapter
import HuskarlPingora.LoginAnswers
import HuskarlPingora.LoginBuilders
import HuskarlPingora.LoginContext
import HuskarlPingora.LoginEffects
import HuskarlPingora.LoginEmissions
import HuskarlPingora.LoginFinalization
import HuskarlPingora.LoginGate
import HuskarlPingora.LoginLifecycle
import HuskarlPingora.LoginRules
import HuskarlPingora.LoginTelemetry
import HuskarlPingora.LoginTwins
import HuskarlPingora.LoginUpstream
import HuskarlPingora.MetadataPublication
import HuskarlPingora.MetadataPublisher
import HuskarlPingora.NonceDelivery
import HuskarlPingora.PolicyConstruction
import HuskarlPingora.PolicyNarrowing
import HuskarlPingora.RejectionDetails
import HuskarlPingora.RejectionResponses
import HuskarlPingora.RendererNoninterference
import HuskarlPingora.ResourceBinding
import HuskarlPingora.ResourceBoundary
import HuskarlPingora.ResourceContext
import HuskarlPingora.ResourceEffects
import HuskarlPingora.ResourceErrors
import HuskarlPingora.ResourceGuard
import HuskarlPingora.ResourceIsolation
import HuskarlPingora.ResourcePolicies
import HuskarlPingora.ResourceProxy
import HuskarlPingora.ResourceResponse
import HuskarlPingora.ResourceRules
import HuskarlPingora.ResourceTelemetry
import HuskarlPingora.RouteResolution
import HuskarlPingora.ScopeAdvertisement
import HuskarlPingora.SeparatedWords
import HuskarlPingora.ServerAnswers
import HuskarlPingora.ServerDiscovery
import HuskarlPingora.ServerExtension
import HuskarlPingora.ServerPublication
import HuskarlPingora.ServerTelemetry
import HuskarlPingora.SessionIdentity
import HuskarlPingora.SessionLedger
import HuskarlPingora.SessionObligations
import HuskarlPingora.SlashPaths
import HuskarlPingora.TracedHooks
import HuskarlPingora.TwinRuns
