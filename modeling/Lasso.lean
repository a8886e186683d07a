import Lasso.Library.Search
import Lasso.Library.Run
import Lasso.ErrorCode
import Lasso.Strings
import Lasso.Env
import Lasso.Xml.Node
import Lasso.Xml.Soap
import Lasso.Xml.Signature
import Lasso.Xml.Query
import Lasso.Xml.QueryAgreement
import Lasso.Xml.Message
import Lasso.Messages.Saml2
import Lasso.Messages.IdFf
import Lasso.Provider.Basic
import Lasso.Provider.Verify
import Lasso.Provider.Keyless
import Lasso.Provider.SoapWrapping
import Lasso.Server
import Lasso.Session
import Lasso.Identity
import Lasso.Profile
import Lasso.Login
import Lasso.Logout
import Lasso.Saml20.Profile
import Lasso.Saml20.RequestOrigin
import Lasso.Saml20.Provider
import Lasso.Saml20.AuthnRequest
import Lasso.Saml20.AuthnRequestRetry
import Lasso.Saml20.Response
import Lasso.Saml20.Acceptance
import Lasso.Saml20.RecordedIdentity
import Lasso.Saml20.Replay
import Lasso.Saml20.IssuedConditions
import Lasso.Saml20.Logout
import Lasso.Saml20.LogoutResponse
import Lasso.IdFf.Response
import Lasso.IdFf.Acceptance
import Lasso.IdFf.AuthnRequest
import Lasso.IdFf.AuthnRequestGate
import Lasso.IdFf.Logout
import Lasso.LogoutGate
import Lasso.Saml20.ConsumerUrl
import Lasso.Library.Pieces
import Lasso.Xml.QuerySign
import Lasso.Xml.SignatureReferences
import Lasso.Library.Distinct
import Lasso.Session.Dump
import Lasso.Session.Index
import Lasso.Session.ProviderIds
import Lasso.Session.RoundTrip
import Lasso.Library.Descent
import Lasso.Library.Outcome
import Lasso.Saml20.AssertionClasses
import Lasso.Saml20.Conditions
import Lasso.Saml20.ConditionsFromXml
import Lasso.Xml.ParseSafety
import Lasso.Xml.TypeSoundness
import Lasso.ArtifactGate
import Lasso.Saml20.SingleLogout
import Lasso.Saml20.ServerMetadata
import Lasso.Library.Base64
import Lasso.Saml20.ArtifactCodec
import Lasso.Library.Tables
import Lasso.Identity.Restarts
import Lasso.Xml.MessageReader
import Lasso.Library.Decimal
import Lasso.Xml.NodeObject
import Lasso.Xml.NodeWriter
import Lasso.Xml.SnippetOrder
import Lasso.Xml.NodeCodec
import Lasso.Xml.WrittenNode
import Lasso.Xml.ReadAttributes
import Lasso.Xml.ReadNode
import Lasso.Xml.ReadMembers
import Lasso.Xml.NodeRoundTrip
import Lasso.Xml.Rows
import Lasso.IdFf.NameIdentifierMapping
import Lasso.IdFf.NameRegistration
import Lasso.IdFf.SingleSignOn
import Lasso.IdFf.FederationMirror
import Lasso.Saml20.NameIdManagement
import Lasso.Saml20.NameIdAgreement
import Lasso.Saml20.SingleSignOn
import Lasso.Saml20.ClearNameId
import Lasso.Profile.Dump
import Lasso.Login.Dump
import Lasso.Logout.Dump
import Lasso.Saml20.ResponseMessage
import Lasso.Saml20.AssertionQuery
import Lasso.Saml20.Verdict
import Lasso.Provider.Metadata
import Lasso.Registry
import Lasso.Saml20.MustAuthenticate
import Lasso.Saml20.TimeChecks
import Lasso.Server.Dump
import Lasso.Saml20.NameIdExtraction
import Lasso.Session.Atomicity
import Lasso.IdFf.LogoutResponse
import Lasso.Library.StableSort
import Lasso.Saml20.RequestBinding
import Lasso.Saml20.DefaultConsumer
import Lasso.Saml20.Ecp
import Lasso.Library.Scopes
import Lasso.Xml.CleanNs
import Lasso.Server.RoundTrip
import Lasso.Server.Loading
import Lasso.Server.Restores
import Lasso.Saml20.LogoutRequestXml
import Lasso.Xml.SnippetCursor
import Lasso.Saml20.LogoutRequestRead
import Lasso.Saml20.SessionIndexes
import Lasso.Saml20.LoginResponse
import Lasso.Saml20.StatusSettings
import Lasso.Xml.DeflatedQuery
import Lasso.Xml.FormatConstraint
import Lasso.Xml.QueryDecoding
import Lasso.Xml.SigningAborts
import Lasso.Xml.LookAhead
import Lasso.AcceptSso
import Lasso.Saml20.FederationKey
import Lasso.Saml20.ChoiceGroups
import Lasso.Saml20.RenamedFederation
import Lasso.Saml20.SubjectChildren
import Lasso.Xml.AnyAttributes
import Lasso.Xml.CollectedNamespaces
import Lasso.Xml.WildcardChildren
import Lasso.IdFf.AuthnRequestQuery
import Lasso.IdFf.LogoutRequestQuery
import Lasso.IdFf.LogoutRequestXml
import Lasso.Xml.TimeCodec
import Lasso.Provider.MetadataTable
import Lasso.Xml.IntegerFields
import Lasso.Xml.UrlParameters
import Lasso.Saml20.MetadataOutcome
import Lasso.Server.Completeness
import Lasso.IdWsf.Discovery
import Lasso.IdWsf.ModifyRequest
import Lasso.Xml.QueryParam
import Lasso.Xml.InflateBuffer
import Lasso.Saml20.EndpointIndex
import Lasso.Xml.UniqueId
import Lasso.IdFf.DefederationGate
import Lasso.IdFf.FederationLifecycle
import Lasso.IdWsf.CorrelatedExchange
import Lasso.Saml20.AuthnRequestExchange
import Lasso.Saml20.EcpExchange
import Lasso.Saml20.ArtifactExchange
import Lasso.IdWsf2.BearerToken
import Lasso.IdWsf2.DiscoveryRun
