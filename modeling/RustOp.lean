import RustOp.Effects.Prog
import RustOp.Effects.Table
import RustOp.Effects.Interleave
import RustOp.Effects.RelyGuarantee
import RustOp.Memory
import RustOp.Grants
import RustOp.TokenStore
import RustOp.GrantSpecs
import RustOp.TokenRuns
import RustOp.Rotation
import RustOp.CodeReplay
import RustOp.Reference
import RustOp.RefreshFamily
import RustOp.RefreshRace
import RustOp.Firestore.Store
import RustOp.Firestore.Contract
import RustOp.Firestore.Footprint
import RustOp.Firestore.OneShot
import RustOp.Deployment
import RustOp.SpentOnce
import RustOp.CodeRace
import RustOp.Web.Host
import RustOp.Web.Jws
import RustOp.Web.Freshness
import RustOp.Web.ClientAuth
import RustOp.Effects.Retention
import RustOp.Web.AcceptedOnce
import RustOp.Web.Reference
import RustOp.Web.CrossClient
import RustOp.Effects.Checks
import RustOp.Web.Server
import RustOp.Web.Par
import RustOp.Web.Token
import RustOp.Web.SeveralProofs
import RustOp.Effects.History
import RustOp.Web.Webauthn
import RustOp.Base64
import RustOp.Web.FidoStore
import RustOp.RoundTrip
import RustOp.AdminStore
import RustOp.JsonText
import RustOp.AdminRegistry
import RustOp.Web.Registration
import RustOp.Web.AccountRace
import RustOp.Web.Login
import RustOp.Web.Ciba
import RustOp.Web.Register
import RustOp.Web.SiteReference
import RustOp.Web.Thumbprints
import RustOp.Web.SingleUse
import RustOp.Web.InviteRace
import RustOp.Web.AccountAdmin
import RustOp.Effects.Directory
import RustOp.Web.AccountIdentity
import RustOp.RefreshRecords
import RustOp.FailedRefresh
import RustOp.Web.FidoFrame
import RustOp.Web.ProfileRace
import RustOp.Web.Dcr
import RustOp.Web.DcrStore
import RustOp.Web.GrantedRegistration
import RustOp.Web.ClientKeys
import RustOp.Web.AdminConsole
import RustOp.JsonFormat
import RustOp.Web.RegistrarReference
import RustOp.Web.IatRace
import RustOp.Web.ReturnAddresses
import RustOp.Web.ClientRegistry
import RustOp.Web.AuthMethods
import RustOp.Web.LastAdmin
import RustOp.Web.AccountDeletion
import RustOp.Web.Signatures
import RustOp.Web.Certificates
import RustOp.Web.Tpm
import RustOp.Web.Attestation
import RustOp.Web.Conformance
import RustOp.Web.AttestationReference
import RustOp.Web.CertifiedCore
import RustOp.Web.CertificateChains
import RustOp.Web.CoseKeys
import RustOp.Web.AttestationMetadata
import RustOp.Web.CompromisedKept
import RustOp.Firestore.Recorded
import RustOp.Web.UserInfo
import RustOp.Web.TruthfulClaims
import RustOp.Positional
import RustOp.Gregorian
import RustOp.Firestore.Dates
import RustOp.Firestore.Expiry
import RustOp.SlidingWindow
import RustOp.RateLimiter
import RustOp.Web.AcceptLanguage
import RustOp.Occurrences
import RustOp.Web.Catalog
import RustOp.Web.Localize
import RustOp.Web.KeysReference
import RustOp.Web.TpmLayout
import RustOp.Web.TpmBinding
import RustOp.Web.AttestationAlgorithms
import RustOp.Web.InviteReturns
import RustOp.Effects.Implementation
import RustOp.Effects.Once
import RustOp.Firestore.Lineage
import RustOp.Firestore.Answers
import RustOp.Web.Authorize
import RustOp.Web.Vetted
import RustOp.Web.SignedIn
import RustOp.Web.Pushed
import RustOp.Web.Service
import RustOp.Web.CodeFlow
import RustOp.Web.CodeOrigins
import RustOp.Web.FlowReference
import RustOp.Web.GrantedCodes
import RustOp.Web.PushedCodes
import RustOp.Web.CodePerLogin
import RustOp.Web.Backchannel
import RustOp.Firestore.CibaAnswers
import RustOp.Web.Consents
import RustOp.Web.CibaFlow
import RustOp.Web.CibaOrigins
import RustOp.Web.RequestLife
import RustOp.Web.ConsentedTokens
