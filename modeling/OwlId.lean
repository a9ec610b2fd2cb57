import OwlId.Lib.Bytes
import OwlId.Lib.Results
import OwlId.Lib.Runs
import OwlId.Lib.Encodings
import OwlId.Lib.Text
import OwlId.Lib.UnicodeCase
import OwlId.Lib.JsText
import OwlId.Lib.Doubles
import OwlId.Lib.Merkle
import OwlId.Lib.Table
import OwlId.Lib.Writes
import OwlId.ProofSystem.Json
import OwlId.ProofSystem.Attestation
import OwlId.ProofSystem.Keys
import OwlId.ProofSystem.SdJwt
import OwlId.ProofSystem.SdJwtSoundness
import OwlId.ProofSystem.SdJwtRoundTrip
import OwlId.ProofSystem.Countries
import OwlId.ProofSystem.CredentialIds
import OwlId.ProofSystem.Predicates
import OwlId.ProofSystem.StatusList
import OwlId.Contracts.Access
import OwlId.Contracts.Predicate
import OwlId.Contracts.Binding
import OwlId.Contracts.PredicateSoundness
import OwlId.Contracts.Personhood
import OwlId.Contracts.KeySeparation
import OwlId.Contracts.LedgerMap
import OwlId.Contracts.RevocationRegistry
import OwlId.Contracts.IdentityRegistry
import OwlId.Contracts.IssuerRegistry
import OwlId.Verification.Dcql
import OwlId.Verification.Sessions
import OwlId.Verification.Revocations
import OwlId.Verification.Service
import OwlId.Verification.DcqlSoundness
import OwlId.Verification.SessionBinding
import OwlId.Verification.SingleUse
import OwlId.Verification.Expiry
import OwlId.Verification.RevocationMirror
import OwlId.Verification.RevocationConcurrency
import OwlId.Sidecar.Events
import OwlId.Verification.EventMirror
import OwlId.Sidecar.DiffApply
import OwlId.Sidecar.Polling
import OwlId.Sidecar.EventStream
import OwlId.Sidecar.DustErrors
import OwlId.Sidecar.RelayJobs
import OwlId.Sidecar.SubmitPipeline
import OwlId.Sidecar.PendingReaper
import OwlId.Sidecar.RelayBatcher
import OwlId.Verification.IssuerTrust
import OwlId.Verification.Reactivation
import OwlId.Verification.KeyDerivation
import OwlId.Verification.PredicateCheck
import OwlId.Sdk.Countries
import OwlId.Sdk.AttestationKeys
import OwlId.Sdk.OwlRoot
import OwlId.Sdk.ClaimValues
import OwlId.Sdk.ClaimDates
import OwlId.Sdk.OwlRootParity
import OwlId.Issuer.Issuance
import OwlId.Issuer.IssuedClaims
import OwlId.Issuer.Stamps
import OwlId.Issuer.StatusList
import OwlId.Verification.SelfRevocation
import OwlId.Verification.PresentationRelay
import OwlId.Sdk.Wallet
import OwlId.Issuer.Database
import OwlId.Issuer.PollingRounds
import OwlId.Issuer.SessionWrites
import OwlId.Issuer.IssuanceSlot
import OwlId.Issuer.SessionHandlers
import OwlId.Issuer.StatusStability
import OwlId.Issuer.OrphanedClaims
import OwlId.Issuer.OidcStates
import OwlId.Lib.StandardBase64
import OwlId.Issuer.Webhooks
import OwlId.Issuer.IdentityAnchors
import OwlId.Sdk.PredicateRequests
import OwlId.ProofSystem.PredicateRouting
import OwlId.Sdk.Routing
import OwlId.Lib.Calendar
import OwlId.Lib.Slices
import OwlId.Contracts.AgePredicates
import OwlId.Sdk.CredentialStorage
import OwlId.Issuer.Normalizer
import OwlId.Issuer.DiditProvider
import OwlId.Issuer.PollingPanics
import OwlId.Issuer.PollingKeeps
import OwlId.Issuer.CredentialBridge
import OwlId.Issuer.AttestedFacts
import OwlId.ProofSystem.StatusToken
import OwlId.Crypto.RingSignature
import OwlId.Crypto.AuthenticatorData
import OwlId.Crypto.WebAuthn
import OwlId.Verification.DidKey
import OwlId.Verification.StoredCredentials
import OwlId.Sdk.RecoveryFile
import OwlId.Lib.Streams
import OwlId.Verification.SseParsing
import OwlId.Lib.Promises
import OwlId.Sidecar.PromiseChains
import OwlId.Sdk.DatePacking
import OwlId.Verification.Erasure
import OwlId.Verification.DidWeb
import OwlId.Lib.Joined
import OwlId.Issuer.PersonhoodIdentity
import OwlId.Issuer.StampedCountries
import OwlId.Lib.Traced
import OwlId.Sdk.Orchestrator
import OwlId.Sdk.OrchestratorRuns
import OwlId.Sdk.EnsuredTuples
import OwlId.Sdk.Presenting
import OwlId.Sdk.LandedKeys
import OwlId.Network.Attested
import OwlId.Network.AcceptedPredicates
import OwlId.Lib.Radix
import OwlId.Verification.ApiKeys
import OwlId.Verification.Access
import OwlId.Verification.AccessRuns
import OwlId.Verification.AdminSessions
import OwlId.Lib.FixedWindow
import OwlId.Issuer.RateLimiter
import OwlId.Verification.RateLimits
import OwlId.Sdk.SdJwt
import OwlId.Sdk.SdJwtPresenting
import OwlId.Sdk.SdJwtVerifying
