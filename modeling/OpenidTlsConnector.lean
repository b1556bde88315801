import OpenidTlsConnector.Foundations.Base64
import OpenidTlsConnector.Foundations.Blake3
import OpenidTlsConnector.Foundations.Cbor
import OpenidTlsConnector.Foundations.DistinguishedName
import OpenidTlsConnector.Foundations.Escaping
import OpenidTlsConnector.Foundations.Fields
import OpenidTlsConnector.Foundations.FormUrlEncoded
import OpenidTlsConnector.Foundations.Forms
import OpenidTlsConnector.Foundations.History
import OpenidTlsConnector.Foundations.Json
import OpenidTlsConnector.Foundations.Loops
import OpenidTlsConnector.Foundations.Machine
import OpenidTlsConnector.Foundations.Octets
import OpenidTlsConnector.Foundations.OrderedUnion
import OpenidTlsConnector.Foundations.Outcome
import OpenidTlsConnector.Foundations.Processes
import OpenidTlsConnector.Foundations.Replicas
import OpenidTlsConnector.Foundations.Sha256
import OpenidTlsConnector.Foundations.Simulation
import OpenidTlsConnector.Foundations.Slices
import OpenidTlsConnector.Foundations.Text
import OpenidTlsConnector.Foundations.Time
import OpenidTlsConnector.Foundations.Toml
import OpenidTlsConnector.Foundations.Url
import OpenidTlsConnector.Oidc.CanonicalIssuer
import OpenidTlsConnector.Oidc.Client
import OpenidTlsConnector.Oidc.Code.AuthorizationCode
import OpenidTlsConnector.Oidc.Code.RoundTrip
import OpenidTlsConnector.Oidc.Code.Signature
import OpenidTlsConnector.Oidc.Discovery
import OpenidTlsConnector.Oidc.Jti
import OpenidTlsConnector.Oidc.Keys
import OpenidTlsConnector.Oidc.Protocol
import OpenidTlsConnector.Oidc.Redemption
import OpenidTlsConnector.Oidc.Registry
import OpenidTlsConnector.Oidc.Router
import OpenidTlsConnector.Oidc.Storage
import OpenidTlsConnector.Oidc.Token
import OpenidTlsConnector.Oidc.TokenStore
import OpenidTlsConnector.Oidc.Wire
import OpenidTlsConnector.Platform
import OpenidTlsConnector.Reference.Exchange
import OpenidTlsConnector.Reference.Http
import OpenidTlsConnector.Reference.HttpRun
import OpenidTlsConnector.Reference.Platform
import OpenidTlsConnector.Server.Advertised
import OpenidTlsConnector.Server.AnyStore
import OpenidTlsConnector.Server.Authentication
import OpenidTlsConnector.Server.ClientAuthentication
import OpenidTlsConnector.Server.Completion
import OpenidTlsConnector.Server.ConfigFile
import OpenidTlsConnector.Server.Deployment
import OpenidTlsConnector.Server.Growth
import OpenidTlsConnector.Server.Histories
import OpenidTlsConnector.Server.Http
import OpenidTlsConnector.Server.HttpFlow
import OpenidTlsConnector.Server.HttpTokens
import OpenidTlsConnector.Server.Interleaving
import OpenidTlsConnector.Server.Issuer
import OpenidTlsConnector.Server.Ledger
import OpenidTlsConnector.Server.Lifetimes
import OpenidTlsConnector.Server.MacKey
import OpenidTlsConnector.Server.Main
import OpenidTlsConnector.Server.MalformedBasic
import OpenidTlsConnector.Server.Minting
import OpenidTlsConnector.Server.Observable
import OpenidTlsConnector.Server.Provenance
import OpenidTlsConnector.Server.Redirect
import OpenidTlsConnector.Server.Refusal
import OpenidTlsConnector.Server.Run
import OpenidTlsConnector.Server.Serial
import OpenidTlsConnector.Server.SingleUse
import OpenidTlsConnector.Server.Surface
import OpenidTlsConnector.Server.TokenKinds
import OpenidTlsConnector.Server.Userinfo
import OpenidTlsConnector.Users
import OpenidTlsConnector.Users.Groups
import OpenidTlsConnector.Users.Injection
import OpenidTlsConnector.Users.Rdns
import OpenidTlsConnector.Users.SplitLoop
import OpenidTlsConnector.Users.Subjects
