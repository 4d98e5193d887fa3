import TokenAuthority.Keys.Service
import TokenAuthority.Keys.Store
import TokenAuthority.Proofs.Keys.Loading
import TokenAuthority.Proofs.Keys.Revocation
import TokenAuthority.Proofs.Pipeline.Crowd
import TokenAuthority.Proofs.Pipeline.OwnAccess
import TokenAuthority.Proofs.Pipeline.Protection
import TokenAuthority.Proofs.Pipeline.Statuses
import TokenAuthority.Proofs.Policy.Loading
import TokenAuthority.Proofs.Policy.MoreRoles
import TokenAuthority.Proofs.Renewal
import TokenAuthority.Server
import TokenAuthority.Service
import TokenAuthority.Settings
import TokenAuthority.Proofs.Json.Agreement
import TokenAuthority.Proofs.Policy.ItemOrder
import TokenAuthority.Proofs.Policy.Rewriting
import TokenAuthority.Proofs.Policy.Relevance
import TokenAuthority.Proofs.Pipeline.Nesting
import TokenAuthority.Proofs.Pipeline.Registration
import TokenAuthority.Proofs.Pipeline.Secrecy
import TokenAuthority.Proofs.Keys.Truncation
import TokenAuthority.Proofs.Permission
import TokenAuthority.Proofs.Keys.Signing
import TokenAuthority.Proofs.Pipeline.Elsewhere
import TokenAuthority.Proofs.Pipeline.Callers
import TokenAuthority.Proofs.Pipeline.Deadlines
import TokenAuthority.Proofs.Draining
import TokenAuthority.Proofs.Policy.Paths
import TokenAuthority.Proofs.Keys.Store
import TokenAuthority.Proofs.Settings.Acceptance
