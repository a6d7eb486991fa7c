import Mobula.RegistryScreen
import Mobula.Controller.Backoff
import Mobula.Controller.RateLimit
import Mobula.Controller.PoolContents
import Mobula.Controller.MeteringUnits
import Mobula.Api.WriteProtection
import Mobula.Api.QuotaConcurrency
import Mobula.Api.QuotaLifecycle
import Mobula.Api.Termination
import Mobula.Controller.Recreation
import Mobula.Controller.Tombstones
import Mobula.Api.ClusterIsolation
import Mobula.Api.RegistryTokens
import Mobula.Controller.AuditWindows
import Mobula.Api.TokenAuthority
import Mobula.Api.TokenEscalation
import Mobula.Controller.RowInvariant
import Mobula.Api.JobFidelity
import Mobula.Provision.AppliedObjects
import Mobula.Api.Creation
import Mobula.Provision.Events
import Mobula.Provision.Services
import Mobula.Controller.DaskDrift
import Mobula.Policy.UsageIntegral
import Mobula.Controller.AgeCap
import Mobula.Controller.ActuationKeys
import Mobula.Api.UsageReport
import Mobula.Controller.AuditBackfill
import Mobula.Api.GatewayPermits
import Mobula.Api.PolicyEdits
import Mobula.Api.Provisioned
import Mobula.Api.Consumption
import Mobula.Auth.LoginRaces
import Mobula.Controller.AuditPages
import Mobula.Controller.PolicyLeaks
import Mobula.Controller.PoolTeardown
import Mobula.Provision.RouterRuns
import Mobula.Api.Headers
import Mobula.Controller.PoolFingerprint
import Mobula.PoolNames
import Mobula.Cli
