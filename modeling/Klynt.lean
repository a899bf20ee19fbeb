import Klynt.Desktop.ActiveWindow
import Klynt.Desktop.Layout
import Klynt.Desktop.LayoutWire
import Klynt.Desktop.LocalStorage
import Klynt.Desktop.Maximize
import Klynt.Desktop.SaveFailure
import Klynt.Desktop.TenantAdapter
import Klynt.Desktop.WholeCoordinates
import Klynt.Desktop.WindowManager
import Klynt.Desktop.ZOrder
import Klynt.Domain.Email
import Klynt.Domain.PasswordRules
import Klynt.Domain.Session
import Klynt.Domain.Slug
import Klynt.Domain.Tenant
import Klynt.Domain.User
import Klynt.Lib.Delimited
import Klynt.Lib.FixedWindow
import Klynt.Lib.FormUrl
import Klynt.Lib.History
import Klynt.Lib.IpAddr
import Klynt.Lib.IpParse
import Klynt.Lib.Json
import Klynt.Lib.JsonText
import Klynt.Lib.Keyed
import Klynt.Lib.Percent
import Klynt.Lib.Record
import Klynt.Lib.RowStore
import Klynt.Lib.SortRank
import Klynt.Lib.Timeline
import Klynt.Lib.WebUrl
import Klynt.Lib.Wire
import Klynt.Lib.Wp
import Klynt.Persistence.AccountFrame
import Klynt.Persistence.Idempotency
import Klynt.Persistence.LayoutStore
import Klynt.Persistence.Mirror
import Klynt.Persistence.Query
import Klynt.Persistence.RateLimiter
import Klynt.Persistence.Repository
import Klynt.Persistence.Statement
import Klynt.Persistence.Transaction
import Klynt.Persistence.UsernameBackfill
import Klynt.Persistence.World
import Klynt.Routing.HostContext
import Klynt.Routing.LoginReturn
import Klynt.Routing.Redirect
import Klynt.Routing.SubdomainRouter
import Klynt.Service.Auth
import Klynt.Service.CleanupJob
import Klynt.Service.ClientIp
import Klynt.Service.Cors
import Klynt.Service.DesktopLayout
import Klynt.Service.Gateway
import Klynt.Service.Session
import Klynt.Service.Tenant
import Klynt.Service.TenantRoutes
import Klynt.Service.UsePermissions
import Klynt.Service.User
import Klynt.System.AccessValidation
import Klynt.System.AccountAccess
import Klynt.System.AccountRun
import Klynt.System.Activation
import Klynt.System.AdminGate
import Klynt.System.CacheCoherence
import Klynt.System.CheckedTenant
import Klynt.System.Cleanup
import Klynt.System.Enumeration
import Klynt.System.FailedCalls
import Klynt.System.GuardedCall
import Klynt.System.IdempotencyRun
import Klynt.System.InviteOrigin
import Klynt.System.Isolation
import Klynt.System.LayoutRace
import Klynt.System.LayoutUpsert
import Klynt.System.LinkRetry
import Klynt.System.LoginAtomicity
import Klynt.System.LogoutRetry
import Klynt.System.OneTimeToken
import Klynt.System.OwnerMembership
import Klynt.System.OwnershipRace
import Klynt.System.Pagination
import Klynt.System.PasswordOrigin
import Klynt.System.PermissionView
import Klynt.System.PermissionsRace
import Klynt.System.PlatformPermissions
import Klynt.System.Privilege
import Klynt.System.ProfileRace
import Klynt.System.RateLimit
import Klynt.System.RegistrationRetry
import Klynt.System.Renaming
import Klynt.System.ResetEffect
import Klynt.System.RolePermissions
import Klynt.System.RoleReference
import Klynt.System.SnapshotAlgebra
import Klynt.System.SnapshotMirror
import Klynt.System.StaleFill
import Klynt.System.Staleness
import Klynt.System.SystemRoles
import Klynt.System.TenantAtomicity
import Klynt.System.TenantCaps
import Klynt.System.TenantTrace
import Klynt.System.Upgrade
import Klynt.System.UserManagement
import Klynt.System.UserRoundTrip
import Klynt.System.TenantRace
import Klynt.System.WriteOrigin
import Klynt.System.InviteReuse
import Klynt.Lib.Simulation
import Klynt.Persistence.FakeSessionStore
import Klynt.Persistence.TenantMigration
import Klynt.System.StoreRefinement
