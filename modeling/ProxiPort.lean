import ProxiPort.TwoFactor.SingleUse
import ProxiPort.TwoFactor.Guessing
import ProxiPort.TwoFactor.Replay
import ProxiPort.TwoFactor.PendingPassword
import ProxiPort.Session.Revocation
import ProxiPort.Accounts.Attribution
import ProxiPort.ClientsAuth.FailedChange
import ProxiPort.Clients.Reestablished
import ProxiPort.Clients.Credentials
import ProxiPort.Clients.Connected
import ProxiPort.Clients.Superseded
import ProxiPort.Vault.Rekey
import ProxiPort.AuditLog.Retention
import ProxiPort.AuditLog.Verification
import ProxiPort.Tunnels.Dialing
import ProxiPort.Uploads.Collisions
import ProxiPort.Jobs.Sequential
import ProxiPort.Jobs.Overlap
import ProxiPort.Jobs.LiveOutput
import ProxiPort.Jobs.Output
import ProxiPort.Jobs.Cleanup
import ProxiPort.Ports.Release
import ProxiPort.Schedules.Agreement
import ProxiPort.Tunnels.Terminate
import ProxiPort.Clients.Obsolete
import ProxiPort.Clients.Access
import ProxiPort.Clients.Decode
import ProxiPort.Query.Independence
import ProxiPort.Session.Mirror
import ProxiPort.Tunnels.Acl
import ProxiPort.Tunnels.Leftovers
import ProxiPort.Query.Equivalence
import ProxiPort.Security.Banned
import ProxiPort.Security.RemoteIP
import ProxiPort.Session.Tickets
import ProxiPort.Monitoring.Queue
import ProxiPort.Monitoring.Retention
import ProxiPort.Query.Pages
import ProxiPort.Transports.Sweep
import ProxiPort.Transports.WebSocket
import ProxiPort.Requests.Durations
import ProxiPort.Notifications.Repository
import ProxiPort.Jobs.LimitedWriter
import ProxiPort.Clients.Sorting
import ProxiPort.Monitoring.Partitions
import ProxiPort.Uploads.Subtree
import ProxiPort.Uploads.Containment
