import PriorityGateway.Coordination.Agreement.ForeignRenewal
import PriorityGateway.Coordination.Circuit.FastPaths
import PriorityGateway.Coordination.Circuit.Agreement
import PriorityGateway.Coordination.Circuit.FailureWindow
import PriorityGateway.Coordination.Circuit.Reconciliation
import PriorityGateway.Coordination.ClockSteps
import PriorityGateway.Monitor.Inflight
import PriorityGateway.Coordination.Postgres.Replicas
import PriorityGateway.Coordination.Circuit.PostgresCleanup
import PriorityGateway.Coordination.Leases.Shutdown
import PriorityGateway.Coordination.Leases.ExactlyOnce
import PriorityGateway.Registry.BackendDeletion
import PriorityGateway.Registry.RevisionGuard
import PriorityGateway.Gateway.SessionHeaders
import PriorityGateway.Proxy.RetrySafety
import PriorityGateway.Pressure.Escalation
import PriorityGateway.Gateway.AdmissionFence
import PriorityGateway.Gateway.RevocationFence
import PriorityGateway.Analytics.Reservations
import PriorityGateway.Monitor.ProbeRenewal
import PriorityGateway.Monitor.Health
import PriorityGateway.Coordination.Emergency
