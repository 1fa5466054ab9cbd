import PgNats.RingQueue.Runs
import PgNats.RingQueue.Contract
import PgNats.RingQueue.Guard
import PgNats.NatsClient.Handles
import PgNats.NatsClient.Headers
import PgNats.Subscriber.Silent
import PgNats.Subscriber.Agreement
import PgNats.Subscriber.Cleanup
import PgNats.Subscriber.RoleChange
import PgNats.Subscriber.Argument
import PgNats.Tls
import PgNats.Launcher.Accounting
import PgNats.Launcher.Isolation
import PgNats.System.Deadlock
import PgNats.System.Reports
import PgNats.System.Requests
import PgNats.System.Running
import PgNats.System.Configuration
import PgNats.System.Exits
import PgNats.Subscriber.Handlers
import PgNats.Subscriber.Reconfigure
import PgNats.Subscriber.Failures
import PgNats.Subscriber.Missing
import PgNats.Subscriber.Transactions
import PgNats.NatsClient.Link
import PgNats.Lib.ReadCommitted
import PgNats.Fdw
import PgNats.Options
import PgNats.Launcher.ExactlyOnce
import PgNats.Launcher.Termination
import PgNats.System.Delivery
import PgNats.System.Workers
import PgNats.Subscriber.Calls
import PgNats.NatsClient.Values
import PgNats.System.Provenance
import PgNats.NatsClient.Connections
import PgNats.System.Refinement
import PgNats.System.Waits
