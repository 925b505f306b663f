import Courier.Notification.Inbox
import Courier.Settings
import Courier.Simulation.Broker
import Courier.Simulation.Run
import Courier.Proofs.Transcript
import Courier.Proofs.Invariance
import Courier.Proofs.Fairness
import Courier.Proofs.Table
import Courier.Proofs.Outbox.Stage
import Courier.Proofs.Outbox.Store
import Courier.Proofs.Outbox.Custody
import Courier.Proofs.Outbox.Ledger
import Courier.Proofs.Outbox.Ceiling
import Courier.Proofs.Outbox.History
import Courier.Proofs.Outbox.Batch
import Courier.Proofs.Outbox.Tick
import Courier.Proofs.Outbox.Report
import Courier.Proofs.Outbox.Shift
import Courier.Proofs.Outbox.Order
import Courier.Proofs.Outbox.Bench
import Courier.Proofs.Outbox.Drain
import Courier.Proofs.Supervision
import Courier.Proofs.Simulation.Watch
import Courier.Proofs.Text.Digits
import Courier.Proofs.Time.TimeOfDay
import Courier.Proofs.Time.Calendar
import Courier.Proofs.Time.Instant
import Courier.Proofs.Time.Microseconds
import Courier.Proofs.Json.Quote
import Courier.Proofs.Json.Record
import Courier.Proofs.Json.Number
import Courier.Proofs.Json.Codec
import Courier.Proofs.Json.Documents
import Courier.Proofs.Sql.Value
import Courier.Proofs.Sql.Session
import Courier.Proofs.Sql.Records
import Courier.Proofs.Bus.Memory
import Courier.Proofs.Bus.Pattern
import Courier.Proofs.Bus.Topic
import Courier.Proofs.Bus.Registry
import Courier.Proofs.Bus.Audience
import Courier.Proofs.Simulation.Closed
import Courier.Proofs.Simulation.Life
import Courier.Proofs.Consumer.Block
import Courier.Proofs.Consumer.Duty
import Courier.Proofs.Consumer.Share
import Courier.Proofs.Consumer.Task
import Courier.Proofs.Outbox.Task
import Courier.Proofs.Notification.Occurrence
import Courier.Proofs.Notification.Desk
import Courier.Proofs.Notification.Agreement
import Courier.Proofs.Notification.Bureau
import Courier.Proofs.Notification.Conduct
import Courier.Proofs.Notification.Indifference
import Courier.Proofs.Notification.Records
import Courier.Proofs.Simulation.Healthy
import Courier.Proofs.Pipeline.Invariant
import Courier.Proofs.Pipeline.Settle
import Courier.Proofs.Pipeline.Complete
import Courier.Proofs.Amqp.Construction
import Courier.Proofs.Amqp.Carriage
import Courier.Proofs.Amqp.Closing
import Courier.Proofs.Notification.Gist
import Courier.Proofs.Notification.Contact
import Courier.Proofs.Notification.Redelivery
import Courier.Proofs.Notification.Devices
import Courier.Proofs.Notification.Course
import Courier.Proofs.Notification.Push
import Courier.Proofs.Notification.Leniency
import Courier.Proofs.Notification.Welcome
import Courier.Proofs.Outbox.Fetch
import Courier.Proofs.Sql.Transaction
import Courier.Proofs.Sql.Rows
import Courier.Proofs.Notification.Paging
import Courier.Proofs.Json.Truncation
import Courier.Proofs.Notification.Malformed
import Courier.Proofs.Notification.Reading
import Courier.Proofs.Notification.Registration
import Courier.Proofs.Json.Grammar
import Courier.Proofs.Json.Spacing
import Courier.Proofs.Json.Steady
import Courier.Proofs.Json.Layout
import Courier.Proofs.Json.Arrangement
import Courier.Proofs.Json.Leeway
import Courier.Proofs.Notification.Quiet
import Courier.Proofs.Outbox.Collection
import Courier.Proofs.Outbox.Pace
import Courier.Proofs.Settings
import Courier.Proofs.Topics
