import MaintenanceOutbox.Config.Environment
import MaintenanceOutbox.Config.LogFormat
import MaintenanceOutbox.Config.Record
import MaintenanceOutbox.Database.ClosedPool
import MaintenanceOutbox.Json.Text
import MaintenanceOutbox.Simulation.Scene
import MaintenanceOutbox.Proofs.InPlace
import MaintenanceOutbox.Proofs.Store.Requests
import MaintenanceOutbox.Proofs.Store.Runs
import MaintenanceOutbox.Proofs.Store.Locks
import MaintenanceOutbox.Proofs.Store.Everywhere
import MaintenanceOutbox.Proofs.Store.Ownership
import MaintenanceOutbox.Proofs.Store.Origins
import MaintenanceOutbox.Proofs.Store.Exclusion
import MaintenanceOutbox.Proofs.Store.Duplicates
import MaintenanceOutbox.Proofs.Store.Ledger
import MaintenanceOutbox.Proofs.Store.Conservation
import MaintenanceOutbox.Proofs.Store.Budget
import MaintenanceOutbox.Proofs.Store.Counts
import MaintenanceOutbox.Proofs.Store.Session
import MaintenanceOutbox.Proofs.Store.Additions
import MaintenanceOutbox.Proofs.Store.Finality
import MaintenanceOutbox.Proofs.Delivery.Fleet
import MaintenanceOutbox.Proofs.Delivery.Courses
import MaintenanceOutbox.Proofs.Delivery.Crew
import MaintenanceOutbox.Proofs.Delivery.Turns
import MaintenanceOutbox.Proofs.Delivery.Deeds
import MaintenanceOutbox.Proofs.Delivery.Steps
import MaintenanceOutbox.Proofs.Delivery.Journal
import MaintenanceOutbox.Proofs.Delivery.Tally
import MaintenanceOutbox.Proofs.Delivery.AtMostOnce
import MaintenanceOutbox.Proofs.Pipeline.Moments
import MaintenanceOutbox.Proofs.Pipeline.Rounds
import MaintenanceOutbox.Proofs.Pipeline.Recording
import MaintenanceOutbox.Proofs.Pipeline.Atomicity
import MaintenanceOutbox.Proofs.Store.Fidelity
import MaintenanceOutbox.Proofs.Delivery.Clocked
import MaintenanceOutbox.Proofs.Delivery.Alone
import MaintenanceOutbox.Proofs.Store.Remaining
import MaintenanceOutbox.Proofs.Delivery.Draining
import MaintenanceOutbox.Proofs.Delivery.Accounting
import MaintenanceOutbox.Proofs.Payload.Events
import MaintenanceOutbox.Proofs.Delivery.Posting
import MaintenanceOutbox.Proofs.Delivery.EndToEnd
import MaintenanceOutbox.Proofs.Routing.Registration
import MaintenanceOutbox.Proofs.Routing.Decoding
import MaintenanceOutbox.Proofs.Store.Attempt
import MaintenanceOutbox.Proofs.Delivery.HandOver
import MaintenanceOutbox.Proofs.Delivery.Effect
import MaintenanceOutbox.Proofs.Delivery.Connectivity
import MaintenanceOutbox.Proofs.Delivery.Custody
import MaintenanceOutbox.Proofs.Delivery.Running
import MaintenanceOutbox.Proofs.Delivery.Stopping
import MaintenanceOutbox.Proofs.Store.Order
import MaintenanceOutbox.Proofs.Store.Claims
import MaintenanceOutbox.Proofs.Store.Savepoints
import MaintenanceOutbox.Proofs.Store.Commuting
import MaintenanceOutbox.Proofs.Store.InPlace
import MaintenanceOutbox.Proofs.Store.Refusals
import MaintenanceOutbox.Proofs.Store.Ageing
import MaintenanceOutbox.Proofs.Delivery.Sequence
import MaintenanceOutbox.Proofs.Delivery.Batching
import MaintenanceOutbox.Proofs.Pipeline.Limits
import MaintenanceOutbox.Proofs.Store.Revival
import MaintenanceOutbox.Proofs.Maintenance.Aggregates
import MaintenanceOutbox.Proofs.Maintenance.WorkOrders
import MaintenanceOutbox.Proofs.Maintenance.Services
import MaintenanceOutbox.Proofs.Maintenance.Raising
import MaintenanceOutbox.Proofs.Delivery.Granted
import MaintenanceOutbox.Proofs.Delivery.States
import MaintenanceOutbox.Proofs.Store.Listing
import MaintenanceOutbox.Proofs.Store.Purging
import MaintenanceOutbox.Proofs.Delivery.Loops
import MaintenanceOutbox.Proofs.Delivery.Groups
import MaintenanceOutbox.Proofs.Delivery.Slots
import MaintenanceOutbox.Proofs.Identity.Spellings
import MaintenanceOutbox.Proofs.Config.Environment
import MaintenanceOutbox.Proofs.Payload.Objects
import MaintenanceOutbox.Proofs.Number.Rounding
import MaintenanceOutbox.Proofs.Number.Shortest
import MaintenanceOutbox.Proofs.Payload.NumberTexts
import MaintenanceOutbox.Proofs.Payload.JsonTexts
import MaintenanceOutbox.Proofs.Payload.Records
import MaintenanceOutbox.Proofs.Config.Agreement
import MaintenanceOutbox.Proofs.Message.Truncation
