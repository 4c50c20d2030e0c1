import HostAccess.Access
import HostAccess.Action
import HostAccess.Assignment
import HostAccess.Calendar
import HostAccess.Configuration
import HostAccess.Directory.DemoDays
import HostAccess.Directory.Grants
import HostAccess.Directory.Members
import HostAccess.Error
import HostAccess.Event
import HostAccess.Host
import HostAccess.Http.MediaType
import HostAccess.Http.Message
import HostAccess.Http.Query
import HostAccess.Http.Router
import HostAccess.Http.Target
import HostAccess.Instant
import HostAccess.Json.Decode
import HostAccess.Json.Draft
import HostAccess.Json.Token
import HostAccess.Json.Value
import HostAccess.Model
import HostAccess.Operation
import HostAccess.OrderedSet
import HostAccess.Proofs.AccessDecisions
import HostAccess.Proofs.Accounts
import HostAccess.Proofs.Actions
import HostAccess.Proofs.AlikeOutcomes
import HostAccess.Proofs.Catalogue
import HostAccess.Proofs.Causes
import HostAccess.Proofs.CheckAgreement
import HostAccess.Proofs.Commits
import HostAccess.Proofs.Creations
import HostAccess.Proofs.DayAddresses
import HostAccess.Proofs.DayHosts
import HostAccess.Proofs.DayWrites
import HostAccess.Proofs.Documents
import HostAccess.Proofs.Frames
import HostAccess.Proofs.HostListings
import HostAccess.Proofs.HostNames
import HostAccess.Proofs.HostOrigins
import HostAccess.Proofs.Instants
import HostAccess.Proofs.Integrity
import HostAccess.Proofs.Interruptions
import HostAccess.Proofs.JointGrants
import HostAccess.Proofs.Lifecycle
import HostAccess.Proofs.Listing
import HostAccess.Proofs.MemberPages
import HostAccess.Proofs.Migrated
import HostAccess.Proofs.MigrationRuns
import HostAccess.Proofs.Noninterference
import HostAccess.Proofs.Outcomes
import HostAccess.Proofs.Plans
import HostAccess.Proofs.Profiles
import HostAccess.Proofs.ReadPaths
import HostAccess.Proofs.Readability
import HostAccess.Proofs.Readings
import HostAccess.Proofs.Replacements
import HostAccess.Proofs.Requests
import HostAccess.Proofs.Roster
import HostAccess.Proofs.Screening
import HostAccess.Proofs.Tables
import HostAccess.Proofs.Trails
import HostAccess.Proofs.Views
import HostAccess.Proofs.WireForms
import HostAccess.Proofs.Writes
import HostAccess.Role
import HostAccess.Scope
import HostAccess.Settings
import HostAccess.Status
import HostAccess.Store.Basic
import HostAccess.Store.Maintenance
import HostAccess.Store.Migration
import HostAccess.Store.Schema
import HostAccess.Store.Snapshot
import HostAccess.Store.Table
import HostAccess.Text.Blank
import HostAccess.Text.Decimal
import HostAccess.Text.Graphic
import HostAccess.Text.Hex
import HostAccess.Text.Percent
import HostAccess.Text.Quoted
import HostAccess.Text.Split
import HostAccess.Text.Utf8
import HostAccess.Uuid
import HostAccess.Wire
