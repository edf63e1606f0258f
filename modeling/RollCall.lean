import RollCall.Bucket.Connection
import RollCall.Bucket.Script
import RollCall.Clock
import RollCall.Credentials.Source
import RollCall.Logging.Session
import RollCall.Proofs.Announcer.Acceptance
import RollCall.Proofs.Announcer.Bookkeeping
import RollCall.Proofs.Announcer.Commuting
import RollCall.Proofs.Announcer.Stranding
import RollCall.Proofs.Bucket.Refinement
import RollCall.Proofs.Credentials.Sources
import RollCall.Proofs.Logging.History
import RollCall.Proofs.Logging.Noise
import RollCall.Proofs.Member.Identity
import RollCall.Proofs.Member.Refusal
import RollCall.Proofs.Member.Teardown
import RollCall.Proofs.Neighborhood.Membership
import RollCall.Proofs.PeerQuery.Aging
import RollCall.Proofs.PeerQuery.Isolation
import RollCall.Proofs.PeerQuery.Overtaking
import RollCall.Proofs.PeerQuery.Removal
import RollCall.Proofs.PeerQuery.Specification
import RollCall.Proofs.PeerQuery.Unlisted
import RollCall.Proofs.Presence.Diagnosis
import RollCall.Proofs.Presence.Extent
import RollCall.Proofs.Roster.Distinct
import RollCall.Proofs.Settings.Consistent
import RollCall.Proofs.Settings.Loading
import RollCall.Proofs.Settings.Rendering
import RollCall.Proofs.Settings.Secrecy
import RollCall.Proofs.Store.History
import RollCall.Scenario.Run
import RollCall.Settings.File
