import GameServer.Main
import GameServer.Server.Network
import GameServer.Proofs.Wire.RoundTrip
import GameServer.Proofs.Wire.Chunking
import GameServer.Proofs.Text.Reader
import GameServer.Proofs.Text.Reading
import GameServer.Proofs.Wire.Framing
import GameServer.Proofs.Wire.Acceptance
import GameServer.Proofs.Outbox.Capacity
import GameServer.Proofs.Outbox.Delivery
import GameServer.Proofs.Outbox.Settlement
import GameServer.Proofs.Session.Beat
import GameServer.Proofs.Session.Operations
import GameServer.Proofs.Session.Run
import GameServer.Proofs.Session.Registration
import GameServer.Proofs.World.Roster
import GameServer.Proofs.Session.Guise
import GameServer.Proofs.Session.Past
import GameServer.Proofs.Session.Turn
import GameServer.Proofs.Session.Tenure
import GameServer.Proofs.Session.Teardown
import GameServer.Proofs.Session.Sending
import GameServer.Proofs.Session.Intake
import GameServer.Proofs.Session.Bulletin
import GameServer.Proofs.Session.LateLogin
import GameServer.Proofs.Session.Keepalive
import GameServer.Proofs.Session.Refusal
import GameServer.Proofs.Session.Dialogue
import GameServer.Proofs.Session.Line
import GameServer.Proofs.Session.Course
import GameServer.Proofs.Session.Itinerary
import GameServer.Proofs.Session.Silence
import GameServer.Proofs.Session.Batches
import GameServer.Proofs.Session.Outstanding
import GameServer.Proofs.Session.Placements
import GameServer.Proofs.Session.Grace
import GameServer.Proofs.Session.Likeness
import GameServer.Proofs.Session.Company
import GameServer.Proofs.Session.Realization
import GameServer.Proofs.Server.Ledger
import GameServer.Proofs.Server.Books
import GameServer.Proofs.Server.Alike
import GameServer.Proofs.Server.Shift
import GameServer.Proofs.Server.Upkeep
import GameServer.Proofs.Server.Census
import GameServer.Proofs.Server.Story
import GameServer.Proofs.Server.Announcement
import GameServer.Proofs.Server.View
import GameServer.Proofs.Server.Housing
import GameServer.Proofs.Server.Correspondence
import GameServer.Proofs.Server.Endurance
import GameServer.Proofs.Server.Eviction
import GameServer.Proofs.Server.Shutdown
import GameServer.Proofs.Server.Mailbox
import GameServer.Proofs.Server.Channel
import GameServer.Proofs.Server.Reader
import GameServer.Proofs.Server.Passage
import GameServer.Proofs.Server.Delivery
import GameServer.Proofs.Server.Rotation
