import MundusVivens.Network.Framing
import MundusVivens.Network.Backpressure
import MundusVivens.Network.Handover
import MundusVivens.Network.Reflection
import MundusVivens.Emotions.Numbering
import MundusVivens.Emotions.Moods
import MundusVivens.Shared.Runs
import MundusVivens.Accounts.Indexes
import MundusVivens.Accounts.Seats
import MundusVivens.Ticks.Liveness
import MundusVivens.Ticks.Pacing
import MundusVivens.Ledger.Simulation
import MundusVivens.Dialogue.Undisturbed
import MundusVivens.Dialogue.Watched
import MundusVivens.Dialogue.Ownership
import MundusVivens.Jobs.SurvivalLock
import MundusVivens.Jobs.Installation
import MundusVivens.Jobs.Completion
import MundusVivens.Jobs.Equipment
import MundusVivens.Walking.Sight
import MundusVivens.Walking.Cells
import MundusVivens.Walking.Routes
import MundusVivens.Walking.SharedScratch
import MundusVivens.Walking.Replanning
import MundusVivens.Walking.SightLines
import MundusVivens.Walking.Footing
import MundusVivens.Walking.Enclosure
import MundusVivens.Walking.Parents
import MundusVivens.Walking.Arrivals
import MundusVivens.Walking.Talkers
import MundusVivens.Furniture.Burials
import MundusVivens.Dialogue.Groups
import MundusVivens.Jobs.Interruptions
import MundusVivens.Furniture.Onsets
import MundusVivens.Furniture.Choices
import MundusVivens.Furniture.Recoveries
import MundusVivens.Walking.Retries
import MundusVivens.Walking.Obstacles
import MundusVivens.Walking.Outcomes
import MundusVivens.Counters.Bounds
import MundusVivens.Dialogue.Restored
import MundusVivens.Jobs.Errands
import MundusVivens.World.Vicinity
import MundusVivens.World.RegionMap
import MundusVivens.World.PlaceNames
import MundusVivens.World.ZoneIds
import MundusVivens.Fighting.Exemptions
import MundusVivens.Fighting.Threats
import MundusVivens.Fighting.Remains
import MundusVivens.Safety.Frames
import MundusVivens.Safety.Logins
import MundusVivens.Safety.Snapshots
import MundusVivens.Safety.Bystanders
import MundusVivens.Network.Sessions
import MundusVivens.Network.Commands
import MundusVivens.Walking.Treks
