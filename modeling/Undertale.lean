import Undertale.Clocked.Run
import Undertale.Clocked.Counter
import Undertale.Clocked.Axis
import Undertale.Clocked.Schedule
import Undertale.Clocked.Sampler
import Undertale.Clocked.Events
import Undertale.Clocked.I2c
import Undertale.Words.Memory
import Undertale.Programs.Blocks
import Undertale.State
import Undertale.Mover
import Undertale.Heart
import Undertale.Scroll
import Undertale.Frisk
import Undertale.Vga
import Undertale.Raster
import Undertale.Flower
import Undertale.Bullets
import Undertale.Game
import Undertale.Core
import Undertale.Arena
import Undertale.Entry
import Undertale.Reachable
import Undertale.BattleOutcome
import Undertale.BattleHp
import Undertale.CleanStart
import Undertale.HeartBox
import Undertale.FriskSteps
import Undertale.DoorTrigger
import Undertale.DoorGlue
import Undertale.IntroTimeline
import Undertale.BulletFrames
import Undertale.BulletLanes
import Undertale.Battle
import Undertale.BattleHits
import Undertale.BattleFrames
import Undertale.HitsCount
import Undertale.SafeSpots
import Undertale.FrameCoherence
import Undertale.ResetForgets
import Undertale.Player
import Undertale.Fight
import Undertale.Winning
import Undertale.Walk
import Undertale.Speedrun
import Undertale.Fonts
import Undertale.Layers
import Undertale.Mapper
import Undertale.SceneIsolation
import Undertale.Addresses
import Undertale.Hpi
import Undertale.HpiWrite
import Undertale.HpiBus
import Undertale.UsbMessage
import Undertale.Audio
import Undertale.AudioInterface
import Undertale.CodecSetup
import Undertale.Playback
import Undertale.Transfers
import Undertale.Driver
import Undertale.DriverOrder
import Undertale.DriverMemory
import Undertale.DriverProgress
