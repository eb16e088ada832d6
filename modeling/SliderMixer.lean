import SliderMixer.Audio
import SliderMixer.Audio.Memory
import SliderMixer.Binary32
import SliderMixer.Binary32.Decimal
import SliderMixer.Channel.Mailbox
import SliderMixer.Channel.Watched
import SliderMixer.CommandLine
import SliderMixer.Decoder
import SliderMixer.Directory
import SliderMixer.Engine
import SliderMixer.FileTree
import SliderMixer.Flows
import SliderMixer.Focus
import SliderMixer.Frame
import SliderMixer.Link
import SliderMixer.Link.Board
import SliderMixer.Link.LineReader
import SliderMixer.Link.LineSplitter
import SliderMixer.LogFilter
import SliderMixer.LogFilter.Pattern
import SliderMixer.LogFilter.Pattern.Class
import SliderMixer.LogFilter.Pattern.Escape
import SliderMixer.LogFilter.Pattern.Group
import SliderMixer.LogFilter.Pattern.Options
import SliderMixer.Main
import SliderMixer.Mapping
import SliderMixer.Noise
import SliderMixer.Proofs.Accounting
import SliderMixer.Proofs.Audited
import SliderMixer.Proofs.Bringing
import SliderMixer.Proofs.Callers
import SliderMixer.Proofs.Convergence
import SliderMixer.Proofs.Copies
import SliderMixer.Proofs.Distance
import SliderMixer.Proofs.FlatDirectory
import SliderMixer.Proofs.GivenBack
import SliderMixer.Proofs.HandleBalance
import SliderMixer.Proofs.LetterCase
import SliderMixer.Proofs.MemoryHandles
import SliderMixer.Proofs.Moves
import SliderMixer.Proofs.OnePass
import SliderMixer.Proofs.Overtaken
import SliderMixer.Proofs.Partition
import SliderMixer.Proofs.Reach
import SliderMixer.Proofs.ReportOrder
import SliderMixer.Proofs.Reports
import SliderMixer.Proofs.Run
import SliderMixer.Proofs.Sections
import SliderMixer.Proofs.Sliders
import SliderMixer.Proofs.Turns
import SliderMixer.RefreshSignal
import SliderMixer.Routing
import SliderMixer.Routing.Pass
import SliderMixer.Schedule
import SliderMixer.Session
import SliderMixer.Settings
import SliderMixer.Settings.File
import SliderMixer.Settings.Reload
import SliderMixer.Startup
import SliderMixer.Target
import SliderMixer.Text.Blank
import SliderMixer.Text.CodePoint
import SliderMixer.Text.CodePoint.Alphanumeric
import SliderMixer.Text.CodePoint.Case
import SliderMixer.Text.CodePoint.Printable
import SliderMixer.Text.Lowercase
import SliderMixer.Text.Quoted
import SliderMixer.Text.Utf8
import SliderMixer.Toml.Document
import SliderMixer.Toml.Scalar
import SliderMixer.Toml.Value
import SliderMixer.Tracker
import SliderMixer.Tracker.Call
import SliderMixer.Proofs.LineGrammar
import SliderMixer.Proofs.Decoding
import SliderMixer.Proofs.EventStream
import SliderMixer.Proofs.Readings
import SliderMixer.Proofs.Following
import SliderMixer.Proofs.Pieces
import SliderMixer.Proofs.Intake
import SliderMixer.Proofs.DamagedText
import SliderMixer.Proofs.LinkSteps
import SliderMixer.Proofs.TornLines
import SliderMixer.Proofs.InForce
import SliderMixer.Proofs.OnTheWay
import SliderMixer.Proofs.Reloads
import SliderMixer.Proofs.EngineSteps
import SliderMixer.Proofs.Restarts
import SliderMixer.Proofs.AudioCalls
import SliderMixer.Proofs.Claim
import SliderMixer.Proofs.GivingUp
import SliderMixer.Proofs.Standstill
import SliderMixer.Proofs.Mixture
import SliderMixer.Proofs.ConnectionStates
import SliderMixer.Proofs.Subscribers
import SliderMixer.Proofs.Heeding
import SliderMixer.Proofs.Leaving
import SliderMixer.Proofs.Deliveries
import SliderMixer.Proofs.RefreshRequests
import SliderMixer.Proofs.RefreshGroups
import SliderMixer.Proofs.Repetition
import SliderMixer.Proofs.Columns
import SliderMixer.Proofs.FileChanges
import SliderMixer.Proofs.CountOrder
import SliderMixer.Proofs.Jitter
import SliderMixer.Proofs.LegalVolumes
import SliderMixer.Proofs.Reordering
import SliderMixer.Proofs.Cooldown
import SliderMixer.Proofs.OpeningPace
import SliderMixer.Proofs.ReloadAttempts
import SliderMixer.Proofs.RememberedAnswers
import SliderMixer.Proofs.AppliedVolumes
import SliderMixer.Proofs.KeyOrder
import SliderMixer.Proofs.SliderKeys
import SliderMixer.Proofs.SliderTable
import SliderMixer.Proofs.NoiseLevels
import SliderMixer.Proofs.DeviceKeys
