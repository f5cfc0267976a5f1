import Oscilloscope.Main
import Oscilloscope.Proofs.Acquisition.Described
import Oscilloscope.Proofs.Acquisition.Following
import Oscilloscope.Proofs.Acquisition.History
import Oscilloscope.Proofs.Acquisition.Report
import Oscilloscope.Proofs.Acquisition.Tally
import Oscilloscope.Proofs.CommandLine.Access
import Oscilloscope.Proofs.CommandLine.Buffering
import Oscilloscope.Proofs.CommandLine.FrameLimit
import Oscilloscope.Proofs.Layout.Blocks
import Oscilloscope.Proofs.Layout.Cells
import Oscilloscope.Proofs.Outcome
import Oscilloscope.Proofs.Ratio.Euclid
import Oscilloscope.Proofs.Ratio.Reduction
import Oscilloscope.Proofs.Ratio.Value
import Oscilloscope.Proofs.Scope.Acquisitions
import Oscilloscope.Proofs.Scope.Answers
import Oscilloscope.Proofs.Scope.Capabilities
import Oscilloscope.Proofs.Scope.Choices
import Oscilloscope.Proofs.Scope.Commuting
import Oscilloscope.Proofs.Scope.Composition
import Oscilloscope.Proofs.Scope.Counters
import Oscilloscope.Proofs.Scope.Following
import Oscilloscope.Proofs.Scope.HeldRegisters
import Oscilloscope.Proofs.Scope.LimitStops
import Oscilloscope.Proofs.Scope.Polling
import Oscilloscope.Proofs.Scope.Publication
import Oscilloscope.Proofs.Scope.RegisterWrites
import Oscilloscope.Proofs.Scope.Rounds
import Oscilloscope.Proofs.Scope.Segmentation
import Oscilloscope.Proofs.Scope.Session
import Oscilloscope.Proofs.Scope.Setting
import Oscilloscope.Proofs.Scope.Step
import Oscilloscope.Proofs.Scope.Streaming
import Oscilloscope.Proofs.Scope.Talk
import Oscilloscope.Proofs.Scope.Tellings
import Oscilloscope.Proofs.Scope.Transitions
import Oscilloscope.Proofs.Scope.Undisturbed
import Oscilloscope.Proofs.Scope.UsableDepth
import Oscilloscope.Proofs.Setting.Apply
import Oscilloscope.Proofs.Setting.Describe
import Oscilloscope.Proofs.Setting.Edit
import Oscilloscope.Proofs.Setting.Fitting
import Oscilloscope.Proofs.Setting.GetPut
import Oscilloscope.Proofs.Setting.Grammar
import Oscilloscope.Proofs.Setting.Menu
import Oscilloscope.Proofs.Setting.Offer
import Oscilloscope.Proofs.Setting.OwnBytes
import Oscilloscope.Proofs.Setting.PutGet
import Oscilloscope.Proofs.Setting.Text
import Oscilloscope.Proofs.Setting.UsableDepth
import Oscilloscope.Proofs.Wire.Faithful
import Oscilloscope.Proofs.Wire.Format
import Oscilloscope.Proofs.Wire.PanelLock
import Oscilloscope.Proofs.Wire.Receiving
import Oscilloscope.Proofs.Wire.Rehearsed
import Oscilloscope.Proofs.Wire.Request
import Oscilloscope.Proofs.Wire.Submission
import Oscilloscope.Proofs.Wire.Transcript
import Oscilloscope.Scope.Call
