import AxisMixer.Channel.Bench
import AxisMixer.Engine.Bench
import AxisMixer.Main
import AxisMixer.Proofs.Engine.Outcome
import AxisMixer.Proofs.Engine.Rig
import AxisMixer.Proofs.Graph.Connections
import AxisMixer.Proofs.Engine.Serving
import AxisMixer.Proofs.Engine.Settling
import AxisMixer.Proofs.Expr.Climbing
import AxisMixer.Proofs.Expr.Printing
import AxisMixer.Proofs.Graph.Representation
import AxisMixer.Proofs.Device.Updates
import AxisMixer.Proofs.Engine.Independence
import AxisMixer.Proofs.Channel.Delivery
import AxisMixer.Proofs.Engine.Statistics
import AxisMixer.Proofs.Config.Acceptance
import AxisMixer.Proofs.Session.Failures
import AxisMixer.Proofs.Engine.Interleaving
import AxisMixer.Proofs.Config.Loading
import AxisMixer.Proofs.Session.Release
import AxisMixer.Proofs.Channel.Listening
import AxisMixer.Proofs.Config.Naming
import AxisMixer.Proofs.Expr.Denotation
import AxisMixer.Proofs.Session.Listening
import AxisMixer.Proofs.Engine.FailFast
import AxisMixer.Proofs.Graph.Rejection
import AxisMixer.Proofs.Expr.Overlong
import AxisMixer.Proofs.Session.Locating
import AxisMixer.Proofs.Expr.Tiling
import AxisMixer.Proofs.Expr.Spacing
import AxisMixer.Proofs.Expr.Composing
import AxisMixer.Proofs.Expr.Pointing
import AxisMixer.Proofs.Config.Placing
import AxisMixer.Proofs.Device.Finality
import AxisMixer.Proofs.Graph.Merging
import AxisMixer.Proofs.Expr.Cursor
