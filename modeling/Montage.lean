import Montage.Duration.Grammar
import Montage.Main
import Montage.Proofs.Color
import Montage.Proofs.Command.Cut
import Montage.Proofs.Command.Tempo
import Montage.Proofs.Command.Wiring
import Montage.Proofs.Division.Command
import Montage.Proofs.Duration.Outcome
import Montage.Proofs.Duration.Printing
import Montage.Proofs.Duration.Substitution
import Montage.Proofs.Geometry.Locality
import Montage.Proofs.Media.Cache.Loss
import Montage.Proofs.Media.FanOut.Order
import Montage.Proofs.Number.Compact
import Montage.Proofs.PathVariable
import Montage.Proofs.Render.Coalescer.Failure
import Montage.Proofs.Render.Passes
import Montage.Proofs.Render.TextAsset.Files
import Montage.Proofs.Render.TextAsset.Width
import Montage.Proofs.Render.Watch.Changes
import Montage.Proofs.Template.Spelling
import Montage.Proofs.Text.ShellWord
import Montage.Proofs.TextImage.Patch
import Montage.Proofs.Timeline.AllFit
import Montage.Proofs.Timeline.Attained
import Montage.Proofs.Timeline.Default
import Montage.Proofs.Timeline.Filling
import Montage.Proofs.Timeline.FitEnds
import Montage.Proofs.Timeline.Order
import Montage.Proofs.Timeline.Padding
import Montage.Proofs.Timeline.Progress
import Montage.Proofs.Timeline.StopAtOutput
import Montage.Proofs.Zoompan.Carry
import Montage.Proofs.Zoompan.Containment
import Montage.Proofs.Zoompan.PanExpression
import Montage.Proofs.Zoompan.Speed
