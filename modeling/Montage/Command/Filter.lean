import Montage.Color
import Montage.Command.PanExpression
import Montage.Command.Tempo

/-!
# Filters

A filter of the encoder is its name and its arguments.  Each kind of filter that a
command uses is one constructor with the numbers that vary, which are real;
`Filter.text` writes it as the encoder reads it.
-/

namespace Montage

variable {α : Type} [Scalar α]

/-- A filter of the encoder. -/
inductive Filter (α : Type) where
  /-- A picture of one colour, as long as the output or without end. -/
  | canvas (color : Color) (size : Extent) (duration : Option α)
  /-- Lets the timestamps of pictures begin at zero. -/
  | restart
  /-- Stretches the timestamps of pictures and moves them to a start. -/
  | retime (factor : α) (startAt : α)
  /-- Converts the rate of frames, smoothly or not. -/
  | framerate (fps : α) (smooth : Bool)
  /-- Adds transparency. -/
  | transparency
  | scale (size : Extent)
  | rotate (rotation : Rotation α)
  /-- Cuts a window out of a picture. -/
  | crop (size : Extent) (x y : PanExpression α)
  | fadeIn (startAt duration : α)
  | fadeOut (startAt duration : α)
  /-- Lays a picture on another one. -/
  | overlay (x y : Int)
  /-- Lets the timestamps of sound begin at zero. -/
  | restartSound
  | volume (factor : α)
  | tempo (factor : α)
  | fadeSoundIn (duration : α)
  | fadeSoundOut (startAt duration : α)
  /-- Puts silence in front, in milliseconds. -/
  | delay (milliseconds : Int)
  /-- Mixes sounds. -/
  | mix (inputs : Nat)

namespace Filter

/-- The name of a filter. -/
def name : Filter α → String
  | canvas _ _ _ => "color"
  | restart | retime _ _ => "setpts"
  | framerate _ smooth => if smooth then "minterpolate" else "fps"
  | transparency => "format"
  | scale _ => "scale"
  | rotate _ => "rotate"
  | crop _ _ _ => "crop"
  | fadeIn _ _ | fadeOut _ _ => "fade"
  | overlay _ _ => "overlay"
  | restartSound => "asetpts"
  | volume _ => "volume"
  | tempo _ => Tempo.filterName
  | fadeSoundIn _ | fadeSoundOut _ _ => "afade"
  | delay _ => "adelay"
  | mix _ => "amix"

/-- The arguments of a filter. -/
def arguments : Filter α → String
  | canvas color size duration =>
      let picture := s!"c={color.filterText}:s={size.width}x{size.height}"
      match duration with
      | some duration => s!"{picture}:d={Scalar.compact duration}"
      | none => picture
  | restart | restartSound => "PTS-STARTPTS"
  | retime factor startAt =>
      let stretched := s!"{Scalar.compact factor}*PTS-STARTPTS"
      if Scalar.isSet startAt then s!"{stretched}+{Scalar.compact startAt}/TB" else stretched
  | framerate fps smooth =>
      if smooth then s!"fps={Scalar.compact fps}:mi_mode=mci:mc_mode=aobmc:me_mode=bidir:vsbmc=1"
      else Scalar.compact fps
  | transparency => "yuva420p"
  | scale size => s!"{size.width}:{size.height}"
  | rotate rotation =>
      s!"{Scalar.compact rotation.degrees}*PI/180:fillcolor=black@0" ++
        s!":out_w={rotation.bounds.width}:out_h={rotation.bounds.height}"
  | crop size x y => s!"w={size.width}:h={size.height}:x='{x.text}':y='{y.text}'"
  | fadeIn startAt duration =>
      s!"t=in:st={Scalar.compact startAt}:d={Scalar.compact duration}:alpha=1"
  | fadeOut startAt duration =>
      s!"t=out:st={Scalar.compact startAt}:d={Scalar.compact duration}:alpha=1"
  | overlay x y => s!"x={x}:y={y}:eof_action=pass"
  | volume factor => Scalar.compact factor
  | tempo factor => Scalar.compact factor
  | fadeSoundIn duration => s!"t=in:st=0:d={Scalar.compact duration}"
  | fadeSoundOut startAt duration =>
      s!"t=out:st={Scalar.compact startAt}:d={Scalar.compact duration}"
  | delay milliseconds => s!"{milliseconds}:all=1"
  | mix inputs => s!"inputs={inputs}:duration=longest"

/-- The text of a filter. -/
def text (filter : Filter α) : String :=
  filter.name ++ "=" ++ filter.arguments

end Filter

end Montage
