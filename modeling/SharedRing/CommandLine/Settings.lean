import SharedRing.CommandLine.Parser
import SharedRing.Video.Settings

/-!
The settings that a command line asks for.
-/

namespace SharedRing.Video

open CommandLine

def Geometry.ofValues (vs : Values) : Geometry where
  width := (vs.count? .width).getD fullHd.width
  height := (vs.count? .height).getD fullHd.height

def ProducerSettings.ofValues (vs : Values) : ProducerSettings where
  name := vs.text .name standard.name
  geometry := .ofValues vs
  rate := vs.rate .frameRate standard.rate
  bufferedFrames := (vs.count? .bufferedFrames).getD standard.bufferedFrames
  maxFrames := vs.count? .maxFrames

def ConsumerSettings.ofValues (vs : Values) : ConsumerSettings where
  name := vs.text .name standard.name
  geometry := .ofValues vs
  maxFrames := vs.count? .maxFrames
  pollInterval := (vs.count? .pollInterval).getD standard.pollInterval

def ProducerSettings.parse (argv : List String) (env : Variables) :
    Except Refusal ProducerSettings :=
  (CommandLine.parse Key.ofProducer argv env).map ofValues

def ConsumerSettings.parse (argv : List String) (env : Variables) :
    Except Refusal ConsumerSettings :=
  (CommandLine.parse Key.ofConsumer argv env).map ofValues

end SharedRing.Video
