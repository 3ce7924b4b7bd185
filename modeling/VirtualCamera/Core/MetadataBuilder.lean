import Mathlib.Data.List.Sort
import VirtualCamera.Core.ProducerCapabilities

set_option autoImplicit false

namespace VirtualCamera

inductive MetadataEntry where
  | controlMode (mode : Nat)
  | controlAeMode (mode : Nat)
  | controlAwbMode (mode : Nat)
  | aeTargetFpsRange (values : List Int)
  | jpegQuality (values : List Nat)
  | jpegOrientation (degrees : Int)
  | zoomRatio (ratio : Nat)
  | sensorTimestamp (timestamp : Int)
  | sensorFrameDuration (duration : Int)
  | producerTimestamp (timestamp : Int)
  | cropRegion (left top width height : Int)
deriving DecidableEq, Repr

-- A non-empty byte vector as `libcamera_metadata` reads it.
structure MetadataBlob where
  structureValid : Bool
  entries : List MetadataEntry
deriving DecidableEq, Repr

-- `none` is the empty byte vector.
abbrev CameraMetadata := Option MetadataBlob

def MetadataBlob.fpsRange (blob : MetadataBlob) : Option (List Int) :=
  blob.entries.findSome? fun
    | .aeTargetFpsRange values => some values
    | _ => none

def MetadataBlob.quality (blob : MetadataBlob) : Option (List Nat) :=
  blob.entries.findSome? fun
    | .jpegQuality values => some values
    | _ => none

def nanosPerSecond : Int := 1000000000

-- The ceiling that the durations table, `paceFrame` and `processSingleRequest` all compute.
def frameDuration (fps : Int) : Int := (nanosPerSecond + fps - 1) / fps

structure StreamDesc where
  format : Int
  width : Int
  height : Int
  useCase : Int
  input : Bool
  rotation : Int
deriving DecidableEq, Repr

structure CameraCharacteristics where
  facing : Int
  orientation : Int
  streamConfigurations : List Output
  minFrameDurations : List (Output × Int)
  stallDurations : List (Output × Int)
  jpegMaxSize : Option Int
  arrayWidth : Int
  arrayHeight : Int
  fpsRanges : Finset (Int × Int)
  maxFrameDuration : Int
  maxRawOutputs : Int
  maxProcessedOutputs : Int
  maxStallingOutputs : Int
deriving DecidableEq

namespace MetadataBuilder

def kJpegMaxSize : Int := 3840 * 2160 * 4 + 65536

def outputLe (a b : Output) : Prop :=
  a.format < b.format ∨ (a.format = b.format ∧
    (a.width < b.width ∨ (a.width = b.width ∧ a.height ≤ b.height)))

instance : DecidableRel outputLe := fun _ _ => inferInstanceAs (Decidable (_ ∨ _))

def declaredOutputs (caps : ProducerCapabilities) : List Output :=
  caps.modes.flatMap fun mode => mode.formats.map fun format =>
    { format, width := mode.width, height := mode.height }

-- The value `std::max` accumulates in `outputs[key]`, whose entry starts at zero.
def declaredRate (caps : ProducerCapabilities) (output : Output) : Int :=
  (caps.modes.filter (·.declares output)).foldl (fun rate mode => max rate mode.maxFps) 0

-- `std::map` keeps one entry for each key and iterates in key order.
def outputs (caps : ProducerCapabilities) : List (Output × Int) :=
  ((declaredOutputs caps).dedup.insertionSort outputLe).map fun output =>
    (output, declaredRate caps output)

def hasJpeg (caps : ProducerCapabilities) : Bool :=
  caps.modes.any fun mode => mode.formats.contains blobFormat

def buildCameraCharacteristics (capabilities : Option ProducerCapabilities) :
    Option CameraCharacteristics :=
  let caps := capabilities.getD ProducerCapabilities.diagnostic
  if !caps.valid then none
  else
    let arrayWidth := caps.modes.foldl (fun width mode => max width mode.width) 0
    let arrayHeight := caps.modes.foldl (fun height mode => max height mode.height) 0
    let maxPixels := caps.modes.foldl (fun pixels mode => max pixels mode.area) 0
    let jpeg := hasJpeg caps
    let minFps := caps.modes.foldl (fun low mode => min low mode.minFps) 120
    some
      { facing := caps.facing
        orientation := caps.orientation
        streamConfigurations := (outputs caps).map (·.1)
        minFrameDurations := (outputs caps).map fun entry => (entry.1, frameDuration entry.2)
        stallDurations := (outputs caps).map fun entry =>
          (entry.1, if entry.1.format = blobFormat then 100000000 else 0)
        jpegMaxSize := if jpeg then some (maxPixels * 4 + 65536) else none
        arrayWidth
        arrayHeight
        fpsRanges := caps.fpsRanges
        maxFrameDuration := nanosPerSecond / minFps
        maxRawOutputs := 0
        maxProcessedOutputs := min 2 caps.maxStreams
        maxStallingOutputs := if jpeg then 1 else 0 }

def isStreamCombinationSupported (streams : List StreamDesc)
    (capabilities : Option ProducerCapabilities) : Bool :=
  let caps := capabilities.getD ProducerCapabilities.diagnostic
  if streams.any fun stream => stream.input || stream.useCase != 0 || stream.rotation != 0 then false
  else
    (caps.selectAny (streams.map fun stream =>
      { format := stream.format, width := stream.width, height := stream.height })).isSome

def buildDefaultRequestSettings (capabilities : Option ProducerCapabilities) : CameraMetadata :=
  let range := (capabilities.map (·.defaultRange)).getD (30, 30)
  let jpeg := (capabilities.map hasJpeg).getD true
  some
    { structureValid := true
      entries := [.controlMode 1, .controlAeMode 1, .controlAwbMode 1,
          .aeTargetFpsRange [range.1, range.2]] ++
        (if jpeg then [.jpegQuality [90], .jpegOrientation 0] else []) ++ [.zoomRatio 1] }

def buildResultMetadata (timestamp frameDurationNs producerTimestampNs width height : Int) :
    CameraMetadata :=
  some
    { structureValid := true
      entries := [.sensorTimestamp timestamp, .sensorFrameDuration frameDurationNs] ++
        (if 0 < producerTimestampNs then [.producerTimestamp producerTimestampNs] else []) ++
        [.zoomRatio 1, .cropRegion 0 0 width height] }

end MetadataBuilder

end VirtualCamera
