import Mathlib.Data.Finset.Basic
import Mathlib.Data.Finset.Dedup
import Mathlib.Data.Prod.Lex
import VirtualCamera.Shared.Selection

set_option autoImplicit false

namespace VirtualCamera

structure ProducerMode where
  id : Int := 0
  width : Int := 0
  height : Int := 0
  minFps : Int := 0
  maxFps : Int := 0
  formats : List Int := []
  downscale : Bool := false
deriving DecidableEq, Repr

structure Output where
  format : Int
  width : Int
  height : Int
deriving DecidableEq, Repr

structure ProducerCapabilities where
  registration : Int := 0
  facing : Int := 2
  orientation : Int := 0
  maxStreams : Int := 3
  modes : List ProducerMode := []
deriving DecidableEq, Repr

def blobFormat : Int := 0x21

namespace ProducerMode

def area (mode : ProducerMode) : Int := mode.width * mode.height

-- `std::set::insert` fails exactly on a repeat, so the insertions are one `Nodup`.
def valid (mode : ProducerMode) : Bool :=
  decide (0 < mode.id ∧ 16 ≤ mode.width ∧ 16 ≤ mode.height ∧ mode.width ≤ 8192 ∧
    mode.height ≤ 8192 ∧ mode.width % 2 = 0 ∧ mode.height % 2 = 0 ∧ mode.area ≤ 3840 * 2160 ∧
    1 ≤ mode.minFps ∧ mode.minFps ≤ mode.maxFps ∧ mode.maxFps ≤ 120 ∧
    mode.formats ≠ [] ∧ mode.formats.length ≤ 4 ∧
    (∀ format ∈ mode.formats, format = 1 ∨ format = 0x22 ∨ format = 0x23 ∨ format = 0x21) ∧
    mode.formats.Nodup)

def declares (mode : ProducerMode) (output : Output) : Bool :=
  mode.width == output.width && mode.height == output.height && mode.formats.contains output.format

def fits (mode : ProducerMode) (output : Output) : Bool :=
  mode.formats.contains output.format &&
    !(output.width > mode.width || output.height > mode.height ||
      ((output.width != mode.width || output.height != mode.height) &&
        (!mode.downscale || output.width * mode.height != output.height * mode.width)))

-- A zero upper bound is the "no range" marker and excludes nothing.
def inRange (mode : ProducerMode) (low high : Int) : Bool :=
  !(high != 0 && (low < 1 || low > high || high < mode.minFps || low > mode.maxFps))

def smaller (mode best : ProducerMode) : Bool :=
  mode.area < best.area ||
    (mode.width == best.width && mode.height == best.height && mode.id < best.id)

def ranges (mode : ProducerMode) : List (Int × Int) :=
  [(mode.minFps, mode.maxFps), (mode.minFps, mode.minFps), (mode.maxFps, mode.maxFps)] ++
    if mode.minFps ≤ 30 ∧ 30 ≤ mode.maxFps then [(30, 30), (mode.minFps, 30), (30, mode.maxFps)]
    else []

end ProducerMode

def clamp (value low high : Int) : Int :=
  if value < low then low else if high < value then high else value

namespace ProducerCapabilities

def valid (caps : ProducerCapabilities) : Bool :=
  decide (0 < caps.registration ∧ caps.modes ≠ [] ∧ caps.modes.length ≤ 32 ∧
    0 ≤ caps.facing ∧ caps.facing ≤ 2 ∧
    (caps.orientation = 0 ∨ caps.orientation = 90 ∨ caps.orientation = 180 ∨ caps.orientation = 270) ∧
    1 ≤ caps.maxStreams ∧ caps.maxStreams ≤ 3 ∧
    (caps.modes.map (·.id)).Nodup ∧ ∀ mode ∈ caps.modes, mode.valid = true)

def commonLow (caps : ProducerCapabilities) : Int :=
  caps.modes.foldl (fun low mode => max low mode.minFps) 1

def commonHigh (caps : ProducerCapabilities) : Int :=
  caps.modes.foldl (fun high mode => min high mode.maxFps) 120

def globalLow (caps : ProducerCapabilities) : Int :=
  caps.modes.foldl (fun low mode => min low mode.minFps) 120

def globalHigh (caps : ProducerCapabilities) : Int :=
  caps.modes.foldl (fun high mode => max high mode.maxFps) 1

def defaultRange (caps : ProducerCapabilities) : Int × Int :=
  if caps.commonLow ≤ caps.commonHigh then
    let fps := clamp 30 caps.commonLow caps.commonHigh
    (fps, fps)
  else (caps.globalLow, caps.globalHigh)

def fpsRanges (caps : ProducerCapabilities) : Finset (Int × Int) :=
  (caps.defaultRange :: caps.modes.flatMap ProducerMode.ranges).toFinset

def advertised (caps : ProducerCapabilities) (output : Output) : Bool :=
  caps.modes.any fun mode => mode.declares output

def jpegCount (outputs : List Output) : Nat :=
  outputs.countP fun output => output.format == blobFormat

def withinLimits (caps : ProducerCapabilities) (outputs : List Output) : Bool :=
  !(!caps.valid || outputs.isEmpty || decide (caps.maxStreams < outputs.length)) &&
    outputs.all caps.advertised &&
    !(decide (1 < jpegCount outputs) || decide (2 < (outputs.length : Int) - jpegCount outputs))

def serves (outputs : List Output) (low high : Int) (mode : ProducerMode) : Bool :=
  mode.inRange low high && outputs.all mode.fits

def select (caps : ProducerCapabilities) (outputs : List Output) (low high : Int) :
    Option ProducerMode :=
  if caps.withinLimits outputs && (high == 0 || decide ((low, high) ∈ caps.fpsRanges)) then
    Selection.pick (serves outputs low high) ProducerMode.smaller caps.modes
  else none

-- The source's default arguments `low = 0, high = 0`.
def selectAny (caps : ProducerCapabilities) (outputs : List Output) : Option ProducerMode :=
  caps.select outputs 0 0

def diagnostic : ProducerCapabilities where
  registration := 1
  modes := [(3840, 2160), (1920, 1080), (1280, 720), (640, 480)].mapIdx fun index size =>
    { id := index + 1, width := size.1, height := size.2, minFps := 15, maxFps := 60
      formats := [1, 0x22, 0x23, 0x21], downscale := true }

theorem diagnostic_valid : diagnostic.valid = true := by decide

end ProducerCapabilities

end VirtualCamera
