import VirtualCamera.Core.FrameFiller
import VirtualCamera.Core.YuvCopy

set_option autoImplicit false

namespace VirtualCamera

open Stores

def FORMAT_YUV_420 : UInt32 := 2

structure RendererFrame where
  format : UInt32
  width : UInt32
  height : UInt32
  data : Memory

inductive FrameOrigin where
  | passthrough (data : Memory)
  | rgba (data : Memory)
  | pattern (shift : Nat)

namespace FrameFiller

-- 8 bars: white, yellow, cyan, green, magenta, red, blue, black (BT.601)
def kBarY : Vector UInt8 8 := #v[235, 210, 170, 145, 106, 81, 41, 16]
def kBarCb : Vector UInt8 8 := #v[128, 16, 166, 54, 202, 90, 240, 128]
def kBarCr : Vector UInt8 8 := #v[128, 146, 16, 34, 222, 240, 110, 128]

-- `((x + shift) / barW) & 7`
def bar (width shift x : Nat) : Fin 8 :=
  let barW := if 8 ≤ width then width / 8 else 1
  Fin.ofNat 8 ((x + shift) / barW)

def origin (width height : Nat) (frame : Option RendererFrame) (nowMs : Nat) : FrameOrigin :=
  match frame with
  | some frame =>
    if frame.width = UInt32.ofNat width ∧ frame.height = UInt32.ofNat height then
      if frame.format = FORMAT_YUV_420 then .passthrough frame.data else .rgba frame.data
    else .pattern (nowMs / 8 % width)
  | none => .pattern (nowMs / 8 % width)

def rgbaPixel (width : Nat) (data : Memory) (y x : Nat) : Rgba :=
  let rgbaIdx := (y * width + x) * 4
  { r := data (rgbaIdx + 0), g := data (rgbaIdx + 1), b := data (rgbaIdx + 2), a := data (rgbaIdx + 3) }

end FrameFiller

open FrameFiller

def FrameOrigin.picture (width height : Nat) : FrameOrigin → Channel → Nat → Nat → UInt8
  | .passthrough data, .y, row, column => data (row * width + column)
  | .passthrough data, .cb, row, column => data (width * height + (row * width + column * 2))
  | .passthrough data, .cr, row, column => data (width * height + (row * width + column * 2 + 1))
  | .rgba data, .y, row, column => (rgbaPixel width data row column).luma
  | .rgba data, .cb, row, column => (rgbaPixel width data (row * 2) (column * 2)).cb
  | .rgba data, .cr, row, column => (rgbaPixel width data (row * 2) (column * 2)).cr
  | .pattern shift, .y, _, column => kBarY.get (bar width shift column)
  | .pattern shift, .cb, _, column => kBarCb.get (bar width shift (column * 2))
  | .pattern shift, .cr, _, column => kBarCr.get (bar width shift (column * 2))

def FrameOrigin.drawn : FrameOrigin → Bool
  | .pattern _ => true
  | .passthrough _ | .rgba _ => false

namespace FrameFiller

variable {width height : Nat} {order : ChromaOrder} {dst : YCbCrBuffer} {stores : List Store} {memory : Memory}
  {picture : Channel → Nat → Nat → UInt8} {store : Store}

def Draws (width height : Nat) (dst : YCbCrBuffer) (picture : Channel → Nat → Nat → UInt8)
    (stores : List Store) : Prop :=
  ∀ store, store ∈ stores ↔ ∃ channel row column, channel.Inside width height row column ∧
    store = (dst.address channel row column, picture channel row column)

theorem Draws.written (draws : Draws width height dst picture stores) (locked : dst.Reported order width height)
    {channel : Channel} {row column : Nat} (inside : channel.Inside width height row column) :
    applied stores memory (dst.address channel row column) = picture channel row column := by
  refine applied_written (fun store member same => ?_) ⟨_, (draws _).mpr ⟨channel, row, column, inside, rfl⟩, rfl⟩
  obtain ⟨other, row', column', inside', rfl⟩ := (draws store).mp member
  obtain ⟨rfl, rfl, rfl⟩ := locked.apart other channel row' row column' column inside' inside same
  rfl

theorem Draws.untouched (draws : Draws width height dst picture stores) (locked : dst.Reported order width height)
    {place : Nat} (outside : ¬ dst.Area width height place) : applied stores memory place = memory place := by
  refine applied_untouched fun store member same => outside ?_
  obtain ⟨channel, row, column, inside, rfl⟩ := (draws store).mp member
  rw [← same]
  exact locked.area inside

section Parts

variable {value cb cr : Nat → Nat → UInt8} {rows columns : Nat} {place : Nat → Nat → Nat}

end Parts

end FrameFiller

section Frames

variable {width height : Nat} {order : ChromaOrder} {dst : YCbCrBuffer} {frame : Option RendererFrame}
    {nowMs : Nat}

end Frames

end VirtualCamera
