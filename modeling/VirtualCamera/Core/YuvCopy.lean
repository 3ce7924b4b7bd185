import Mathlib.Algebra.Ring.Parity
import VirtualCamera.Core.HandleImporterCompat
import VirtualCamera.Shared.Stores

set_option autoImplicit false

namespace VirtualCamera

open Stores

structure Plane where
  data : Nat
  pixelStride : Nat
  rowStride : Nat
deriving DecidableEq, Repr

-- `planes[0]`, `planes[1]` and `planes[2]`.
structure Planes where
  y : Plane
  cb : Plane
  cr : Plane
deriving DecidableEq, Repr

abbrev Memory := Nat → UInt8

abbrev Store := Nat × UInt8

namespace FrameFiller

end FrameFiller

inductive Channel where
  | y
  | cb
  | cr
deriving DecidableEq, Repr

def Channel.Inside (width height : Nat) : Channel → Nat → Nat → Prop
  | .y, row, column => row < height ∧ column < width
  | _, row, column => row < height / 2 ∧ column < width / 2

def Planes.plane (src : Planes) : Channel → Plane
  | .y => src.y
  | .cb => src.cb
  | .cr => src.cr

def Planes.sample (src : Planes) (bytes : Memory) (channel : Channel) (row column : Nat) : UInt8 :=
  let plane := src.plane channel
  bytes (plane.data + row * plane.rowStride + column * plane.pixelStride)

namespace YCbCrBuffer

def base (dst : YCbCrBuffer) : Channel → Nat
  | .y => dst.y.getD 0
  | .cb => dst.cb.getD 0
  | .cr => dst.cr.getD 0

def stride (dst : YCbCrBuffer) : Channel → Nat
  | .y => dst.ystride.toNat
  | _ => dst.cstride.toNat

def step (dst : YCbCrBuffer) : Channel → Nat
  | .y => 1
  | _ => dst.chromaStep.toNat

def address (dst : YCbCrBuffer) (channel : Channel) (row column : Nat) : Nat :=
  dst.base channel + row * dst.stride channel + column * dst.step channel

end YCbCrBuffer

inductive ChromaOrder where
  | planar
  | cbFirst
  | crFirst
deriving DecidableEq, Repr

namespace ChromaOrder

def step : ChromaOrder → Nat
  | .planar => 1
  | _ => 2

def Places : ChromaOrder → Nat → Nat → Prop
  | .planar, _, _ => True
  | .cbFirst, cb, cr => cr = cb + 1
  | .crFirst, cb, cr => cb = cr + 1

end ChromaOrder

structure Planes.Reported (src : Planes) (order : ChromaOrder) : Prop where
  luma : src.y.pixelStride = 1
  steps : src.cb.pixelStride = order.step ∧ src.cr.pixelStride = order.step
  strides : src.cr.rowStride = src.cb.rowStride
  places : order.Places src.cb.data src.cr.data

-- What `lockYCbCr` reports of a 4:2:0 buffer: its rows hold their samples, and no two samples share a byte.
structure YCbCrBuffer.Reported (dst : YCbCrBuffer) (order : ChromaOrder) (width height : Nat) : Prop where
  mapped : dst.y.isSome ∧ dst.cb.isSome ∧ dst.cr.isSome
  step : dst.chromaStep = order.step
  rows : (width : Int) ≤ dst.ystride ∧ ((width / 2 * order.step : Nat) : Int) ≤ dst.cstride
  int : dst.ystride < 2147483648 ∧ dst.cstride < 2147483648
  places : order.Places (dst.base .cb) (dst.base .cr)
  apart : ∀ (channel other : Channel) (row row' column column' : Nat), channel.Inside width height row column →
    other.Inside width height row' column' → dst.address channel row column = dst.address other row' column' →
    channel = other ∧ row = row' ∧ column = column'

-- Where a plane's rows start. Interleaved planes share theirs.
def YCbCrBuffer.rows (dst : YCbCrBuffer) : Channel → Nat
  | .y => dst.base .y
  | channel => if dst.chromaStep = 2 then min (dst.base .cb) (dst.base .cr) else dst.base channel

def YCbCrBuffer.Area (dst : YCbCrBuffer) (width height address : Nat) : Prop :=
  ∃ channel row, channel.Inside width height row 0 ∧ dst.rows channel + row * dst.stride channel ≤ address ∧
    address < dst.rows channel + (row + 1) * dst.stride channel

namespace FrameFiller

variable {src : Planes} {dst : YCbCrBuffer} {bytes memory : Memory} {store : Store}

variable {source target : ChromaOrder} {width height : Nat}

end FrameFiller

open FrameFiller

variable {src : Planes} {dst : YCbCrBuffer} {source target : ChromaOrder} {width height descWidth descHeight : Nat}

theorem Channel.Inside.mono {channel : Channel} {row column : Nat}
    (inside : channel.Inside (min width descWidth) (min height descHeight) row column) :
    channel.Inside width height row column := by
  cases channel <;> exact ⟨by have := inside.1; omega, by have := inside.2; omega⟩

theorem YCbCrBuffer.Reported.area (locked : dst.Reported target width height) {channel : Channel} {row column : Nat}
    (inside : channel.Inside width height row column) : dst.Area width height (dst.address channel row column) := by
  have row_start : channel.Inside width height row 0 := by
    cases channel <;> exact ⟨inside.1, Nat.zero_lt_of_lt inside.2⟩
  suffices start : dst.rows channel ≤ dst.base channel ∧
      dst.base channel + column * dst.step channel < dst.rows channel + dst.stride channel by
    refine ⟨channel, row, row_start, ?_, ?_⟩
    · exact Nat.le_trans (Nat.add_le_add_right start.1 _) (Nat.le_add_right _ _)
    · rw [YCbCrBuffer.address, Nat.succ_mul]
      omega
  obtain ⟨luma, chroma⟩ := locked.rows
  have places := locked.places
  cases channel with
  | y =>
    have within : column < width := inside.2
    simp only [YCbCrBuffer.rows, YCbCrBuffer.step, YCbCrBuffer.stride]
    omega
  | cb | cr =>
    have within : column < width / 2 := inside.2
    simp only [YCbCrBuffer.rows, YCbCrBuffer.step, YCbCrBuffer.stride, locked.step]
    cases target <;> simp [ChromaOrder.step, ChromaOrder.Places] at places chroma ⊢ <;> omega

end VirtualCamera
