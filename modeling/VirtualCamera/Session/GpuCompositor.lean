import VirtualCamera.Session.Environment

set_option autoImplicit false

namespace VirtualCamera

open Descriptors Interaction

variable {σ : Type}

-- Shared by the compositor and the CPU readers; neither wait consumes the descriptor.
def acquireFenceReady (fence : Option Fd) (gpuWait : Fd → Action σ Bool) : Action σ Bool :=
  match fence with
  | none => pure true
  | some fd => do
    if ← gpuWait fd then pure true
    else ask (.syncWait fd 100)

namespace GpuCompositor

def kFmtRGBX8888 : Int := 2

def waitForSourceFence (fence : Option Fd) : Action σ Bool :=
  acquireFenceReady fence fun sourceFd => do
    if !(← askGl .nativeFence) then pure false
    else
      match ← ask (.dup sourceFd) with
      | none => pure false
      | some fd => do
        -- EGL owns the copy once the sync exists; a failed creation closes it.
        if ← askGl (.importSync fd) then askGl .waitSync
        else
          ask (.closeFd fd)
          pure false

def passComplete (ok : Bool) : Action σ Bool :=
  if ok then askGl .framebufferComplete else pure false

def drawPass (ok : Bool) : Action σ Unit :=
  if ok then askGl .drawPacked else pure ()

-- The two passes into the packed planes; `finish` comes before the error is read.
def drawPlanes : Action σ Bool := do
  let ok ← passComplete true
  drawPass ok
  let ok ← passComplete ok
  drawPass ok
  askGl .finish
  if ok then askGl .noError else pure false

def samplePlanes (source : Ahb) (sourceFence : Option Fd) (target : YCbCrBuffer)
    (width height : Int) : Action σ Bool := do
  if !(← askGl (.ensureYuvTargets width height)) then pure false
  else if !(← waitForSourceFence sourceFence) then pure false
  else if !(← askGl (.imageFromAhb source)) then pure false
  else if !(← drawPlanes) then pure false
  else askGl (.copyPlanes target width height)

def compositeToYcbcr (source : Ahb) (sourceFence : Option Fd) (target : YCbCrBuffer)
    (width height : Int) : Action σ Bool := do
  if target.y.isNone || target.cb.isNone || target.cr.isNone || width % 4 != 0 || height % 2 != 0 then
    pure false
  else if !(← askGl .ensureInit) then pure false
  else if !(← askGl .makeCurrent) then pure false
  else
    let copied ← samplePlanes source sourceFence target width height
    askGl .dropContext
    pure copied

def completionFence (drawn : Bool) : Action σ (Option Fd) := do
  if !drawn then pure none
  else if !(← askGl .nativeFence) then pure none
  else if !(← askGl .createSync) then pure none
  else askGl .dupNativeFence

def clearTarget (clearBeforeOverwrite : Bool) : Action σ Unit :=
  if clearBeforeOverwrite then askGl .clear else pure ()

def drawTarget (handle : Handle) (clearBeforeOverwrite : Bool) : Action σ (Bool × Option Fd) := do
  clearTarget clearBeforeOverwrite
  askGl (.drawTarget handle)
  let drawn ← askGl .noError
  match ← completionFence drawn with
  | some fence => pure (drawn, some fence)
  | none =>
    askGl .finish
    pure (drawn, none)

def compositeCurrent (source : Ahb) (sourceFence : Option Fd) (handle : Handle)
    (width height stride format : Int) (clearBeforeOverwrite : Bool) :
    Action σ (Bool × Option Fd) := do
  if !(← waitForSourceFence sourceFence) then pure (false, none)
  else if !(← askGl (.imageFromAhb source)) then pure (false, none)
  else if !(← askGl (.imageFromHandle handle width height stride format)) then pure (false, none)
  else if !(← askGl .framebufferComplete) then pure (false, none)
  else drawTarget handle clearBeforeOverwrite

-- The second component is `*outFence`.
def composite (source : Ahb) (sourceFence : Option Fd) (handle : Handle)
    (width height stride format : Int) (clearBeforeOverwrite : Bool) :
    Action σ (Bool × Option Fd) := do
  if format != 1 && format != kFmtRGBX8888 then pure (false, none)
  else if !(← askGl .ensureInit) then pure (false, none)
  else if !(← askGl .makeCurrent) then pure (false, none)
  else
    let outcome ← compositeCurrent source sourceFence handle width height stride format
      clearBeforeOverwrite
    askGl .dropContext
    pure outcome

end GpuCompositor

end VirtualCamera
