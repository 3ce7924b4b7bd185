import VirtualCamera.Session.Bookkeeping

set_option autoImplicit false

namespace VirtualCamera

open Descriptors Interaction Interaction.Process

def Call.ordinary : Call → Bool
  | .exchangeClosed | .storeClosed => false
  | _ => true

theorem Call.ordinary_of_capturing (call : Call) (capturing : call.capturing = true) : call.ordinary = true := by
  cases call <;> first | rfl | cases capturing

theorem Call.ordinary_of_configuring (call : Call) (configuring : call.configuring = true) :
    call.ordinary = true := by
  cases call <;> first | rfl | cases configuring

theorem Call.ordinary_of_negotiating (call : Call) (negotiating : call.negotiating = true) :
    call.ordinary = true :=
  call.ordinary_of_configuring (call.configuring_of_negotiating negotiating)

theorem Call.capturing_of_waiting (call : Call) (waiting : call.waiting = true) : call.capturing = true := by
  cases call with
  | hal call => cases waiting
  | _ => first | rfl | cases waiting

def only (allowed : Call → Bool) : Monitor Environment Unit := Monitor.limits allowed

theorem only_ignores (allowed : Call → Bool) (seen : Unit) : (only allowed).Ignores seen allowed :=
  Monitor.limits_ignores (S := Environment) allowed seen

namespace VirtualCameraSession

variable (session : VirtualCameraSession)

theorem failUntouched_footprint (request : CaptureRequest) (pending : List (Option Fd)) :
    (failUntouched request pending).wp (only Call.capturing) session () fun _ final _ =>
      final.core = session.core := by
  have keeps : Maintains (only Call.capturing) (fun final _ => final.core = session.core)
      (failUntouched request pending) := failUntouched_maintains (only_ignores Call.capturing) request pending
  exact keeps session () rfl

theorem captureSource_footprint (request : CaptureRequest) (cancelEpoch : Nat) (timestamp : Int)
    (pending : List (Option Fd)) :
    (captureSource request cancelEpoch timestamp pending).wp (only Call.capturing) session () fun _ final _ =>
      final.core = session.core := by
  have keeps : Maintains (only Call.capturing) (fun final _ => final.core = session.core)
      (captureSource request cancelEpoch timestamp pending) :=
    captureSource_maintains (only_ignores Call.capturing) (fun _ _ _ held same => (core_of_frame same).trans held)
      request cancelEpoch timestamp pending
  exact keeps session () rfl

theorem updateTargetFps_footprint (settings : CameraMetadata) :
    (updateTargetFps settings).wp (only Call.negotiating) session () fun _ _ _ => True := by
  apply updateTargetFps_wp session (only_ignores Call.negotiating ())
  · trivial
  · exact fun _ => trivial
  · exact fun _ _ _ _ _ _ _ _ => trivial
  · exact fun _ _ _ _ _ _ _ _ => trivial

theorem configureStreams_footprint (requested : List Stream) :
    (configureStreams requested).wp (only Call.configuring) session () fun _ _ _ => True := by
  have quiet := only_ignores Call.configuring ()
  apply configureStreams_wp session (quiet.mono Call.configuring_of_negotiating) (quiet.mono Call.configuring_of_caching)
  · exact fun _ _ _ => trivial
  · exact fun _ _ _ _ _ => trivial

end VirtualCameraSession

end VirtualCamera
