import VirtualCamera.Session.HalSteps

set_option autoImplicit false

namespace VirtualCamera

open Interaction Interleaving Runs

def Flags.after (flags : Flags) : Call → Flags
  | .exchangeClosed | .storeClosed => { flags with closed := true }
  | .bumpCancelEpoch => { flags with cancelEpoch := flags.cancelEpoch + 1 }
  | .storeFlushing flushing => { flags with flushing }
  | _ => flags

theorem Flags.after_closed (flags : Flags) (call : Call) (closed : flags.closed = true) :
    (flags.after call).closed = true := by
  cases call <;> first | rfl | exact closed

theorem Flags.after_cancelEpoch (flags : Flags) (call : Call) :
    flags.cancelEpoch ≤ (flags.after call).cancelEpoch := by
  cases call <;> first | exact Nat.le_refl _ | exact Nat.le_succ _

namespace SessionSystem

theorem respond_flags (id : Nat) (shared : Shared) (choice : (call : Call) → call.Reply) (call : Call) :
    (respond id shared choice call).2.flags = Function.update shared.flags id ((shared.flags id).after call) := by
  cases call <;> first | rfl | exact (Function.update_eq_self id shared.flags).symm

theorem respond_own_flags (id : Nat) (shared : Shared) (choice : (call : Call) → call.Reply) (call : Call) :
    (respond id shared choice call).2.flags id = (shared.flags id).after call := by
  rw [respond_flags, Function.update_self]

inductive LocalStep (world : SessionWorld) (id : Nat) (shared : Shared) : SessionLabel → SessionActivity → Prop where
  | still (label : SessionLabel) (activity : SessionActivity) (found : world.objects id = some activity)
      (same : shared.flags id = world.shared.flags id) (elsewhere : label ≠ .leave id) :
      LocalStep world id shared label activity
  | born (options : SessionOptions) (absent : world.objects id = none)
      (same : shared.flags id = world.shared.flags id) :
      LocalStep world id shared (.create id options) (sessions.newborn options)
  | entered (op : FrameworkCall) (activity : SessionActivity) (found : world.objects id = some activity)
      (same : shared.flags id = world.shared.flags id) :
      LocalStep world id shared (.enter id op)
        { activity with entering := activity.entering ++ [(op, request op)] }
  | requested (index : Nat) (choice : (call : Call) → call.Reply) (activity : SessionActivity) (op : FrameworkCall)
      (call : Call) (next : call.Reply → Program Environment Bool) (found : world.objects id = some activity)
      (asks : activity.entering[index]? = some (op, .call call next))
      (moved : shared = (respond id world.shared choice call).2) :
      LocalStep world id shared (.request id index choice)
        { activity with
          entering := activity.entering.set index (op, next (respond id world.shared choice call).1) }
  | locked (index : Nat) (activity : SessionActivity) (op : FrameworkCall) (ticket : Bool)
      (found : world.objects id = some activity)
      (waits : activity.entering[index]? = some (op, .ret ticket)) (free : activity.serving = none)
      (same : shared.flags id = world.shared.flags id) :
      LocalStep world id shared (.lock id index)
        { activity with
          entering := activity.entering.eraseIdx index
          serving := some (some op, serve op ticket activity.own)
          start := activity.trace.length }
  | called (choice : (call : Call) → call.Reply) (activity : SessionActivity) (op : Option FrameworkCall)
      (call : Call)
      (next : call.Reply → Program Environment (FrameworkReply × VirtualCameraSession))
      (found : world.objects id = some activity) (serves : activity.serving = some (op, .call call next))
      (moved : shared = (respond id world.shared choice call).2) :
      LocalStep world id shared (.call id choice)
        { activity with
          serving := some (op, next (respond id world.shared choice call).1)
          trace := activity.trace ++ [⟨call, (respond id world.shared choice call).1⟩] }
  | left (activity : SessionActivity) (op : Option FrameworkCall) (value : FrameworkReply)
      (own : VirtualCameraSession)
      (found : world.objects id = some activity) (serves : activity.serving = some (op, .ret (value, own)))
      (same : shared.flags id = world.shared.flags id) :
      LocalStep world id shared (.leave id) { activity with own, serving := none }

variable {world after : SessionWorld} {label : SessionLabel}

theorem step_local (next : sessions.Step world label after) {id : Nat} {activity : SessionActivity}
    (found : after.objects id = some activity) :
    LocalStep world id after.shared label activity := by
  have flags : ∀ other choice call, other ≠ id →
      (respond other world.shared choice call).2.flags id = world.shared.flags id := by
    intro other choice call differs
    rw [respond_flags, Function.update_of_ne differs.symm]
  cases next with
  | create other options absent admitted =>
    rw [World.put_objects] at found
    split at found
    next same =>
      subst same
      cases found
      exact .born options absent rfl
    next => exact .still _ _ found rfl nofun
  | enter other op moved present =>
    rw [World.put_objects] at found
    split at found
    next same =>
      subst same
      cases found
      exact .entered op moved present rfl
    next => exact .still _ _ found rfl nofun
  | request other index choice moved op call next present asks =>
    rw [World.put_objects] at found
    split at found
    next same =>
      subst same
      cases found
      exact .requested index choice moved op call next present asks rfl
    next differs => exact .still _ _ found (flags other choice call (Ne.symm differs)) nofun
  | lock other index moved op ticket present waits free =>
    rw [World.put_objects] at found
    split at found
    next same =>
      subst same
      cases found
      exact .locked index moved op ticket present waits free rfl
    next => exact .still _ _ found rfl nofun
  | call other choice moved op call next present serves =>
    rw [World.put_objects] at found
    split at found
    next same =>
      subst same
      cases found
      exact .called choice moved op call next present serves rfl
    next differs => exact .still _ _ found (flags other choice call (Ne.symm differs)) nofun
  | leave other moved op value own present serves =>
    rw [World.put_objects] at found
    split at found
    next same =>
      subst same
      cases found
      exact .left moved op value own present serves rfl
    next differs =>
      refine .still _ _ found rfl fun same => differs ?_
      injection same with same
      exact same.symm
  | outside change shared changes =>
    refine .still _ _ found ?_ nofun
    cases change with
    | hal event =>
      change SessionSystem.change world.shared (.hal event) = some shared at changes
      simp only [SessionSystem.change] at changes
      split at changes
      next =>
        obtain rfl := Option.some.inj changes
        rfl
      next => cases changes
    | getCameraDeviceInterface slot =>
      obtain ⟨descriptor, _, rfl⟩ := Option.map_eq_some_iff.mp changes
      rfl

end SessionSystem

end VirtualCamera
