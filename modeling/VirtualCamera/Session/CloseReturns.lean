import VirtualCamera.Session.Ending

set_option autoImplicit false

namespace VirtualCamera

open Interaction Interaction.Process Interleaving Runs SessionSystem

namespace SessionSystem

inductive CloseReturns (world : SessionWorld) (id : Nat) : SessionLabel → Prop where
  | outer (activity : SessionActivity) (value : FrameworkReply) (own : VirtualCameraSession)
      (found : world.objects id = some activity) (serves : activity.serving = some (some .close, .ret (value, own))) :
      CloseReturns world id (.leave id)
  | inner (choice : (call : Call) → call.Reply) (activity : SessionActivity) (requests : List CaptureRequest)
      (caches : List BufferCache) (next : Unit → Program Environment (FrameworkReply × VirtualCameraSession))
      (found : world.objects id = some activity)
      (serves : activity.serving = some (some (.processCaptureRequest requests caches), .call .storeClosed next)) :
      CloseReturns world id (.call id choice)
  | again (choice : (call : Call) → call.Reply) (activity : SessionActivity) (requests : List CaptureRequest)
      (caches : List BufferCache) (next : Unit → Program Environment (FrameworkReply × VirtualCameraSession))
      (earlier : List (Event Environment)) (found : world.objects id = some activity)
      (serves : activity.serving = some (some (.processCaptureRequest requests caches), .call .bumpCancelEpoch next))
      (closed : activity.current = earlier ++ [⟨.exchangeClosed, true⟩]) : CloseReturns world id (.call id choice)

def Patient (world : SessionWorld) (label : SessionLabel) (after : SessionWorld) : Prop :=
  sessions.Step world label after ∧ ¬ Overtakes world label

variable {world after : SessionWorld} {label : SessionLabel} {id : Nat} {activity : SessionActivity}

theorem told_of_stored {events : List (Event Environment)}
    (stored : (Closing.monitor.follow {} events).stored = true) :
    (⟨.storeClosed, ()⟩ : Event Environment) ∈ events := by
  have kept : ∀ (closing : Closing) (event : Event Environment),
      (Closing.monitor.observe closing event).stored = true → closing.stored = true ∨ event = ⟨.storeClosed, ()⟩ := by
    rintro closing ⟨call, reply⟩ stored
    cases call with
    | storeClosed => exact .inr rfl
    | hal call => cases call <;> exact .inl stored
    | _ => exact .inl stored
  induction events using List.reverseRecOn with
  | nil => cases stored
  | append_singleton events event ih =>
    rw [Monitor.follow_append] at stored
    rcases kept _ event stored with before | rfl
    · exact List.mem_append_left _ (ih before)
    · simp

theorem mem_of_current {event : Event Environment} (present : event ∈ activity.current) : event ∈ activity.trace :=
  List.mem_of_mem_drop present

theorem told_step (next : sessions.Step world label after) {before : SessionActivity}
    (found : world.objects id = some before) (told : Told before) (present : after.objects id = some activity) :
    Told activity := by
  have move := step_local next present
  clear present
  cases move with
  | still label other found' | entered op other found' | requested index choice other op call rest found'
  | locked index other op ticket found' | left other op value own found' =>
    obtain rfl := Option.some.inj (found.symm.trans found')
    exact told
  | born options absent => simp [absent] at found
  | called choice other op call rest found' serves moved =>
    obtain rfl := Option.some.inj (found.symm.trans found')
    exact List.mem_append_left _ told

theorem CloseReturns.told (returns : CloseReturns world id label) (next : sessions.Step world label after)
    (ending : ∀ activity, world.objects id = some activity →
      Ending world.shared.hal (world.shared.flags id) activity) :
    ∃ activity, after.objects id = some activity ∧ Told activity := by
  have there : (world.objects id).isSome = true := by
    cases returns with
    | outer other value own found | inner choice other requests caches rest found
    | again choice other requests caches rest earlier found => simp [found]
  obtain ⟨activity, present⟩ := Option.isSome_iff_exists.mp (System.step_present next there)
  refine ⟨activity, present, ?_⟩
  cases returns with
  | outer before value own found serves =>
    refine told_step next found ?_ present
    obtain ⟨_, told | ⟨own', reaches⟩⟩ := (ending before found).closes _ serves
    · exact told
    · have stored := ((Closing.serve_closes .close false own').reaches reaches).2 rfl rfl
      exact mem_of_current (told_of_stored stored)
  | inner choice before requests caches rest found serves =>
    cases next with
    | call _ _ other op call rest' found' serves' =>
      obtain rfl := Option.some.inj (found.symm.trans found')
      cases serves.symm.trans serves'
      rw [World.put_objects, if_pos rfl] at present
      obtain rfl := Option.some.inj present
      exact List.mem_append_right _ List.mem_cons_self
  | again choice before requests caches rest earlier found serves closed =>
    refine told_step next found ((ending before found).again ?_) present
    exact mem_of_current (by rw [closed]; simp)

variable {provider : Bool} {outcome : Nat → Bool} {labels : List SessionLabel}

theorem Patient.run (run : Run Patient (boot provider outcome) labels world) :
    Run sessions.Step (boot provider outcome) labels world := run.mono fun _ _ _ patient => patient.1

theorem endings (run : Run Patient (boot provider outcome) labels world)
    (room : world.shared.hal.nextIdentity < int64Max) : ∀ id activity, world.objects id = some activity →
      Ending world.shared.hal (world.shared.flags id) activity := by
  induction run with
  | refl => exact fun _ _ found => (nomatch found)
  | snoc earlier next ih =>
    have regular := regular provider outcome (Patient.run earlier)
    have before := (regular.halStep next.1).nextIdentity_le.trans_lt room
    exact ending_step regular (authority (Patient.run earlier) before) next.1 room next.2 (ih before)

theorem returned_told (run : Run Patient (boot provider outcome) labels world)
    (room : world.shared.hal.nextIdentity < int64Max) {before : SessionWorld} {since : List SessionLabel}
    (happened : Happened sessions.Step (boot provider outcome) labels before label since)
    (returns : CloseReturns before id label) : ∃ activity, world.objects id = some activity ∧ Told activity := by
  induction run generalizing since with
  | refl => exact absurd happened happened_nil
  | snoc earlier next ih =>
    have earlier' := Patient.run earlier
    have room' := ((regular provider outcome earlier').halStep next.1).nextIdentity_le.trans_lt room
    rcases happened.of_snoc with ⟨_, rfl, reached⟩ | ⟨since', _, happened'⟩
    · obtain rfl := reached.unique System.step_deterministic earlier'
      exact returns.told next.1 fun activity found => endings earlier room' id activity found
    · obtain ⟨activity, found, told⟩ := ih room' happened'
      have there : (Option.isSome _) = true := Option.isSome_iff_exists.mpr ⟨activity, found⟩
      obtain ⟨activity', present⟩ := Option.isSome_iff_exists.mp (System.step_present next.1 there)
      exact ⟨activity', present, told_step next.1 found told present⟩

end SessionSystem

end VirtualCamera
