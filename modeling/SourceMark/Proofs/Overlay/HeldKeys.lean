import SourceMark.Proofs.Overlay.Sessions

/-!
# Keys that count as held

The controller keeps one flag for each kind of key.  A flag is set exactly when
the last event that bore on it pressed a key.  Presses and releases bear on a
flag only where the side chosen at that time honours them; losing the focus
bears on all flags.

This is less than keeping track of the keys themselves.  One flag stands for
the keys on both sides, so it is cleared when one of two held keys is released;
and it stays set when its key is released after another side was chosen.
-/

namespace SourceMark

namespace Overlay

open Page

/-- A kind of key that the controller keeps a flag for. -/
inductive Modifier where
  | metaKey
  | controlKey
  | altKey
deriving Repr, DecidableEq

namespace Modifier

/-- The name that events give to keys of a kind. -/
def name : Modifier → String
  | metaKey => "Meta"
  | controlKey => "Control"
  | altKey => "Alt"

/-- Whether the overlay is active while a key of the kind is held. -/
def activates : Modifier → Bool
  | metaKey => true
  | controlKey => true
  | altKey => false

/-- The flag of a kind. -/
def flag (keys : HeldKeys) : Modifier → Bool
  | metaKey => keys.metaKey
  | controlKey => keys.controlKey
  | altKey => keys.altKey

theorem flag_after (keys : HeldKeys) (name : String) (down : Bool)
    (modifier : Modifier) :
    flag (keys.after name down) modifier =
      if name = modifier.name then down else flag keys modifier := by
  unfold HeldKeys.after
  split
  · cases modifier with
    | metaKey => rfl
    | controlKey => rfl
    | altKey => rfl
  · cases modifier with
    | metaKey => rfl
    | controlKey => rfl
    | altKey => rfl
  · cases modifier with
    | metaKey => rfl
    | controlKey => rfl
    | altKey => rfl
  · next notMeta notControl notAlt =>
      have other : name ≠ modifier.name := by
        cases modifier with
        | metaKey => exact notMeta
        | controlKey => exact notControl
        | altKey => exact notAlt
      rw [if_neg other]

theorem flag_released (modifier : Modifier) :
    flag HeldKeys.released modifier = false := by
  cases modifier with
  | metaKey => rfl
  | controlKey => rfl
  | altKey => rfl

theorem activate_iff (keys : HeldKeys) :
    keys.activate = true ↔
      ∃ modifier : Modifier, modifier.activates = true ∧
        flag keys modifier = true := by
  unfold HeldKeys.activate
  rw [Bool.or_eq_true]
  constructor
  · intro held
    rcases held with held | held
    · exact ⟨.metaKey, rfl, held⟩
    · exact ⟨.controlKey, rfl, held⟩
  · rintro ⟨modifier, activates, held⟩
    cases modifier with
    | metaKey => exact .inl held
    | controlKey => exact .inr held
    | altKey => simp [Modifier.activates] at activates

theorem eq_released_iff (keys : HeldKeys) :
    keys = HeldKeys.released ↔
      ∀ modifier, flag keys modifier = false := by
  constructor
  · rintro rfl
    exact flag_released
  · intro clear
    have metaClear : keys.metaKey = false := clear .metaKey
    have controlClear : keys.controlKey = false := clear .controlKey
    have altClear : keys.altKey = false := clear .altKey
    cases keys
    simp_all [HeldKeys.released]

end Modifier

/-! ## Events that bear on a flag -/

namespace Event

/-- The side that counts after an event. -/
def side (before : ModifierSide) : Event → ModifierSide
  | setModifier modifier => modifier
  | _ => before

/-- Whether an event is one of a key of the kind, on a side that counts. -/
def Concerns (modifier : Modifier) (side : ModifierSide) (name : String)
    (code : Nat) : Prop :=
  name = modifier.name ∧ side.honours code = true

instance (modifier : Modifier) (side : ModifierSide) (name : String)
    (code : Nat) : Decidable (Concerns modifier side name code) :=
  inferInstanceAs (Decidable (_ ∧ _))

/-- Whether an event presses a key of the kind, on a side that counts. -/
def presses (modifier : Modifier) (side : ModifierSide) : Event → Bool
  | key name code true => decide (Concerns modifier side name code)
  | _ => false

/-- Whether an event leaves the flag of the kind as it is. -/
def spares (modifier : Modifier) (side : ModifierSide) : Event → Bool
  | key name code _ => !decide (Concerns modifier side name code)
  | blur => false
  | _ => true

/-- The side that counts after some events. -/
def sideAfter (side : ModifierSide) (events : List Event) : ModifierSide :=
  events.foldl Event.side side

/-- Whether all of some events leave the flag of the kind as it is. -/
def allSpare (modifier : Modifier) : ModifierSide → List Event → Bool
  | _, [] => true
  | before, event :: events =>
      event.spares modifier before &&
        allSpare modifier (event.side before) events

/-- The last event that bears on the flag of the kind presses a key. -/
def EndPressed (modifier : Modifier) (side : ModifierSide)
    (events : List Event) : Prop :=
  ∃ before code after,
    events = before ++ key modifier.name code true :: after ∧
      (sideAfter side before).honours code = true ∧
      allSpare modifier (sideAfter side before) after = true

variable {modifier : Modifier} {before : ModifierSide}

theorem sideAfter_cons (event : Event) (events : List Event) :
    sideAfter before (event :: events) =
      sideAfter (event.side before) events := rfl

theorem sideAfter_append (earlier later : List Event) :
    sideAfter before (earlier ++ later) =
      sideAfter (sideAfter before earlier) later :=
  List.foldl_append

theorem allSpare_append (earlier later : List Event) :
    allSpare modifier before (earlier ++ later) =
      (allSpare modifier before earlier &&
        allSpare modifier (sideAfter before earlier) later) := by
  induction earlier generalizing before with
  | nil => rfl
  | cons event earlier induction =>
      rw [List.cons_append, allSpare, allSpare, induction, sideAfter_cons,
        Bool.and_assoc]

theorem not_endPressed_nil : ¬ EndPressed modifier before [] := by
  rintro ⟨earlier, code, later, equality, _⟩
  simp at equality

/-- The last event that bears on a flag is the first one or one behind it. -/
theorem endPressed_cons {event : Event} {events : List Event} :
    EndPressed modifier before (event :: events) ↔
      event.presses modifier before = true ∧
          allSpare modifier (event.side before) events = true ∨
        EndPressed modifier (event.side before) events := by
  constructor
  · rintro ⟨earlier, code, later, equality, honoured, spared⟩
    cases earlier with
    | nil =>
        obtain ⟨rfl, rfl⟩ := by simpa using equality
        refine .inl ⟨?_, spared⟩
        exact decide_eq_true ⟨rfl, honoured⟩
    | cons first earlier =>
        obtain ⟨rfl, rfl⟩ := by simpa using equality
        exact .inr ⟨earlier, code, later, rfl, honoured, spared⟩
  · rintro (⟨pressed, spared⟩ | ⟨earlier, code, later, rfl, honoured, spared⟩)
    · unfold presses at pressed
      split at pressed
      · next name code =>
          obtain ⟨rfl, honoured⟩ := of_decide_eq_true pressed
          exact ⟨[], code, events, rfl, honoured, spared⟩
      · simp at pressed
    · exact ⟨event :: earlier, code, later, rfl, honoured, spared⟩

/-! ### While the side stays the same -/

/-- None of some events chooses a side. -/
def KeepSide (events : List Event) : Prop :=
  ∀ modifier, setModifier modifier ∉ events

theorem side_of_keepSide {event : Event} {events : List Event}
    (keeps : KeepSide (event :: events)) : event.side before = before := by
  cases event with
  | setModifier side => exact absurd List.mem_cons_self (keeps side)
  | _ => rfl

theorem keepSide_tail {event : Event} {events : List Event}
    (keeps : KeepSide (event :: events)) : KeepSide events :=
  fun side member => keeps side (List.mem_cons_of_mem event member)

theorem sideAfter_of_keepSide {events : List Event} (keeps : KeepSide events) :
    sideAfter before events = before := by
  induction events with
  | nil => rfl
  | cons event events induction =>
      rw [sideAfter_cons, side_of_keepSide keeps]
      exact induction (keepSide_tail keeps)

theorem keepSide_left {earlier later : List Event}
    (keeps : KeepSide (earlier ++ later)) : KeepSide earlier :=
  fun side member => keeps side (List.mem_append_left later member)

theorem keepSide_right {earlier later : List Event}
    (keeps : KeepSide (earlier ++ later)) : KeepSide later :=
  fun side member => keeps side (List.mem_append_right earlier member)

theorem spares_of_allSpare {event : Event} {events : List Event}
    (keeps : KeepSide events)
    (spared : allSpare modifier before events = true)
    (member : event ∈ events) : event.spares modifier before = true := by
  induction events with
  | nil => simp at member
  | cons first events induction =>
      rw [allSpare, Bool.and_eq_true, side_of_keepSide keeps] at spared
      rcases List.mem_cons.mp member with rfl | later
      · exact spared.1
      · exact induction (keepSide_tail keeps) spared.2 later

end Event

/-! ## The flags of a session -/

namespace Controller

section Preferences

variable (controller : Controller) (host : Host)

theorem isSteady_preferences : IsSteady preferences :=
  fun _ _ _ _ _ _ => rfl

theorem key_preferences (name : String) (code : Nat) (down : Bool) :
    (controller.key host name code down).preferences =
      controller.preferences :=
  isSteady_preferences.key controller host name code down

theorem move_preferences (pointer : Point) (target : Option NodeId) :
    (controller.move host pointer target).preferences =
      controller.preferences :=
  isSteady_preferences.move controller host pointer target

theorem blur_preferences :
    controller.blur.preferences = controller.preferences :=
  isSteady_preferences.blur controller

theorem blur_keys : controller.blur.keys = HeldKeys.released := by
  unfold blur
  simp only
  split
  · rfl
  · rfl

end Preferences

end Controller

namespace Session

/-- The side that counts in a session. -/
def side (session : Session) : ModifierSide :=
  session.controller.preferences.modifier

/-- The flag of a kind of key in a session. -/
def flag (session : Session) (modifier : Modifier) : Bool :=
  Modifier.flag session.controller.keys modifier

theorem step_side (session : Session) (event : Event) :
    (session.step event).side = event.side session.side := by
  unfold side
  cases event with
  | key name code down =>
      simp only [step, Controller.key_preferences]
      rfl
  | move pointer target =>
      simp only [step, Controller.move_preferences]
      rfl
  | blur =>
      simp only [step, Controller.blur_preferences]
      rfl
  | click target => rfl
  | setEditor editor => rfl
  | setModifier modifier => rfl
  | toggleHighlight => rfl
  | resolve resolver => rfl
  | change change => rfl
  | layOut layout => rfl

theorem run_side (session : Session) (events : List Event) :
    (session.run events).side = Event.sideAfter session.side events := by
  induction events generalizing session with
  | nil => rfl
  | cons event events induction =>
      rw [Event.sideAfter_cons, ← step_side]
      exact induction (session.step event)

/-- A key bears on the flag of its kind where its side counts. -/
theorem flag_key (session : Session) (name : String) (code : Nat)
    (down : Bool) (modifier : Modifier) :
    (session.step (.key name code down)).flag modifier =
      if Event.Concerns modifier session.side name code then down
      else session.flag modifier := by
  unfold flag side step Controller.key
  simp only
  split
  · next honoured =>
      rw [Controller.follow_keys, Modifier.flag_after]
      simp [Event.Concerns, honoured]
  · next ignored => simp [Event.Concerns, ignored]

theorem step_flag (session : Session) (event : Event) (modifier : Modifier) :
    (session.step event).flag modifier = true ↔
      event.presses modifier session.side = true ∨
        event.spares modifier session.side = true ∧
          session.flag modifier = true := by
  cases event with
  | key name code down =>
      rw [flag_key]
      by_cases concerns : Event.Concerns modifier session.side name code
      · rw [if_pos concerns]
        cases down with
        | true => simp [Event.presses, concerns]
        | false => simp [Event.presses, Event.spares, concerns]
      · rw [if_neg concerns]
        cases down with
        | true => simp [Event.presses, Event.spares, concerns]
        | false => simp [Event.presses, Event.spares, concerns]
  | move pointer target =>
      simp only [flag, step, Controller.move_keys]
      simp [Event.presses, Event.spares]
  | blur =>
      simp only [flag, step, Controller.blur_keys, Modifier.flag_released]
      simp [Event.presses, Event.spares]
  | click target => simp [Event.presses, Event.spares, flag, step]
  | setEditor editor =>
      simp [Event.presses, Event.spares, flag, step, Controller.setEditor]
  | setModifier side =>
      simp [Event.presses, Event.spares, flag, step, Controller.setModifier]
  | toggleHighlight =>
      simp [Event.presses, Event.spares, flag, step,
        Controller.toggleHighlight]
  | resolve resolver => simp [Event.presses, Event.spares, flag, step]
  | change change => simp [Event.presses, Event.spares, flag, step]
  | layOut layout => simp [Event.presses, Event.spares, flag, step]

theorem run_append (session : Session) (earlier later : List Event) :
    session.run (earlier ++ later) = (session.run earlier).run later :=
  List.foldl_append

/-- After some events a flag is set when the last one that bore on it pressed a
key, or when it was set before and none bore on it. -/
theorem run_flag (session : Session) (events : List Event)
    (modifier : Modifier) :
    (session.run events).flag modifier = true ↔
      Event.EndPressed modifier session.side events ∨
        Event.allSpare modifier session.side events = true ∧
          session.flag modifier = true := by
  induction events generalizing session with
  | nil => simp [run, Event.allSpare, Event.not_endPressed_nil]
  | cons event events induction =>
      have later := induction (session.step event)
      rw [step_side, step_flag] at later
      rw [Event.endPressed_cons, Event.allSpare, Bool.and_eq_true]
      refine later.trans ?_
      constructor
      · rintro (pressed | ⟨spared, pressed | ⟨eventSpared, held⟩⟩)
        · exact .inl (.inr pressed)
        · exact .inl (.inl ⟨pressed, spared⟩)
        · exact .inr ⟨⟨eventSpared, spared⟩, held⟩
      · rintro ((⟨pressed, spared⟩ | pressed) | ⟨⟨eventSpared, spared⟩, held⟩)
        · exact .inr ⟨spared, .inl pressed⟩
        · exact .inl pressed
        · exact .inr ⟨spared, .inr ⟨eventSpared, held⟩⟩

theorem flag_start (options : Options) (store : Store) (resolver : Resolver)
    (host : Host) (modifier : Modifier) :
    (start options store resolver host).flag modifier = false :=
  Modifier.flag_released modifier

theorem side_start (options : Options) (store : Store) (resolver : Resolver)
    (host : Host) :
    (start options store resolver host).side =
      (options.preferences store).modifier := rfl

section Runs

variable (options : Options) (store : Store) (resolver : Resolver)
  (host : Host) (events : List Event)

/-- From the start, a flag is set exactly when the last event that bore on it
pressed a key. -/
theorem flag_of_run (modifier : Modifier) :
    ((start options store resolver host).run events).flag modifier = true ↔
      Event.EndPressed modifier (options.preferences store).modifier
        events := by
  rw [run_flag, flag_start, side_start]
  simp

/-- The overlay is active while the flag of a kind that activates is set. -/
theorem isActive_iff_flag :
    ((start options store resolver host).run events).controller.isActive =
        true ↔
      ∃ modifier : Modifier, modifier.activates = true ∧
        ((start options store resolver host).run events).flag modifier =
          true := by
  have settled :=
    isSettled_run (isSettled_start options store resolver host) events
  unfold Controller.isActive
  rw [bne_iff_ne, settled.state, ne_eq, HeldKeys.state_eq_inactive,
    Bool.not_eq_false]
  exact Modifier.activate_iff _

end Runs

/-! ## Held keys while the side stays the same -/

/-- A flag stays set as long as no key of its kind is released. -/
theorem run_flag_of_unreleased {session : Session} {events : List Event}
    {modifier : Modifier} (keeps : Event.KeepSide events)
    (focused : .blur ∉ events)
    (unreleased : ∀ code, session.side.honours code = true →
      .key modifier.name code false ∉ events)
    (held : session.flag modifier = true) :
    (session.run events).flag modifier = true := by
  induction events generalizing session with
  | nil => exact held
  | cons event events induction =>
      have side : (session.step event).side = session.side := by
        rw [step_side, Event.side_of_keepSide keeps]
      apply induction (Event.keepSide_tail keeps)
      · intro lost
        exact focused (List.mem_cons_of_mem event lost)
      · intro code honoured released
        rw [side] at honoured
        exact unreleased code honoured (List.mem_cons_of_mem event released)
      · rw [step_flag]
        cases event with
        | key name code down =>
            by_cases concerns : Event.Concerns modifier session.side name code
            · cases down with
              | true => exact .inl (decide_eq_true concerns)
              | false =>
                  obtain ⟨rfl, honoured⟩ := concerns
                  exact absurd List.mem_cons_self (unreleased code honoured)
            · refine .inr ⟨?_, held⟩
              simp [Event.spares, concerns]
        | blur => exact absurd List.mem_cons_self focused
        | _ => exact .inr ⟨rfl, held⟩

section SameSide

variable {options : Options} {store : Store} {resolver : Resolver}
  {host : Host} {events : List Event} {modifier : Modifier}

/-- While the side stays the same, a flag is set exactly when a key of its kind
was pressed, and since then no key of its kind was released. -/
theorem flag_iff_unreleased (keeps : Event.KeepSide events) :
    ((start options store resolver host).run events).flag modifier = true ↔
      ∃ before code after,
        events = before ++ .key modifier.name code true :: after ∧
          (options.preferences store).modifier.honours code = true ∧
          .blur ∉ after ∧
          ∀ other, (options.preferences store).modifier.honours other = true →
            .key modifier.name other false ∉ after := by
  constructor
  · intro held
    rw [flag_of_run] at held
    obtain ⟨before, code, after, rfl, honoured, spared⟩ := held
    rw [Event.sideAfter_of_keepSide (Event.keepSide_left keeps)]
      at honoured spared
    have keepsLater : Event.KeepSide after :=
      Event.keepSide_tail (Event.keepSide_right keeps)
    refine ⟨before, code, after, rfl, honoured, ?_, ?_⟩
    · intro lost
      simpa [Event.spares] using
        Event.spares_of_allSpare keepsLater spared lost
    · intro other counts released
      simpa [Event.spares, Event.Concerns, counts] using
        Event.spares_of_allSpare keepsLater spared released
  · rintro ⟨before, code, after, rfl, honoured, focused, unreleased⟩
    have keepsEarlier := Event.keepSide_left keeps
    have keepsLater := Event.keepSide_right keeps
    have side : ((start options store resolver host).run before).side =
        (options.preferences store).modifier := by
      rw [run_side, side_start, Event.sideAfter_of_keepSide keepsEarlier]
    rw [run_append]
    apply run_flag_of_unreleased (Event.keepSide_tail keepsLater) focused
    · intro other counts
      rw [step_side, Event.side_of_keepSide keepsLater, side] at counts
      exact unreleased other counts
    · rw [flag_key, if_pos ⟨rfl, side.symm ▸ honoured⟩]

/-- A side other than both counts a single key of each kind. -/
theorem eq_of_honours {side : ModifierSide} (chosen : side ≠ .any)
    {code other : Nat} (first : side.honours code = true)
    (second : side.honours other = true) : code = other := by
  cases side with
  | any => exact absurd rfl chosen
  | left => exact (beq_iff_eq.mp first).trans (beq_iff_eq.mp second).symm
  | right => exact (beq_iff_eq.mp first).trans (beq_iff_eq.mp second).symm

end SameSide

end Session

end Overlay

end SourceMark
