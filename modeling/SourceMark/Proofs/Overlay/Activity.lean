import SourceMark.Proofs.Overlay.HeldKeys

/-!
# When the overlay is active

The overlay is meant to be active while a key is held that activates it, and
never longer.  With one flag for each kind of key this holds only in part.  The
overlay is never active without such a key being held, as long as the side stays
the same; but when both sides count, releasing one of two held keys ends the
activity.  When the side is changed while a key is held, the release of that key
may not count any more, and the overlay stays active without any held key.
-/

namespace SourceMark

namespace Overlay

open Page

namespace Event

/-- A key was pressed after the focus was lost last, and not released since. -/
def IsDown (events : List Event) (name : String) (code : Nat) : Prop :=
  ∃ before after, events = before ++ key name code true :: after ∧
    blur ∉ after ∧ key name code false ∉ after

/-- A key that activates the overlay is down, on a side that counts. -/
def HoldActivation (side : ModifierSide) (events : List Event) : Prop :=
  ∃ modifier : Modifier, modifier.activates = true ∧
    ∃ code, side.honours code = true ∧ IsDown events modifier.name code

/-- Whether an event concerns keys or the focus. -/
def isOfKeyboard : Event → Bool
  | key _ _ _ => true
  | blur => true
  | _ => false

/-- Whether an event is something a user does with keys, mouse or settings. -/
def isOfUser : Event → Bool
  | key _ _ _ => true
  | move _ _ => true
  | click _ => true
  | setEditor _ => true
  | setModifier _ => true
  | toggleHighlight => true
  | _ => false

/-- Whether an event presses this very key, or releases it. -/
def isKey (name : String) (code : Nat) (down : Bool) : Event → Bool
  | key otherName otherCode otherDown =>
      otherName == name && otherCode == code && otherDown == down
  | _ => false

theorem isKey_iff {event : Event} {name : String} {code : Nat} {down : Bool} :
    event.isKey name code down = true ↔ event = key name code down := by
  cases event with
  | key otherName otherCode otherDown => simp [isKey, and_assoc]
  | _ => simp [isKey]

/-- Whether every key is pressed before it is released, the given events being
those that came earlier. -/
def pressFirst : (earlier : List Event) → List Event → Bool
  | _, [] => true
  | earlier, key name code false :: events =>
      earlier.any (isKey name code true) &&
        pressFirst (key name code false :: earlier) events
  | earlier, event :: events => pressFirst (event :: earlier) events

/-- Whether every key that is pressed is released later on. -/
def releaseAll : List Event → Bool
  | [] => true
  | key name code true :: events =>
      events.any (isKey name code false) && releaseAll events
  | _ :: events => releaseAll events

theorem mem_of_releaseAll {before after : List Event} {name : String}
    {code : Nat}
    (complete : releaseAll (before ++ key name code true :: after) = true) :
    key name code false ∈ after := by
  induction before with
  | nil =>
      simp only [List.nil_append, releaseAll, Bool.and_eq_true] at complete
      obtain ⟨event, member, released⟩ := List.any_eq_true.mp complete.1
      rwa [isKey_iff.mp released] at member
  | cons event before induction =>
      rw [List.cons_append] at complete
      unfold releaseAll at complete
      split at complete
      · simp_all
      · next first _ _ _ equality =>
          obtain ⟨rfl, rfl⟩ := by simpa using equality
          rw [Bool.and_eq_true] at complete
          exact induction complete.2
      · next first _ _ equality =>
          obtain ⟨rfl, rfl⟩ := by simpa using equality
          exact induction complete

/-- A flag that stays set although its key is released: the release comes when
the side of the key no longer counts. -/
theorem release_of_endPressed {modifier : Modifier} {side : ModifierSide}
    {events : List Event} (complete : releaseAll events = true)
    (pressed : EndPressed modifier side events) :
    ∃ before code during after,
      events = before ++ key modifier.name code true ::
        (during ++ key modifier.name code false :: after) ∧
      (sideAfter side before).honours code = true ∧
      (sideAfter side (before ++
        key modifier.name code true :: during)).honours code = false := by
  obtain ⟨before, code, later, rfl, honoured, spared⟩ := pressed
  obtain ⟨during, after, rfl⟩ :=
    List.append_of_mem (mem_of_releaseAll complete)
  refine ⟨before, code, during, after, rfl, honoured, ?_⟩
  rw [allSpare_append, allSpare, Bool.and_eq_true, Bool.and_eq_true] at spared
  rw [sideAfter_append, sideAfter_cons]
  -- A press leaves the side as it is.
  change (sideAfter (sideAfter side before) during).honours code = false
  simpa [spares, Concerns] using spared.2.1

end Event

namespace Session

/-- While the side stays the same, the overlay is active exactly when a key that
activates it was pressed and no key of its kind was released since.  So it is
never active without a held key, and it is active with one when a single side
counts. -/
theorem isActive_iff_unreleased (options : Options) (store : Store)
    (resolver : Resolver) (host : Host) (events : List Event)
    (keeps : Event.KeepSide events) :
    let session := (start options store resolver host).run events
    let side := (options.preferences store).modifier
    (session.controller.isActive = true ↔
      ∃ modifier : Modifier, modifier.activates = true ∧
        ∃ before code after,
          events = before ++ .key modifier.name code true :: after ∧
            side.honours code = true ∧ .blur ∉ after ∧
            ∀ other, side.honours other = true →
              .key modifier.name other false ∉ after) ∧
      (session.controller.isActive = true →
        Event.HoldActivation side events) ∧
      (side ≠ .any → Event.HoldActivation side events →
        session.controller.isActive = true) := by
  intro session side
  have unreleased : session.controller.isActive = true ↔ _ :=
    (isActive_iff_flag options store resolver host events).trans
      (exists_congr fun modifier =>
        and_congr_right fun _ => flag_iff_unreleased keeps)
  refine ⟨unreleased, ?_, ?_⟩
  · intro active
    obtain ⟨modifier, activates, before, code, after, equality, honoured,
      focused, free⟩ := unreleased.mp active
    exact ⟨modifier, activates, code, honoured, before, after, equality,
      focused, free code honoured⟩
  · rintro chosen ⟨modifier, activates, code, honoured, before, after,
      equality, focused, free⟩
    refine unreleased.mpr ⟨modifier, activates, before, code, after, equality,
      honoured, focused, ?_⟩
    intro other counts
    rw [← eq_of_honours chosen honoured counts]
    exact free

/-- Both Control keys are pressed where the right ones count, the left one is
released, and so is the right one after Meta was pressed. -/
theorem isActive_iff_unreleased_right :
    let options := { Options.standard with modifier := some .right }
    let events : List Event :=
      [.key "Control" 1 true, .key "Control" 2 true, .key "Control" 1 false,
        .key "Meta" 2 true, .key "Control" 2 false]
    let session := (start options (.memory []) Resolver.plain
      (Host.ofDocument Document.empty)).run events
    Event.KeepSide events ∧ session.controller.isActive = true := by
  intro options events session
  have keeps : Event.KeepSide events := by
    intro side member
    simp [events] at member
  refine ⟨keeps, ?_⟩
  apply (isActive_iff_unreleased options (.memory []) Resolver.plain
    (Host.ofDocument Document.empty) events keeps).2.2
  · decide
  · refine ⟨.metaKey, rfl, 2, rfl, [.key "Control" 1 true,
      .key "Control" 2 true, .key "Control" 1 false],
      [.key "Control" 2 false], rfl, ?_, ?_⟩
    · simp
    · simp [Modifier.name]

/-- Where both sides count, the overlay is not always active while a key is held
that activates it: of two Meta keys one is released. -/
theorem not_isActive_iff_down :
    ¬ ∀ (options : Options) (store : Store) (resolver : Resolver)
        (host : Host) (events : List Event),
      events.all Event.isOfKeyboard = true →
      Event.pressFirst [] events = true →
      (((start options store resolver host).run
          events).controller.isActive = true ↔
        Event.HoldActivation (options.preferences store).modifier events) := by
  intro claimed
  let options := { Options.standard with modifier := some .any }
  let host := Host.ofDocument Document.empty
  let events : List Event :=
    [.key "Meta" 1 true, .key "Meta" 2 true, .key "Meta" 1 false]
  have inactive : ((start options (.memory []) Resolver.plain host).run
      events).controller.isActive = false := by
    decide +kernel
  have down : Event.HoldActivation .any events := by
    refine ⟨.metaKey, rfl, 2, rfl, [.key "Meta" 1 true],
      [.key "Meta" 1 false], rfl, ?_, ?_⟩
    · simp
    · simp [Modifier.name]
  have active := (claimed options (.memory []) Resolver.plain host events
    (by decide) (by decide)).mpr down
  rw [inactive] at active
  exact absurd active (by decide)

/-- The overlay is inactive and no flag is set exactly when the last event that
bore on a flag pressed a key for no kind of key. -/
theorem isReleased_iff (options : Options) (store : Store)
    (resolver : Resolver) (host : Host) (events : List Event) :
    let session := (start options store resolver host).run events
    session.controller.state = .inactive ∧
        session.controller.keys = HeldKeys.released ↔
      ∀ modifier, ¬ Event.EndPressed modifier
        (options.preferences store).modifier events := by
  intro session
  have settled : session.IsSettled :=
    isSettled_run (isSettled_start options store resolver host) events
  constructor
  · rintro ⟨_, released⟩ modifier pressed
    have held := (flag_of_run options store resolver host events modifier).mpr
      pressed
    have clear := (Modifier.eq_released_iff _).mp released modifier
    exact Bool.false_ne_true (clear.symm.trans held)
  · intro unpressed
    have released : session.controller.keys = HeldKeys.released := by
      apply (Modifier.eq_released_iff _).mpr
      intro modifier
      apply Bool.eq_false_iff.mpr
      intro held
      exact unpressed modifier
        ((flag_of_run options store resolver host events modifier).mp held)
    refine ⟨?_, released⟩
    rw [settled.state, released]
    rfl

/-- When every pressed key is released in the end, the overlay is inactive and
no flag is set, except for a kind of key whose last press counted while no later
release did.  There the side was changed while the key was held. -/
theorem isReleased_iff_not_endPressed (options : Options) (store : Store)
    (resolver : Resolver) (host : Host) (events : List Event)
    (complete : Event.releaseAll events = true) :
    let session := (start options store resolver host).run events
    let side := (options.preferences store).modifier
    (session.controller.state = .inactive ∧
        session.controller.keys = HeldKeys.released ↔
      ∀ modifier, ¬ Event.EndPressed modifier side events) ∧
      (∀ modifier, Event.EndPressed modifier side events →
        ∃ before code during after,
          events = before ++ .key modifier.name code true ::
            (during ++ .key modifier.name code false :: after) ∧
          (Event.sideAfter side before).honours code = true ∧
          (Event.sideAfter side (before ++
            .key modifier.name code true :: during)).honours code = false) ∧
      (Event.KeepSide events → session.controller.state = .inactive ∧
        session.controller.keys = HeldKeys.released) := by
  intro session side
  have overlooked : ∀ modifier, Event.EndPressed modifier side events → _ :=
    fun modifier => Event.release_of_endPressed complete
  have released := isReleased_iff options store resolver host events
  refine ⟨released, overlooked, ?_⟩
  intro keeps
  apply released.mpr
  intro modifier pressed
  obtain ⟨before, code, during, after, rfl, honoured, ignored⟩ :=
    overlooked modifier pressed
  -- The same side counts when the key is pressed and when it is released.
  have earlier := Event.keepSide_left keeps
  have whole : Event.KeepSide
      (before ++ .key modifier.name code true :: during) := by
    intro chosen member
    apply keeps chosen
    rw [← List.cons_append, ← List.append_assoc]
    exact List.mem_append_left _ member
  rw [Event.sideAfter_of_keepSide earlier] at honoured
  rw [Event.sideAfter_of_keepSide whole, honoured] at ignored
  exact absurd ignored (by decide)

/-- The side is changed between the presses of several keys, when none of them is
held; the left Alt key is then pressed and released without counting. -/
theorem isReleased_iff_not_endPressed_right :
    let options := Options.standard
    let events : List Event :=
      [.key "Control" 1 true, .key "Control" 1 true, .key "Control" 1 false,
        .setModifier .right, .key "Meta" 2 true, .key "Alt" 1 true,
        .toggleHighlight, .click none, .key "Alt" 1 false,
        .key "Meta" 2 false]
    let session := (start options (.memory []) Resolver.plain
      (Host.ofDocument Document.empty)).run events
    Event.releaseAll events = true ∧ session.controller.state = .inactive ∧
      session.controller.keys = HeldKeys.released := by
  intro options events session
  have complete : Event.releaseAll events = true := by decide
  refine ⟨complete, ?_⟩
  apply (isReleased_iff_not_endPressed options (.memory []) Resolver.plain
    (Host.ofDocument Document.empty) events complete).1.mpr
  intro modifier pressed
  have held := (flag_of_run options (.memory []) Resolver.plain
    (Host.ofDocument Document.empty) events modifier).mpr pressed
  revert held
  cases modifier with
  | metaKey => decide +kernel
  | controlKey => decide +kernel
  | altKey => decide +kernel

/-- The overlay can stay active although every pressed key was released: the
left Meta key is released after the right side was chosen. -/
theorem not_inactive_of_releaseAll :
    ¬ ∀ (options : Options) (store : Store) (resolver : Resolver)
        (host : Host) (events : List Event),
      events.all Event.isOfUser = true →
      Event.releaseAll events = true →
      ((start options store resolver host).run events).controller.state =
          .inactive ∧
        ((start options store resolver host).run events).controller.keys =
          HeldKeys.released := by
  intro claimed
  let host := Host.ofDocument Document.empty
  let events : List Event :=
    [.key "Meta" 1 true, .setModifier .right, .key "Meta" 1 false]
  have active : ((start Options.standard (.memory []) Resolver.plain host).run
      events).controller.state = .active .copy .element := by
    decide +kernel
  have inactive := (claimed Options.standard (.memory []) Resolver.plain host
    events (by decide) (by decide)).1
  rw [active] at inactive
  exact absurd inactive (by decide)

end Session

end Overlay

end SourceMark
