import SourceMark.Overlay.Controller
import SourceMark.Proofs.Page.Changes

/-!
# Sessions of an overlay

A session is a controller at work on a page: keys and the pointer come in,
preferences are changed, and the page itself goes on changing.  The state that
the controller keeps is, after any such events, the one that the held keys ask
for, although keys are only followed where the chosen side honours them.
-/

namespace SourceMark

namespace Overlay

open Page

/-- What the host is told when the overlay becomes active or inactive. -/
inductive Call where
  | activated
  | deactivated
deriving Repr, DecidableEq

/-- Whether calls strictly alternate; an overlay that is not active yet has to
become active first. -/
def Call.alternate : (active : Bool) → List Call → Bool
  | _, [] => true
  | false, activated :: calls => alternate true calls
  | true, deactivated :: calls => alternate false calls
  | _, _ => false

namespace HeldKeys

/-- The state that held keys ask for. -/
def state (keys : HeldKeys) : State :=
  if keys.activate then .active keys.mode keys.level else .inactive

theorem state_eq_inactive {keys : HeldKeys} :
    keys.state = .inactive ↔ keys.activate = false := by
  simp [state]

theorem state_eq_active {keys : HeldKeys} {mode : Mode}
    {level : TargetLevel} :
    keys.state = .active mode level ↔
      keys.activate = true ∧ keys.mode = mode ∧ keys.level = level := by
  unfold state
  split
  · next held => simp [held]
  · next loose => simp [loose]

end HeldKeys

/-- What happens to an overlay and its page. -/
inductive Event where
  | key (name : String) (code : Nat) (down : Bool)
  | move (pointer : Point) (target : Option NodeId)
  | blur
  | click (target : Option NodeId)
  | setEditor (editor : Editor)
  | setModifier (modifier : ModifierSide)
  | toggleHighlight
  /-- Locations are found in other ways or other tables from now on. -/
  | resolve (resolver : Resolver)
  | change (change : Change)
  /-- The page is laid out in another way from now on. -/
  | layOut (layout : Layout)

/-- A controller and the host that it works on. -/
structure Session where
  controller : Controller
  host : Host

namespace Controller

/-- How a step turns an overlay on or off. -/
inductive Turn (before after : Controller) : Prop where
  | neither : after.isActive = before.isActive →
      after.activations = before.activations →
      after.deactivations = before.deactivations → Turn before after
  | on : before.isActive = false → after.isActive = true →
      after.activations = before.activations + 1 →
      after.deactivations = before.deactivations → Turn before after
  | off : before.isActive = true → after.isActive = false →
      after.activations = before.activations →
      after.deactivations = before.deactivations + 1 → Turn before after

/-- The calls that a step makes. -/
def callsTo (before after : Controller) : List Call :=
  List.replicate (after.activations - before.activations) .activated ++
    List.replicate (after.deactivations - before.deactivations) .deactivated

theorem isActive_of_state {controller : Controller} {mode : Mode}
    {level : TargetLevel} (state : controller.state = .active mode level) :
    controller.isActive = true := by
  simp [isActive, state]

theorem Turn.refl (controller : Controller) : Turn controller controller :=
  .neither rfl rfl rfl

/-! ## The handlers -/

section Handlers

variable (controller : Controller) (host : Host)

theorem follow_keys : (controller.follow host).keys = controller.keys := by
  unfold follow
  split
  · rfl
  · rfl
  · rfl
  · rfl

/-- Following the keys brings the state in line with them, whatever it was. -/
theorem follow_state :
    (controller.follow host).state = controller.keys.state := by
  unfold follow HeldKeys.state
  split
  · next _ held => simp [activate, held]
  · next _ _ _ held => simp [deactivate, held]
  · next _ _ _ held => simp [held]
  · next inactive held => simp [inactive, held]

theorem turn_follow : Turn controller (controller.follow host) := by
  unfold follow
  split
  · next inactive _ =>
      apply Turn.on
      · simp [isActive, inactive]
      · rfl
      · rfl
      · rfl
  · next mode level active _ =>
      apply Turn.off
      · exact isActive_of_state active
      · rfl
      · rfl
      · rfl
  · next mode level active _ =>
      apply Turn.neither
      · rw [isActive_of_state active]
        rfl
      · rfl
      · rfl
  · exact Turn.refl controller

theorem key_state (name : String) (code : Nat) (down : Bool)
    (before : controller.state = controller.keys.state) :
    (controller.key host name code down).state =
      (controller.key host name code down).keys.state := by
  unfold key
  split
  · rw [follow_state, follow_keys]
  · exact before

theorem turn_key (name : String) (code : Nat) (down : Bool) :
    Turn controller (controller.key host name code down) := by
  unfold key
  split
  · -- The keys do not say whether the overlay is active.
    obtain turn := turn_follow
      { controller with keys := controller.keys.after name down } host
    cases turn with
    | neither same on off => exact .neither same on off
    | on before after on off => exact .on before after on off
    | off before after on off => exact .off before after on off
  · exact Turn.refl controller

theorem move_state (pointer : Point) (target : Option NodeId) :
    (controller.move host pointer target).state = controller.state := by
  unfold move
  simp only
  split
  · rfl
  · rfl

theorem move_keys (pointer : Point) (target : Option NodeId) :
    (controller.move host pointer target).keys = controller.keys := by
  unfold move
  simp only
  split
  · rfl
  · rfl

theorem turn_move (pointer : Point) (target : Option NodeId) :
    Turn controller (controller.move host pointer target) := by
  unfold move
  simp only
  split
  · exact .neither rfl rfl rfl
  · exact .neither rfl rfl rfl

theorem blur_state : controller.blur.state = controller.blur.keys.state := by
  unfold blur
  simp only
  split
  · rfl
  · next quiet =>
      have inactive : controller.state = .inactive := by
        simpa [isActive] using quiet
      simp only [inactive]
      rfl

theorem turn_blur : Turn controller controller.blur := by
  unfold blur
  simp only
  split
  · next active => exact .off active rfl rfl rfl
  · exact .neither rfl rfl rfl

/-- A part of a controller in which neither the keys nor the activity shows. -/
def IsSteady {Part : Type} (part : Controller → Part) : Prop :=
  ∀ (controller : Controller) (state : State) (keys : HeldKeys)
    (hovered : Option NodeId) (activations deactivations : Nat),
    part { controller with
      state, keys, hovered, activations, deactivations } = part controller

namespace IsSteady

variable {Part : Type} {part : Controller → Part} (steady : IsSteady part)
include steady

theorem follow : part (controller.follow host) = part controller := by
  unfold Controller.follow
  split
  · exact steady controller _ _ _ _ _
  · exact steady controller _ _ _ _ _
  · exact steady controller _ _ _ _ _
  · rfl

theorem key (name : String) (code : Nat) (down : Bool) :
    part (controller.key host name code down) = part controller := by
  unfold Controller.key
  split
  · rw [steady.follow]
    exact steady controller _ _ _ _ _
  · rfl

theorem blur : part controller.blur = part controller := by
  unfold Controller.blur
  simp only
  split
  · exact steady controller _ _ _ _ _
  · exact steady controller _ _ _ _ _

theorem move (pointer : Point) (target : Option NodeId) :
    part (controller.move host pointer target) =
      part { controller with pointer } := by
  unfold Controller.move
  simp only
  split
  · exact steady { controller with pointer } _ _ _ _ _
  · rfl

end IsSteady

end Handlers

/-! ## The hovered element -/

/-- What is hovered, if anything, is an element of the page. -/
def HoversElement (controller : Controller) (document : Document) : Prop :=
  ∀ node ∈ controller.hovered, document.isElement node = true

section Hovering

variable {controller : Controller} {host : Host}

theorem isElement_of_pointedElement? {point : Point} {node : NodeId}
    (pointed : host.pointedElement? point = some node) :
    host.document.isElement node = true := by
  obtain ⟨under, _, nearest⟩ := Option.bind_eq_some_iff.mp pointed
  exact Document.isElement_of_nearestElement? nearest

theorem hoversElement_activate
    (hovers : controller.HoversElement host.document) :
    (controller.activate host).HoversElement host.document := by
  intro node member
  unfold activate at member
  simp only at member
  split at member
  · rcases Option.or_eq_some_iff.mp member with pointed | ⟨_, hovered⟩
    · exact isElement_of_pointedElement? pointed
    · exact hovers node hovered
  · exact hovers node member

theorem hoversElement_follow
    (hovers : controller.HoversElement host.document) :
    (controller.follow host).HoversElement host.document := by
  unfold follow
  split
  · exact hoversElement_activate hovers
  · exact hovers
  · exact hovers
  · exact hovers

theorem hoversElement_key (name : String) (code : Nat) (down : Bool)
    (hovers : controller.HoversElement host.document) :
    (controller.key host name code down).HoversElement host.document := by
  unfold key
  split
  · apply hoversElement_follow
    exact hovers
  · exact hovers

theorem hoversElement_move (pointer : Point) (target : Option NodeId)
    (hovers : controller.HoversElement host.document) :
    (controller.move host pointer target).HoversElement host.document := by
  unfold move
  simp only
  split
  · intro node member
    obtain ⟨under, _, nearest⟩ := Option.bind_eq_some_iff.mp member
    exact Document.isElement_of_nearestElement? nearest
  · exact hovers

theorem hoversElement_blur {document : Document}
    (hovers : controller.HoversElement document) :
    controller.blur.HoversElement document := by
  unfold blur
  simp only
  split
  · exact hovers
  · exact hovers

/-- A click leaves the page itself as it is. -/
theorem click_document (controller : Controller) (host : Host)
    (target : Option NodeId) :
    (controller.click host target).2.document = host.document := by
  unfold click
  split
  · split
    · unfold actOn
      split
      · rfl
      · rfl
    · rfl
  · rfl

end Hovering

end Controller

namespace Session

/-- A new controller on a page, reading locations in the given ways. -/
def start (options : Options) (store : Store) (resolver : Resolver)
    (host : Host) : Session where
  controller := { Controller.create options store with resolver }
  host

/-- The session after an event. -/
def step (session : Session) : Event → Session
  | .key name code down =>
      { session with
        controller := session.controller.key session.host name code down }
  | .move pointer target =>
      { session with
        controller := session.controller.move session.host pointer target }
  | .blur => { session with controller := session.controller.blur }
  | .click target =>
      { session with host := (session.controller.click session.host target).2 }
  | .setEditor editor =>
      { session with controller := session.controller.setEditor editor }
  | .setModifier modifier =>
      { session with controller := session.controller.setModifier modifier }
  | .toggleHighlight =>
      { session with controller := session.controller.toggleHighlight }
  | .resolve resolver =>
      { session with controller := { session.controller with resolver } }
  | .change change =>
      { session with
        host := { session.host with
          document := session.host.document.after change } }
  | .layOut layout =>
      { session with host := { session.host with pointed := layout } }

/-- The session after some events. -/
def run (session : Session) (events : List Event) : Session :=
  events.foldl step session

/-- The calls that some events cause, in order. -/
def calls : Session → List Event → List Call
  | _, [] => []
  | session, event :: events =>
      session.controller.callsTo (session.step event).controller ++
        calls (session.step event) events

/-- The state of a controller agrees with its keys and its calls, and what is
hovered is an element. -/
structure IsSettled (session : Session) : Prop where
  state : session.controller.state = session.controller.keys.state
  hovers : session.controller.HoversElement session.host.document
  balance : session.controller.activations =
    session.controller.deactivations +
      if session.controller.isActive then 1 else 0

theorem turn_step (session : Session) (event : Event) :
    session.controller.Turn (session.step event).controller := by
  cases event with
  | key name code down => exact Controller.turn_key _ _ name code down
  | move pointer target => exact Controller.turn_move _ _ pointer target
  | blur => exact Controller.turn_blur _
  | click target => exact .refl _
  | setEditor editor => exact .neither rfl rfl rfl
  | setModifier modifier => exact .neither rfl rfl rfl
  | toggleHighlight => exact .neither rfl rfl rfl
  | resolve resolver => exact .neither rfl rfl rfl
  | change change => exact .refl _
  | layOut layout => exact .refl _

theorem step_state {session : Session}
    (before : session.controller.state = session.controller.keys.state)
    (event : Event) :
    (session.step event).controller.state =
      (session.step event).controller.keys.state := by
  cases event with
  | key name code down => exact Controller.key_state _ _ name code down before
  | move pointer target =>
      simp only [step]
      rw [Controller.move_state, Controller.move_keys]
      exact before
  | blur => exact Controller.blur_state _
  | click target => exact before
  | setEditor editor => exact before
  | setModifier modifier => exact before
  | toggleHighlight => exact before
  | resolve resolver => exact before
  | change change => exact before
  | layOut layout => exact before

theorem step_hovers {session : Session}
    (before : session.controller.HoversElement session.host.document)
    (event : Event) :
    (session.step event).controller.HoversElement
      (session.step event).host.document := by
  cases event with
  | key name code down =>
      exact Controller.hoversElement_key name code down before
  | move pointer target =>
      exact Controller.hoversElement_move pointer target before
  | blur => exact Controller.hoversElement_blur before
  | click target =>
      simp only [step]
      rw [Controller.click_document]
      exact before
  | setEditor editor => exact before
  | setModifier modifier => exact before
  | toggleHighlight => exact before
  | resolve resolver => exact before
  | change change =>
      intro node member
      exact Document.isElement_after change (before node member)
  | layOut layout => exact before

theorem isSettled_start (options : Options) (store : Store)
    (resolver : Resolver) (host : Host) :
    (start options store resolver host).IsSettled where
  state := rfl
  hovers := by
    intro node member
    simp [start, Controller.create] at member
  balance := rfl

theorem isSettled_step {session : Session} (settled : session.IsSettled)
    (event : Event) : (session.step event).IsSettled where
  state := step_state settled.state event
  hovers := step_hovers settled.hovers event
  balance := by
    have balance := settled.balance
    cases turn_step session event with
    | neither same on off => rw [same, on, off, balance]
    | on before after on off => simp [before, after, on, off, balance]
    | off before after on off => simp [before, after, on, off, balance]

theorem isSettled_run {session : Session} (settled : session.IsSettled)
    (events : List Event) : (session.run events).IsSettled := by
  induction events generalizing session with
  | nil => exact settled
  | cons event events induction =>
      exact induction (isSettled_step settled event)

/-- A step makes at most one call, and the one that is due. -/
theorem alternate_step (session : Session) (event : Event)
    (later : List Call) :
    Call.alternate session.controller.isActive
        (session.controller.callsTo (session.step event).controller ++ later) =
      Call.alternate (session.step event).controller.isActive later := by
  unfold Controller.callsTo
  cases turn_step session event with
  | neither same on off => simp [same, on, off]
  | on before after on off => simp [before, after, on, off, Call.alternate]
  | off before after on off => simp [before, after, on, off, Call.alternate]

theorem alternate_calls (session : Session) (events : List Event) :
    Call.alternate session.controller.isActive (session.calls events) =
      true := by
  induction events generalizing session with
  | nil => simp [calls, Call.alternate]
  | cons event events induction =>
      rw [calls, alternate_step]
      exact induction (session.step event)

/-- After any events the overlay is in the state that the held keys ask for,
hovers over nothing but elements, and has told its host so by calls that
strictly alternate. -/
theorem state_of_run (options : Options) (store : Store) (resolver : Resolver)
    (host : Host) (events : List Event) :
    let session := (start options store resolver host).run events
    let keys := session.controller.keys
    (session.controller.state = .inactive ↔
        keys.metaKey = false ∧ keys.controlKey = false) ∧
      (∀ mode level, session.controller.state = .active mode level →
        (mode = .copy ↔ keys.metaKey = true) ∧
          (level = .parent ↔ keys.altKey = true)) ∧
      (∀ node ∈ session.controller.hovered,
        session.host.document.isElement node = true) ∧
      session.controller.activations = session.controller.deactivations +
        (if session.controller.isActive then 1 else 0) ∧
      Call.alternate false ((start options store resolver host).calls events) =
        true := by
  intro session keys
  have settled : session.IsSettled :=
    isSettled_run (isSettled_start options store resolver host) events
  have state : session.controller.state = keys.state := settled.state
  refine ⟨?_, ?_, settled.hovers, settled.balance, ?_⟩
  · rw [state, HeldKeys.state_eq_inactive]
    simp [HeldKeys.activate]
  · intro mode level active
    rw [state, HeldKeys.state_eq_active] at active
    obtain ⟨_, rfl, rfl⟩ := active
    simp [HeldKeys.mode, HeldKeys.level]
  · exact alternate_calls (start options store resolver host) events

end Session

end Overlay

end SourceMark
