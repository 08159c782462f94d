import SourceMark.Proofs.Overlay.Clicks
import SourceMark.Proofs.Page.Walks

/-!
# What clicks do to a page

A click is kept from the page exactly when it acts, and then it leaves one entry
in one of the two logs of the host.  Nothing else that happens to an overlay
touches the logs, so after any events they hold what came of the clicks, in
order.
-/

namespace SourceMark

namespace Page

/-- An origin is chosen as soon as there is one. -/
theorem target?_eq_none_iff {origins : List Origin} {level : TargetLevel} :
    target? origins level = none ↔ origins = [] := by
  cases origins with
  | nil =>
      cases level with
      | element => simp [target?]
      | parent => simp [target?]
  | cons first others =>
      cases level with
      | element => simp [target?]
      | parent => simp [target?, Option.or_eq_none_iff]

end Page

namespace Overlay

open Page

/-- A log that a host keeps. -/
inductive Log where
  | clipboard
  | navigations
deriving Repr, DecidableEq

/-- The entries of a log. -/
def Log.entries (host : Host) : Log → List String
  | clipboard => host.clipboard
  | navigations => host.navigations

/-- What came of a click as an entry of a log. -/
def ClickOutcome.recorded? : (log : Log) → ClickOutcome → Option String
  | .clipboard, copied _ text => some text
  | .navigations, opened _ address => some address
  | _, _ => none

namespace Controller

/-- The element that a click is meant for: the one at the given node or, without
a node, at what is hovered. -/
def meant? (controller : Controller) (host : Host) (target : Option NodeId) :
    Option NodeId :=
  (target.or controller.hovered).bind host.document.nearestElement?

/-- A click acts: clicks are intercepted, the overlay is active, the click is
meant for an element which is not part of the overlay's own switch, and the
origin is the one that is meant at the current level. -/
structure ActsOn (controller : Controller) (host : Host)
    (target : Option NodeId) (mode : Mode) (element : NodeId)
    (origin : Origin) : Prop where
  intercepts : controller.interceptsClicks = true
  meant : controller.meant? host target = some element
  free : ∀ outer, host.document.IsAround outer element →
    host.document.attribute? outer toggleAttribute = none
  chosen : ∃ level, controller.state = .active mode level ∧
    target? (controller.resolver.origins host.document element) level =
      some origin

/-- What comes of acting on an origin: one more entry in the log of the mode, and
nothing else. -/
def effect (controller : Controller) (host : Host) (origin : Origin) :
    Mode → ClickOutcome × Host
  | .copy =>
      let text := snippet host.document origin.element origin.location
      (.copied origin.location text,
        { host with clipboard := host.clipboard ++ [text] })
  | .editor =>
      let address := controller.preferences.editor.address origin.location
      (.opened origin.location address,
        { host with navigations := host.navigations ++ [address] })

theorem actOn_eq_effect (controller : Controller) (host : Host)
    (origin : Origin) :
    controller.actOn host origin =
      controller.effect host origin controller.keys.mode := by
  unfold actOn
  cases controller.keys.mode with
  | editor => rfl
  | copy => rfl

section Clicks

variable {controller : Controller} {host : Host} {target : Option NodeId}

theorem clickOrigin?_nearest (node : NodeId) :
    controller.clickOrigin? host node =
      (host.document.nearestElement? node).bind
        (controller.clickOrigin? host) := by
  cases nearest : host.document.nearestElement? node with
  | none =>
      simp [clickOrigin?, Document.closestWith?, Resolver.origins,
        Document.elementsAround, nearest, target?_eq_none_iff]
  | some element =>
      have itself := Document.nearestElement?_of_isElement
        (Document.isElement_of_nearestElement? nearest)
      simp [clickOrigin?, Document.closestWith?, Resolver.origins,
        Document.elementsAround, nearest, itself]

theorem bind_clickTarget? :
    (controller.clickTarget? host target).bind
        (controller.clickOrigin? host) =
      (controller.meant? host target).bind (controller.clickOrigin? host) := by
  cases target with
  | some node => rfl
  | none =>
      unfold clickTarget? meant?
      rw [Option.none_or, Option.bind_assoc]
      congr 1
      funext node
      exact clickOrigin?_nearest node

theorem isElement_of_meant? {element : NodeId}
    (meant : controller.meant? host target = some element) :
    host.document.isElement element = true := by
  obtain ⟨node, _, nearest⟩ := Option.bind_eq_some_iff.mp meant
  exact Document.isElement_of_nearestElement? nearest

theorem clickOrigin?_eq_some_iff {element : NodeId} {origin : Origin}
    (holds : host.document.isElement element = true) :
    controller.clickOrigin? host element = some origin ↔
      (∀ outer, host.document.IsAround outer element →
        host.document.attribute? outer toggleAttribute = none) ∧
      target? (controller.resolver.origins host.document element)
        controller.keys.level = some origin := by
  rw [← Document.closestWith?_eq_none_iff holds]
  unfold clickOrigin?
  split
  · next found => simp [found]
  · next missed => simp [missed]

/-- A click is handled by the held keys and not by the state, which comes to the
same where the state is the one that they ask for. -/
theorem actsOn_iff (settled : controller.state = controller.keys.state)
    {mode : Mode} {element : NodeId} {origin : Origin} :
    controller.ActsOn host target mode element origin ↔
      (controller.interceptsClicks = true ∧
        controller.keys.activate = true) ∧ controller.keys.mode = mode ∧
      controller.meant? host target = some element ∧
      controller.clickOrigin? host element = some origin := by
  constructor
  · intro acts
    obtain ⟨level, active, chosen⟩ := acts.chosen
    obtain ⟨held, rfl, rfl⟩ :=
      HeldKeys.state_eq_active.mp (settled.symm.trans active)
    exact ⟨⟨acts.intercepts, held⟩, rfl, acts.meant,
      (clickOrigin?_eq_some_iff (isElement_of_meant? acts.meant)).mpr
        ⟨acts.free, chosen⟩⟩
  · rintro ⟨⟨intercepts, held⟩, rfl, meant, found⟩
    obtain ⟨free, chosen⟩ :=
      (clickOrigin?_eq_some_iff (isElement_of_meant? meant)).mp found
    exact ⟨intercepts, meant, free, controller.keys.level,
      settled.trans (HeldKeys.state_eq_active.mpr ⟨held, rfl, rfl⟩), chosen⟩

theorem click_of_actsOn (settled : controller.state = controller.keys.state)
    {mode : Mode} {element : NodeId} {origin : Origin}
    (acts : controller.ActsOn host target mode element origin) :
    controller.click host target = controller.effect host origin mode := by
  obtain ⟨⟨intercepts, held⟩, rfl, meant, found⟩ :=
    (actsOn_iff settled).mp acts
  simp only [click, intercepts, held, Bool.and_self, if_true, bind_clickTarget?,
    meant, Option.bind_some, found]
  exact actOn_eq_effect controller host origin

theorem click_of_idle (settled : controller.state = controller.keys.state)
    (idle : ¬ ∃ mode element origin,
      controller.ActsOn host target mode element origin) :
    controller.click host target = (.passed, host) := by
  simp only [actsOn_iff settled] at idle
  unfold click
  split
  · next gates =>
      rw [bind_clickTarget?]
      split
      · next origin found =>
          obtain ⟨element, meant, chosen⟩ := Option.bind_eq_some_iff.mp found
          exact absurd ⟨_, element, origin, by simpa using gates, rfl, meant,
            chosen⟩ idle
      · rfl
  · rfl

/-- A click is kept from the page exactly when it acts. -/
theorem isIntercepted_iff (settled : controller.state = controller.keys.state) :
    (controller.click host target).1.isIntercepted = true ↔
      ∃ mode element origin,
        controller.ActsOn host target mode element origin := by
  constructor
  · intro kept
    by_contra idle
    rw [click_of_idle settled idle] at kept
    simp [ClickOutcome.isIntercepted] at kept
  · rintro ⟨mode, element, origin, acts⟩
    rw [click_of_actsOn settled acts]
    cases mode with
    | editor => rfl
    | copy => rfl

/-- A click acts as soon as there is any location at the element it is meant
for. -/
theorem exists_actsOn_iff :
    (∃ mode element origin,
      controller.ActsOn host target mode element origin) ↔
    controller.interceptsClicks = true ∧ controller.isActive = true ∧
      ∃ element, controller.meant? host target = some element ∧
        (∀ outer, host.document.IsAround outer element →
          host.document.attribute? outer toggleAttribute = none) ∧
        controller.resolver.origins host.document element ≠ [] := by
  constructor
  · rintro ⟨mode, element, origin, acts⟩
    obtain ⟨level, active, chosen⟩ := acts.chosen
    refine ⟨acts.intercepts, isActive_of_state active, element, acts.meant,
      acts.free, ?_⟩
    intro nothing
    rw [target?_eq_none_iff.mpr nothing] at chosen
    simp at chosen
  · rintro ⟨intercepts, active, element, meant, free, inhabited⟩
    cases state : controller.state with
    | inactive => simp [isActive, state] at active
    | active mode level =>
        have found : target?
            (controller.resolver.origins host.document element) level ≠ none :=
          mt target?_eq_none_iff.mp inhabited
        obtain ⟨origin, chosen⟩ := Option.ne_none_iff_exists'.mp found
        exact ⟨mode, element, origin, intercepts, meant, free, level, state,
          chosen⟩

/-- A click adds what came of it to the logs, and changes nothing else of the
host. -/
theorem entries_click (controller : Controller) (host : Host)
    (target : Option NodeId) (log : Log) :
    log.entries (controller.click host target).2 =
      log.entries host ++
        ((controller.click host target).1.recorded? log).toList := by
  unfold click
  split
  · split
    · unfold actOn
      split
      · cases log with
        | clipboard => rfl
        | navigations => simp [Log.entries, Host.copy, ClickOutcome.recorded?]
      · cases log with
        | clipboard => simp [Log.entries, Host.navigate, ClickOutcome.recorded?]
        | navigations => rfl
    · simp [ClickOutcome.recorded?]
  · simp [ClickOutcome.recorded?]

end Clicks

end Controller

namespace Session

/-- What comes of an event, when it is a click. -/
def outcome? (session : Session) : Event → Option ClickOutcome
  | .click target => some (session.controller.click session.host target).1
  | _ => none

/-- What comes of the clicks among some events, in order. -/
def outcomes : Session → List Event → List ClickOutcome
  | _, [] => []
  | session, event :: events =>
      (session.outcome? event).toList ++ outcomes (session.step event) events

/-- No event adds to a log but a click, and that what came of it. -/
theorem entries_step (session : Session) (event : Event) (log : Log) :
    log.entries (session.step event).host =
      log.entries session.host ++
        (session.outcome? event).toList.filterMap
          (ClickOutcome.recorded? log) := by
  cases event with
  | click target =>
      have added := session.controller.entries_click session.host target log
      simp only [step, outcome?, Option.toList_some]
      rw [added]
      cases entry :
          (session.controller.click session.host target).1.recorded? log with
      | none => simp [entry]
      | some text => simp [entry]
  | key name code down => simp [step, outcome?]
  | move pointer target => simp [step, outcome?]
  | blur => simp [step, outcome?]
  | setEditor editor => simp [step, outcome?]
  | setModifier modifier => simp [step, outcome?]
  | toggleHighlight => simp [step, outcome?]
  | resolve resolver => simp [step, outcome?]
  | change change =>
      cases log with
      | clipboard => simp [step, outcome?, Log.entries]
      | navigations => simp [step, outcome?, Log.entries]
  | layOut layout =>
      cases log with
      | clipboard => simp [step, outcome?, Log.entries]
      | navigations => simp [step, outcome?, Log.entries]

theorem entries_run (session : Session) (events : List Event) (log : Log) :
    log.entries (session.run events).host =
      log.entries session.host ++
        (session.outcomes events).filterMap (ClickOutcome.recorded? log) := by
  induction events generalizing session with
  | nil => simp [run, outcomes]
  | cons event events induction =>
      have later := induction (session.step event)
      rw [entries_step, List.append_assoc, ← List.filterMap_append] at later
      exact later

/-- After any events a click at any page is kept from the page exactly when
clicks are intercepted, the overlay is active, and the click is meant for an
element outside of the overlay's own switch at which there is a location.  Then
it adds one entry to the log of its mode, for the location that is meant at the
current level; any other click leaves the host as it is.  No click changes the
controller, and the logs hold what came of the clicks that were kept, in
order. -/
theorem intercepts_iff_acts (options : Options) (store : Store)
    (resolver : Resolver) (host : Host) (events : List Event) :
    let session := (start options store resolver host).run events
    let controller := session.controller
    (∀ (page : Host) (target : Option NodeId),
      let click := controller.click page target
      (click.1.isIntercepted = true ↔
        options.interceptsClicks = true ∧ controller.isActive = true ∧
          ∃ element, controller.meant? page target = some element ∧
            (∀ outer, page.document.IsAround outer element →
              page.document.attribute? outer toggleAttribute = none) ∧
            controller.resolver.origins page.document element ≠ []) ∧
      (click.1.isIntercepted = true →
        ∃ mode level element origin,
          controller.state = .active mode level ∧
            controller.meant? page target = some element ∧
            target? (controller.resolver.origins page.document element) level =
              some origin ∧
            click = controller.effect page origin mode) ∧
      (click.1.isIntercepted = false → click = (.passed, page))) ∧
    (∀ target, controller.meant? session.host target =
      match target with
      | some node => session.host.document.nearestElement? node
      | none => controller.hovered) ∧
    (∀ target, (session.step (.click target)).controller = controller) ∧
    (∀ log : Log, log.entries session.host =
      log.entries host ++
        ((start options store resolver host).outcomes events).filterMap
          (ClickOutcome.recorded? log)) := by
  intro session controller
  have settled : session.IsSettled :=
    isSettled_run (isSettled_start options store resolver host) events
  have intercepting : controller.interceptsClicks = options.interceptsClicks :=
    run_interceptsClicks _ events
  refine ⟨?_, ?_, fun target => rfl, entries_run _ events⟩
  · intro page target click
    have kept : click.1.isIntercepted = true ↔
        ∃ mode element origin,
          controller.ActsOn page target mode element origin :=
      Controller.isIntercepted_iff settled.state
    refine ⟨?_, ?_, ?_⟩
    · rw [← intercepting]
      exact kept.trans Controller.exists_actsOn_iff
    · intro intercepted
      obtain ⟨mode, element, origin, acts⟩ := kept.mp intercepted
      obtain ⟨level, active, chosen⟩ := acts.chosen
      exact ⟨mode, level, element, origin, active, acts.meant, chosen,
        Controller.click_of_actsOn settled.state acts⟩
    · intro passed
      apply Controller.click_of_idle settled.state
      rw [← kept, passed]
      simp
  · intro target
    cases target with
    | some node => rfl
    | none =>
        change controller.hovered.bind _ = controller.hovered
        cases hovered : controller.hovered with
        | none => rfl
        | some node =>
            exact Document.nearestElement?_of_isElement
              (settled.hovers node hovered)

/-- A card of a page whose text is clicked twice, with Control to open the card
and with Meta and Alt to copy the part of the page around it.  A third click
would open the card again. -/
theorem intercepts_iff_acts_card :
    let host := Host.ofDocument Document.empty
    let page : List Event :=
      [.change (.createElement "main"),
        .change (.setAttribute ⟨1⟩ "data-locatorjs" "/app.tsx:3:2"),
        .change (.append ⟨0⟩ ⟨1⟩), .change (.createElement "p"),
        .change (.setAttribute ⟨2⟩ "data-locatorjs" "/card.tsx:7:4"),
        .change (.append ⟨1⟩ ⟨2⟩), .change (.createText "a"),
        .change (.append ⟨2⟩ ⟨3⟩)]
    let clicks : List Event :=
      [.setModifier .any, .key "Control" 1 true, .click (some ⟨3⟩),
        .key "Alt" 1 true, .key "Meta" 1 true, .click (some ⟨3⟩), .blur,
        .click (some ⟨3⟩), .key "Control" 1 true]
    let begun := start .standard (.memory []) Resolver.plain host
    let session := begun.run (page ++ clicks)
    let click := session.controller.click session.host (some ⟨3⟩)
    let address := "vscode://file//card.tsx:7:4"
    let text := "/app.tsx:3:2\n<main>\n  <p>a</p>\n</main>"
    begun.outcomes (page ++ clicks) =
        [.opened ⟨"/card.tsx", 7, 4⟩ address,
          .copied ⟨"/app.tsx", 3, 2⟩ text, .passed] ∧
      Log.clipboard.entries session.host = [text] ∧
      Log.navigations.entries session.host = [address] ∧
      click.1.isIntercepted = true ∧
      ∃ origin, click =
        session.controller.effect session.host origin .editor := by
  intro host page clicks begun session click address text
  have outcomes : begun.outcomes (page ++ clicks) =
      [.opened ⟨"/card.tsx", 7, 4⟩ address,
        .copied ⟨"/app.tsx", 3, 2⟩ text, .passed] := by
    decide +kernel
  obtain ⟨clicked, _, _, logs⟩ := intercepts_iff_acts .standard (.memory [])
    Resolver.plain host (page ++ clicks)
  have copies : Log.clipboard.entries session.host = [text] := by
    rw [logs .clipboard, outcomes]
    rfl
  have openings : Log.navigations.entries session.host = [address] := by
    rw [logs .navigations, outcomes]
    rfl
  have kept : click.1.isIntercepted = true := by decide +kernel
  have active : session.controller.state = .active .editor .element := by
    decide +kernel
  obtain ⟨_, acts, _⟩ := clicked session.host (some ⟨3⟩)
  obtain ⟨mode, level, _, origin, state, _, _, result⟩ := acts kept
  obtain ⟨rfl, -⟩ : Mode.editor = mode ∧ TargetLevel.element = level := by
    simpa using active.symm.trans state
  exact ⟨outcomes, copies, openings, kept, origin, result⟩

end Session

end Overlay

end SourceMark
