import SourceMark.Overlay.Display
import SourceMark.Proofs.Overlay.Sessions

/-!
# Clicks do what is shown

What is shown is taken from the state that the controller keeps, and what a
click does is taken from the held keys.  The two are linked by the state being
settled, so a click at the hovered element acts on the location in the badge,
and does nothing when there is no badge.
-/

namespace SourceMark

namespace Overlay

open Page

namespace Controller

variable {controller : Controller} {host : Host}

/-- What the overlay shows in a settled state, in terms of the held keys. -/
theorem display?_eq_some {shown : Display}
    (settled : controller.state = controller.keys.state)
    (displayed : controller.display? host = some shown) :
    controller.keys.activate = true ∧ shown.mode = controller.keys.mode ∧
      shown.highlight = controller.preferences.highlight ∧
      shown.badge = (controller.shownOrigin? host controller.keys.level).map
        (badge host.document controller.keys.mode controller.keys.level) := by
  unfold display? at displayed
  split at displayed
  · simp at displayed
  · next mode level active =>
      obtain ⟨held, rfl, rfl⟩ :=
        HeldKeys.state_eq_active.mp (settled.symm.trans active)
      obtain rfl := by simpa using displayed
      exact ⟨held, rfl, rfl, rfl⟩

theorem shownOrigin?_of_highlight (level : TargetLevel)
    (highlighted : controller.preferences.highlight = true) :
    controller.shownOrigin? host level = controller.hovered.bind fun element =>
      target? (controller.resolver.origins host.document element) level := by
  simp [shownOrigin?, highlighted]

theorem click_of_origin {origin : Origin}
    (intercepts : controller.interceptsClicks = true)
    (held : controller.keys.activate = true)
    (found : controller.hovered.bind (controller.clickOrigin? host) =
      some origin) :
    controller.click host none = controller.actOn host origin := by
  simp [click, clickTarget?, intercepts, held, found]

theorem click_of_no_origin
    (missed : controller.hovered.bind (controller.clickOrigin? host) = none) :
    controller.click host none = (.passed, host) := by
  unfold click
  split
  · simp only [clickTarget?, missed]
  · rfl

/-- A click at a hovered element that is not part of the overlay's own switch
acts on the origin that is shown. -/
theorem clickOrigin?_eq_shown {element : NodeId}
    (absent : host.document.closestWith? element toggleAttribute = none) :
    controller.clickOrigin? host element =
      target? (controller.resolver.origins host.document element)
        controller.keys.level := by
  simp [clickOrigin?, absent]

/-- Where no origin is found a click finds none either. -/
theorem clickOrigin?_eq_none {element : NodeId}
    (unknown : target? (controller.resolver.origins host.document element)
      controller.keys.level = none) :
    controller.clickOrigin? host element = none := by
  unfold clickOrigin?
  split
  · rfl
  · exact unknown

end Controller

namespace Session

theorem step_interceptsClicks (session : Session) (event : Event) :
    (session.step event).controller.interceptsClicks =
      session.controller.interceptsClicks := by
  have steady : Controller.IsSteady Controller.interceptsClicks :=
    fun _ _ _ _ _ _ => rfl
  cases event with
  | key name code down => exact steady.key _ _ name code down
  | move pointer target => exact steady.move _ _ pointer target
  | blur => exact steady.blur _
  | click target => rfl
  | setEditor editor => rfl
  | setModifier modifier => rfl
  | toggleHighlight => rfl
  | resolve resolver => rfl
  | change change => rfl
  | layOut layout => rfl

theorem run_interceptsClicks (session : Session) (events : List Event) :
    (session.run events).controller.interceptsClicks =
      session.controller.interceptsClicks := by
  induction events generalizing session with
  | nil => rfl
  | cons event events induction =>
      exact (induction (session.step event)).trans
        (step_interceptsClicks session event)

/-- After any events, a click at the pointer does what the overlay shows. -/
theorem click_of_display (options : Options) (store : Store)
    (resolver : Resolver) (host : Host) (events : List Event)
    (intercepts : options.interceptsClicks = true) {shown : Display}
    (displayed :
      let session := (start options store resolver host).run events
      session.controller.display? session.host = some shown)
    (highlighted : shown.highlight = true) :
    let session := (start options store resolver host).run events
    let document := session.host.document
    (∀ badge, shown.badge = some badge →
      (∀ hovered ∈ session.controller.hovered, ∀ outer,
        document.IsAround outer hovered →
          document.attribute? outer toggleAttribute = none) →
      session.controller.click session.host none =
        match shown.mode with
        | .copy =>
            let text := snippet document badge.element badge.location
            (.copied badge.location text, session.host.copy text)
        | .editor =>
            let address :=
              session.controller.preferences.editor.address badge.location
            (.opened badge.location address, session.host.navigate address)) ∧
      (shown.badge = none →
        session.controller.click session.host none =
          (.passed, session.host)) := by
  intro session document
  have settled : session.IsSettled :=
    isSettled_run (isSettled_start options store resolver host) events
  have intercepting : session.controller.interceptsClicks = true :=
    (run_interceptsClicks _ events).trans intercepts
  have displayed : session.controller.display? session.host = some shown :=
    displayed
  obtain ⟨held, mode, highlight, shownBadge⟩ :=
    Controller.display?_eq_some settled.state displayed
  rw [highlighted] at highlight
  rw [Controller.shownOrigin?_of_highlight _ highlight.symm] at shownBadge
  constructor
  · intro badge found free
    rw [found] at shownBadge
    obtain ⟨origin, target, rfl⟩ := Option.map_eq_some_iff.mp shownBadge.symm
    obtain ⟨element, hovered, target⟩ := Option.bind_eq_some_iff.mp target
    have absent : document.closestWith? element toggleAttribute = none :=
      Document.closestWith?_eq_none (settled.hovers element hovered)
        (free element hovered)
    have clicked : session.controller.hovered.bind
        (session.controller.clickOrigin? session.host) = some origin := by
      rw [hovered, Option.bind_some, Controller.clickOrigin?_eq_shown absent]
      exact target
    rw [Controller.click_of_origin intercepting held clicked, mode]
    rfl
  · intro missing
    rw [missing] at shownBadge
    have unknown := Option.map_eq_none_iff.mp shownBadge.symm
    apply Controller.click_of_no_origin
    apply Option.bind_eq_none_iff.mpr
    intro element hovered
    apply Controller.clickOrigin?_eq_none
    exact Option.bind_eq_none_iff.mp unknown element hovered

/-- A card of a page, pointed out at its text while Control and Alt are held;
then Meta comes in, so that a copy of the page's part is asked for. -/
theorem click_of_display_card :
    let options := Options.standard
    let host := Host.ofDocument Document.empty
    let events : List Event :=
      [.change (.createElement "MAIN"),
        .change (.setAttribute ⟨1⟩ "data-locatorjs" "/app.tsx:3:2"),
        .change (.append ⟨0⟩ ⟨1⟩), .change (.createElement "p"),
        .change (.setAttribute ⟨2⟩ "data-locatorjs" "/card.tsx:7:4"),
        .change (.append ⟨1⟩ ⟨2⟩), .change (.createText "a < b"),
        .change (.append ⟨2⟩ ⟨3⟩), .setModifier .any, .key "Alt" 2 true,
        .key "Control" 2 true, .move ⟨4, 5⟩ (some ⟨3⟩),
        .key "Meta" 1 true]
    let session :=
      (start options (.memory []) Resolver.plain host).run events
    ∃ shown badge, options.interceptsClicks = true ∧
      session.controller.display? session.host = some shown ∧
      shown.highlight = true ∧ shown.badge = some badge ∧
      badge.element = ⟨1⟩ ∧
      session.controller.click session.host none =
        (.copied badge.location
            "/app.tsx:3:2\n<main>\n  <p>a &lt; b</p>\n</main>",
          session.host.copy
            "/app.tsx:3:2\n<main>\n  <p>a &lt; b</p>\n</main>") := by
  intro options host events session
  have displayed : session.controller.display? session.host = some {
      mode := .copy
      level := .parent
      accent := accent .copy .parent
      highlight := true
      crosshair := some ⟨4, 5⟩
      badge := some {
        element := ⟨1⟩
        location := { file := "/app.tsx", line := 3, column := 2 }
        tagLabel := "main"
        modeLabel := "Parent + Copy"
        fileLabel := "/app.tsx:3" } } := by
    decide +kernel
  have text : snippet session.host.document ⟨1⟩ ⟨"/app.tsx", 3, 2⟩ =
      "/app.tsx:3:2\n<main>\n  <p>a &lt; b</p>\n</main>" := by
    decide +kernel
  have acts := click_of_display options (.memory []) Resolver.plain host events
    rfl displayed rfl
  refine ⟨_, _, rfl, displayed, rfl, rfl, rfl, ?_⟩
  have clicked := acts.1 _ rfl ?_
  · rw [clicked, ← text]
  · intro hovered member outer around
    obtain rfl : (⟨2⟩ : NodeId) = hovered := by
      have known : session.controller.hovered = some ⟨2⟩ := by decide +kernel
      exact Option.some.inj (known.symm.trans member)
    cases around with
    | self element => decide +kernel
    | parent found around =>
        have known : session.host.document.parentElement? ⟨2⟩ = some ⟨1⟩ := by
          decide +kernel
        obtain rfl := Option.some.inj (known.symm.trans found)
        cases around with
        | self element => decide +kernel
        | parent found around =>
            have top : session.host.document.parentElement? ⟨1⟩ = none := by
              decide +kernel
            exact absurd (top.symm.trans found) (by simp)

end Session

end Overlay

end SourceMark
