import Mathlib.Data.List.Induction
import SourceMark.Proofs.Overlay.Clicks
import SourceMark.Proofs.Overlay.HeldKeys

/-!
# What is hovered when the overlay becomes active

The host is asked for the node under the pointer when the overlay becomes active.
An element that it finds is hovered from then on.  When it finds none, what was
hovered before stays hovered, and that is what was hovered when the overlay was
active last, however far the pointer has moved since.
-/

namespace SourceMark

namespace Overlay

open Page

/-- An event, and how the page is laid out when it happens. -/
structure Moment where
  layout : Layout
  event : Event

namespace Event

/-- Where the pointer is after an event. -/
def pointer (before : Point) : Event → Point
  | move pointer _ => pointer
  | _ => before

end Event

namespace Moment

/-- Where the pointer is after some moments. -/
def pointerAfter (before : Point) (moments : List Moment) : Point :=
  moments.foldl (fun pointer moment => moment.event.pointer pointer) before

end Moment

namespace Controller

variable (controller : Controller) (host : Host)

theorem blur_hovered : controller.blur.hovered = controller.hovered := by
  unfold blur
  simp only
  split
  · rfl
  · rfl

variable {controller host}

theorem isActive_eq_false_iff :
    controller.isActive = false ↔ controller.state = .inactive := by
  simp [isActive]

/-- Where following the keys leaves the overlay inactive, it hovers over what it
hovered over before. -/
theorem follow_hovered_of_inactive
    (inactive : (controller.follow host).isActive = false) :
    (controller.follow host).hovered = controller.hovered := by
  unfold follow at inactive ⊢
  split at inactive
  · simp [activate, isActive] at inactive
  · rfl
  · rfl
  · rfl

theorem key_hovered_of_inactive {name : String} {code : Nat} {down : Bool}
    (inactive : (controller.key host name code down).isActive = false) :
    (controller.key host name code down).hovered = controller.hovered := by
  unfold key at inactive ⊢
  split at inactive
  · next honoured =>
      rw [if_pos honoured]
      exact follow_hovered_of_inactive inactive
  · next ignored => rw [if_neg ignored]

theorem move_hovered_of_inactive {pointer : Point} {target : Option NodeId}
    (inactive : (controller.move host pointer target).isActive = false) :
    (controller.move host pointer target).hovered = controller.hovered := by
  have before : controller.isActive = false := by
    rw [isActive_eq_false_iff, move_state] at inactive
    exact isActive_eq_false_iff.mpr inactive
  unfold move
  simp only
  rw [if_neg]
  have same : isActive { controller with pointer } = controller.isActive := rfl
  simp [same, before]

theorem follow_hovered_of_active (before : controller.isActive = false)
    (active : (controller.follow host).isActive = true)
    (highlighted : controller.preferences.highlight = true) :
    (controller.follow host).hovered =
      (host.pointedElement? controller.pointer).or controller.hovered := by
  have inactive := isActive_eq_false_iff.mp before
  unfold follow at active ⊢
  split at active
  · simp [activate, highlighted]
  · next other _ => simp [inactive] at other
  · next other _ => simp [inactive] at other
  · exact absurd (before.symm.trans active) (by decide)

/-- A key that turns the overlay on makes it hover over the element that the host
finds where the pointer was last, if it finds one. -/
theorem key_hovered_of_active {name : String} {code : Nat} {down : Bool}
    (before : controller.isActive = false)
    (active : (controller.key host name code down).isActive = true)
    (highlighted : controller.preferences.highlight = true) :
    (controller.key host name code down).hovered =
      (host.pointedElement? controller.pointer).or controller.hovered := by
  unfold key at active ⊢
  split at active
  · next honoured =>
      rw [if_pos honoured]
      exact follow_hovered_of_active before active highlighted
  · exact absurd (before.symm.trans active) (by decide)

/-- An active overlay with the highlight on shows a badge for what it hovers
over. -/
theorem exists_display? (active : controller.isActive = true)
    (highlighted : controller.preferences.highlight = true) :
    ∃ shown, controller.display? host = some shown ∧
      shown.badge = (controller.hovered.bind fun element =>
        target? (controller.resolver.origins host.document element)
          shown.level).map (badge host.document shown.mode shown.level) := by
  cases state : controller.state with
  | inactive =>
      have inactive := isActive_eq_false_iff.mpr state
      exact absurd (inactive.symm.trans active) (by decide)
  | active mode level =>
      unfold display?
      rw [state]
      refine ⟨_, rfl, ?_⟩
      simp only [shownOrigin?_of_highlight _ highlighted]

end Controller

namespace Session

/-! ## Steps -/

theorem step_pointer (session : Session) (event : Event) :
    (session.step event).controller.pointer =
      event.pointer session.controller.pointer := by
  have steady : Controller.IsSteady Controller.pointer :=
    fun _ _ _ _ _ _ => rfl
  cases event with
  | key name code down => exact steady.key _ _ name code down
  | move pointer target => exact steady.move _ _ pointer target
  | blur => exact steady.blur _
  | _ => rfl

/-- A step after which the overlay is inactive keeps what is hovered. -/
theorem step_hovered_of_inactive (session : Session) {event : Event}
    (inactive : (session.step event).controller.isActive = false) :
    (session.step event).controller.hovered = session.controller.hovered := by
  cases event with
  | key name code down => exact Controller.key_hovered_of_inactive inactive
  | move pointer target => exact Controller.move_hovered_of_inactive inactive
  | blur => exact Controller.blur_hovered _
  | _ => rfl

/-- Only a key turns the overlay on. -/
theorem step_hovered_of_active (session : Session) {event : Event}
    (before : session.controller.isActive = false)
    (active : (session.step event).controller.isActive = true)
    (highlighted : session.controller.preferences.highlight = true) :
    (session.step event).controller.hovered =
        (session.host.pointedElement? session.controller.pointer).or
          session.controller.hovered ∧
      (session.step event).host = session.host ∧
      (session.step event).controller.preferences.highlight = true := by
  cases event with
  | key name code down =>
      refine ⟨Controller.key_hovered_of_active before active highlighted, rfl, ?_⟩
      simp only [step, Controller.key_preferences]
      exact highlighted
  | move pointer target =>
      have unchanged := Controller.move_state session.controller session.host
        pointer target
      rw [Controller.isActive_eq_false_iff, ← unchanged,
        ← Controller.isActive_eq_false_iff] at before
      exact absurd (before.symm.trans active) (by decide)
  | blur =>
      have settled := Controller.blur_state session.controller
      rw [Controller.blur_keys] at settled
      have inactive := Controller.isActive_eq_false_iff.mpr settled
      exact absurd (inactive.symm.trans active) (by decide)
  | _ => exact absurd (before.symm.trans active) (by decide)

/-! ## Moments -/

/-- The session on a page that is laid out in some way. -/
def laidOut (session : Session) (layout : Layout) : Session :=
  session.step (.layOut layout)

/-- The session after a moment. -/
def live (session : Session) (moment : Moment) : Session :=
  (session.laidOut moment.layout).step moment.event

/-- The session after some moments. -/
def liveAll (session : Session) (moments : List Moment) : Session :=
  moments.foldl live session

/-- The element under the pointer. -/
def under? (session : Session) (layout : Layout) : Option NodeId :=
  (layout session.controller.pointer).bind session.host.document.nearestElement?

/-- The overlay hovered over an element when it was active last. -/
inductive LeavesBehind (session : Session) (element : NodeId) :
    List Moment → Prop where
  | active {moments : List Moment} :
      (session.liveAll moments).controller.isActive = true →
      (session.liveAll moments).controller.hovered = some element →
      LeavesBehind session element moments
  | later {moments : List Moment} {moment : Moment} :
      LeavesBehind session element moments →
      (session.liveAll (moments ++ [moment])).controller.isActive = false →
      LeavesBehind session element (moments ++ [moment])

section Moments

variable {session : Session} {moments : List Moment} {moment : Moment}

theorem liveAll_concat :
    session.liveAll (moments ++ [moment]) =
      (session.liveAll moments).live moment :=
  List.foldl_append

theorem liveAll_pointer :
    (session.liveAll moments).controller.pointer =
      Moment.pointerAfter session.controller.pointer moments := by
  induction moments generalizing session with
  | nil => rfl
  | cons moment moments induction =>
      have later := @induction (session.live moment)
      have pointer : (session.live moment).controller.pointer =
          moment.event.pointer session.controller.pointer :=
        step_pointer _ moment.event
      rw [pointer] at later
      exact later

theorem live_hovered_of_inactive
    (inactive : (session.live moment).controller.isActive = false) :
    (session.live moment).controller.hovered = session.controller.hovered :=
  step_hovered_of_inactive (session.laidOut moment.layout) inactive

/-- Without activity nothing changes what is hovered, so it is always what was
hovered when the overlay was active last. -/
theorem leavesBehind_iff {element : NodeId}
    (fresh : session.controller.hovered = none) :
    session.LeavesBehind element moments ↔
      (session.liveAll moments).controller.hovered = some element := by
  induction moments using List.reverseRecOn with
  | nil =>
      constructor
      · generalize whole : ([] : List Moment) = moments
        rintro (⟨active, hovered⟩ | ⟨left, _⟩)
        · exact hovered
        · simp at whole
      · intro hovered
        exact absurd (fresh.symm.trans hovered) (by simp)
  | append_singleton moments moment induction =>
      cases now : (session.liveAll (moments ++ [moment])).controller.isActive with
      | true =>
          constructor
          · generalize whole : moments ++ [moment] = all at now
            rintro (⟨_, hovered⟩ | ⟨_, ended⟩)
            · exact hovered
            · exact absurd (ended.symm.trans now) (by decide)
          · exact .active now
      | false =>
          have kept : (session.liveAll (moments ++ [moment])).controller.hovered =
              (session.liveAll moments).controller.hovered := by
            rw [liveAll_concat] at now ⊢
            exact live_hovered_of_inactive now
          rw [kept, ← induction]
          constructor
          · generalize whole : moments ++ [moment] = all at now
            rintro (⟨active, _⟩ | ⟨left, _⟩)
            · exact absurd (now.symm.trans active) (by decide)
            · obtain ⟨rfl, -⟩ := List.append_inj' whole rfl
              exact left
          · intro left
            exact .later left now

end Moments

/-- Whenever the overlay becomes active with the highlight on, it hovers over the
element that lies where the pointer was moved last.  When none lies there it
hovers over the element that it hovered over when it was active last, and over
nothing only if there is no such element.  The badge is for what it hovers
over. -/
theorem hovered_of_activation (options : Options) (store : Store)
    (resolver : Resolver) (host : Host) (moments : List Moment)
    (layout : Layout) (event : Event) :
    let begun := start options store resolver host
    let session := begun.liveAll moments
    let next := session.live ⟨layout, event⟩
    let under := (layout (Moment.pointerAfter ⟨0, 0⟩ moments)).bind
      session.host.document.nearestElement?
    session.controller.isActive = false →
    next.controller.isActive = true →
    session.controller.preferences.highlight = true →
      (∀ element, under = some element →
        next.controller.hovered = some element) ∧
      (∀ element, under = none →
        (next.controller.hovered = some element ↔
          begun.LeavesBehind element moments)) ∧
      (next.controller.hovered = under ↔
        under ≠ none ∨ ∀ element, ¬ begun.LeavesBehind element moments) ∧
      ∃ shown, next.controller.display? next.host = some shown ∧
        shown.badge = (next.controller.hovered.bind fun element =>
          target? (next.controller.resolver.origins next.host.document element)
            shown.level).map
          (badge next.host.document shown.mode shown.level) := by
  intro begun session next under inactive active highlighted
  have left : ∀ element, begun.LeavesBehind element moments ↔
      session.controller.hovered = some element :=
    fun element => leavesBehind_iff rfl
  have pointer : session.controller.pointer =
      Moment.pointerAfter ⟨0, 0⟩ moments := liveAll_pointer
  obtain ⟨hovered, _, highlight⟩ := step_hovered_of_active
    (session.laidOut layout) inactive active highlighted
  have found : (session.laidOut layout).host.pointedElement?
      (session.laidOut layout).controller.pointer = under := by
    simp only [under, ← pointer]
    rfl
  have result : next.controller.hovered = under.or session.controller.hovered := by
    rw [← found]
    exact hovered
  refine ⟨?_, ?_, ?_, Controller.exists_display? active highlight⟩
  · intro element lies
    rw [result, lies, Option.some_or]
  · intro element nothing
    rw [result, nothing, Option.none_or]
    exact (left element).symm
  · rw [result]
    cases lies : under with
    | some element => simp
    | none =>
        simp only [left, Option.none_or, ne_eq, not_true_eq_false, false_or]
        exact Option.eq_none_iff_forall_ne_some

/-- A paragraph that lies at one point only is hovered while Control is held; the
key is released, the pointer moves to where nothing lies, and Meta is pressed. -/
theorem hovered_of_activation_left :
    let options := { Options.standard with modifier := some .any }
    let layout : Layout := fun point => if point = ⟨1, 2⟩ then some ⟨1⟩ else none
    let moments : List Moment :=
      [.change (.createElement "p"), .move ⟨1, 2⟩ (some ⟨1⟩),
        .key "Control" 1 true, .key "Control" 1 false,
        .move ⟨9, 9⟩ none].map (Moment.mk layout)
    let begun := start options (.memory []) Resolver.plain
      (Host.ofDocument Document.empty)
    let session := begun.liveAll moments
    let next := session.live ⟨layout, .key "Meta" 2 true⟩
    session.controller.isActive = false ∧ next.controller.isActive = true ∧
      session.controller.preferences.highlight = true ∧
      begun.LeavesBehind ⟨1⟩ moments ∧
      next.controller.hovered = some ⟨1⟩ ∧ next.under? layout = none := by
  intro options layout moments begun session next
  have inactive : session.controller.isActive = false := by decide +kernel
  have active : next.controller.isActive = true := by decide +kernel
  have highlighted : session.controller.preferences.highlight = true := by
    decide +kernel
  have left : begun.LeavesBehind ⟨1⟩ moments := by
    have lit : begun.LeavesBehind ⟨1⟩ (moments.take 3) :=
      .active (by decide +kernel) (by decide +kernel)
    have released : begun.LeavesBehind ⟨1⟩ (moments.take 4) :=
      .later lit (by decide +kernel)
    exact .later released (by decide +kernel)
  obtain ⟨_, unfound, _, _⟩ := hovered_of_activation options (.memory [])
    Resolver.plain (Host.ofDocument Document.empty) moments layout
    (.key "Meta" 2 true) inactive active highlighted
  exact ⟨inactive, active, highlighted, left,
    (unfound ⟨1⟩ (by decide +kernel)).mpr left, by decide +kernel⟩

/-- An overlay that becomes active may hover over an element that the pointer has
left. -/
theorem not_hovered_eq_under :
    ¬ ∀ (options : Options) (store : Store) (resolver : Resolver)
        (host : Host) (moments : List Moment) (layout : Layout)
        (event : Event),
      let session := (start options store resolver host).liveAll moments
      let next := session.live ⟨layout, event⟩
      session.controller.isActive = false →
      next.controller.isActive = true →
      session.controller.preferences.highlight = true →
        next.controller.hovered =
          (layout (Moment.pointerAfter ⟨0, 0⟩ moments)).bind
            session.host.document.nearestElement? := by
  intro claimed
  let options := { Options.standard with modifier := some .any }
  let host := Host.ofDocument Document.empty
  let layout : Layout := fun _ => none
  let moments : List Moment :=
    [.change (.createElement "p"), .key "Control" 1 true,
      .move ⟨1, 2⟩ (some ⟨1⟩), .key "Control" 1 false,
      .move ⟨9, 9⟩ none].map (Moment.mk layout)
  have hovered := claimed options (.memory []) Resolver.plain host moments
    layout (.key "Control" 1 true) (by decide +kernel) (by decide +kernel)
    (by decide +kernel)
  have stale : (((start options (.memory []) Resolver.plain host).liveAll
      moments).live ⟨layout, .key "Control" 1 true⟩).controller.hovered =
        some ⟨1⟩ := by
    decide +kernel
  exact absurd (hovered.symm.trans stale) (by simp [layout])

end Session

end Overlay

end SourceMark
