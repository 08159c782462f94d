import Mathlib.Data.List.Induction
import SourceMark.Proofs.Overlay.HeldKeys
import SourceMark.Proofs.Overlay.Stores

/-!
# Preferences outlive their session

Preferences are read once, when a controller is made, and each is written when it
is chosen.  Reading is lenient and writing is not; what is read back from a
written preference is the preference itself.  So a controller that is made anew on
the same store has the preferences of the old one, whatever the store held at
first, unless an option stood in for a stored preference that was never chosen.
-/

namespace SourceMark

namespace Overlay

open Page

/-- The things that can be preferred. -/
inductive Preference where
  | highlight
  | editor
  | modifier
deriving Repr, DecidableEq

namespace Preference

/-- The key under which a preference is stored. -/
def key : Preference → String
  | highlight => Preferences.highlightKey
  | editor => Preferences.editorKey
  | modifier => Preferences.modifierKey

/-- The text by which a preference is stored. -/
def text (preferences : Preferences) : Preference → String
  | highlight => Preferences.flagText preferences.highlight
  | editor => preferences.editor.name
  | modifier => preferences.modifier.name

/-- The same is preferred. -/
def Agrees (first second : Preferences) : Preference → Prop
  | highlight => first.highlight = second.highlight
  | editor => first.editor = second.editor
  | modifier => first.modifier = second.modifier

theorem key_injective {first second : Preference}
    (same : first.key = second.key) : first = second := by
  revert same
  cases first with
  | highlight => cases second <;> decide
  | editor => cases second <;> decide
  | modifier => cases second <;> decide

variable {preference : Preference} {first second third : Preferences}

theorem Agrees.refl (preferences : Preferences) (preference : Preference) :
    preference.Agrees preferences preferences := by
  cases preference with
  | highlight => rfl
  | editor => rfl
  | modifier => rfl

theorem Agrees.trans (left : preference.Agrees first second)
    (right : preference.Agrees second third) :
    preference.Agrees first third := by
  cases preference with
  | highlight => exact Eq.trans left right
  | editor => exact Eq.trans left right
  | modifier => exact Eq.trans left right

theorem Agrees.symm (agrees : preference.Agrees first second) :
    preference.Agrees second first := by
  cases preference with
  | highlight => exact Eq.symm agrees
  | editor => exact Eq.symm agrees
  | modifier => exact Eq.symm agrees

theorem Agrees.text_eq (agrees : preference.Agrees first second) :
    preference.text first = preference.text second := by
  cases preference with
  | highlight => exact congrArg Preferences.flagText agrees
  | editor => exact congrArg Editor.name agrees
  | modifier => exact congrArg ModifierSide.name agrees

theorem eq_of_agrees
    (agrees : ∀ preference : Preference, preference.Agrees first second) :
    first = second := by
  have highlights : first.highlight = second.highlight := agrees .highlight
  have editors : first.editor = second.editor := agrees .editor
  have modifiers : first.modifier = second.modifier := agrees .modifier
  cases first
  cases second
  simp_all

end Preference

theorem Editor.ofName?_name (editor : Editor) :
    ofName? editor.name = .ok editor := by
  have plain : Text.lowerString (Text.trimString editor.name) =
      editor.name := by
    cases editor <;> decide +kernel
  unfold ofName?
  rw [plain]
  cases editor <;> rfl

theorem ModifierSide.ofName?_name (side : ModifierSide) :
    ofName? side.name = .ok side := by
  have plain : Text.lowerString (Text.trimString side.name) = side.name := by
    cases side <;> decide +kernel
  unfold ofName?
  rw [plain]
  cases side <;> rfl

namespace Preferences

theorem flagText_beq (value : Bool) :
    (flagText value == flagText true) = value := by
  cases value <;> decide

/-- A preference is read back from the text by which it is stored. -/
theorem agrees_load_of_stored {store : Store} {preferences : Preferences}
    {preference : Preference}
    (stored : store.read? preference.key = some (preference.text preferences)) :
    preference.Agrees (load store) preferences := by
  cases preference with
  | highlight =>
      simp only [Preference.key, Preference.text] at stored
      simp only [Preference.Agrees, load, stored]
      exact flagText_beq preferences.highlight
  | editor =>
      simp only [Preference.key, Preference.text] at stored
      simp only [Preference.Agrees, load, stored, Option.map_some,
        Editor.ofName?_name]
  | modifier =>
      simp only [Preference.key, Preference.text] at stored
      simp only [Preference.Agrees, load, stored, Option.map_some,
        ModifierSide.ofName?_name]

theorem agrees_load_of_read? {first second : Store} {preference : Preference}
    (same : first.read? preference.key = second.read? preference.key) :
    preference.Agrees (load first) (load second) := by
  cases preference with
  | highlight =>
      simp only [Preference.key] at same
      simp only [Preference.Agrees, load, same]
  | editor =>
      simp only [Preference.key] at same
      simp only [Preference.Agrees, load, same]
  | modifier =>
      simp only [Preference.key] at same
      simp only [Preference.Agrees, load, same]

theorem load_of_unreadable {store : Store}
    (unreadable : ∀ key, store.read? key = none) : load store = standard := by
  simp [load, unreadable, standard]

end Preferences

namespace Options

/-- Whether an option stands in for a stored preference. -/
def gives (options : Options) : Preference → Bool
  | .highlight => false
  | .editor => options.editor.isSome
  | .modifier => options.modifier.isSome

theorem agrees_preferences {options : Options} {store : Store}
    {preference : Preference} (free : options.gives preference = false) :
    preference.Agrees (options.preferences store) (Preferences.load store) := by
  cases preference with
  | highlight => rfl
  | editor =>
      have absent : options.editor = none := by simpa [gives] using free
      simp [Preference.Agrees, preferences, absent]
  | modifier =>
      have absent : options.modifier = none := by simpa [gives] using free
      simp [Preference.Agrees, preferences, absent]

theorem preferences_congr (options : Options) {first second : Store}
    (same : Preferences.load first = Preferences.load second) :
    options.preferences first = options.preferences second := by
  simp only [preferences, same]

end Options

namespace Event

/-- The preference that an event chooses anew. -/
def chosen? : Event → Option Preference
  | setEditor _ => some .editor
  | setModifier _ => some .modifier
  | toggleHighlight => some .highlight
  | _ => none

/-- The preferences after an event. -/
def choose (preferences : Preferences) : Event → Preferences
  | setEditor editor => { preferences with editor }
  | setModifier modifier => { preferences with modifier }
  | toggleHighlight =>
      { preferences with highlight := !preferences.highlight }
  | _ => preferences

theorem agrees_choose (preferences : Preferences) {event : Event}
    {preference : Preference} (spared : event.chosen? ≠ some preference) :
    preference.Agrees (event.choose preferences) preferences := by
  cases event with
  | setEditor editor =>
      cases preference with
      | editor => exact absurd rfl spared
      | highlight => rfl
      | modifier => rfl
  | setModifier modifier =>
      cases preference with
      | modifier => exact absurd rfl spared
      | highlight => rfl
      | editor => rfl
  | toggleHighlight =>
      cases preference with
      | highlight => exact absurd rfl spared
      | editor => rfl
      | modifier => rfl
  | _ => exact .refl _ _

end Event

namespace Session

/-- A step that chooses a preference writes it, and nothing else writes. -/
theorem step_store (session : Session) (event : Event) :
    (session.step event).controller.store =
      match event.chosen? with
      | some preference => session.controller.store.write preference.key
          (preference.text (session.step event).controller.preferences)
      | none => session.controller.store := by
  have steady : Controller.IsSteady Controller.store := fun _ _ _ _ _ _ => rfl
  cases event with
  | key name code down => exact steady.key _ _ name code down
  | move pointer target => exact steady.move _ _ pointer target
  | blur => exact steady.blur _
  | _ => rfl

/-- The preferences do not depend on what the store makes of them. -/
theorem step_preferences (session : Session) (event : Event) :
    (session.step event).controller.preferences =
      event.choose session.controller.preferences := by
  cases event with
  | key name code down => exact Controller.key_preferences _ _ name code down
  | move pointer target => exact Controller.move_preferences _ _ pointer target
  | blur => exact Controller.blur_preferences _
  | _ => rfl

section Runs

variable {session : Session} {events : List Event}

theorem run_concat (event : Event) :
    session.run (events ++ [event]) = (session.run events).step event :=
  List.foldl_append

theorem step_readable (readable : session.controller.store.IsReadable)
    (event : Event) : (session.step event).controller.store.IsReadable := by
  rw [step_store]
  cases event.chosen? with
  | none => exact readable
  | some preference => exact readable.write _ _

theorem run_readable (readable : session.controller.store.IsReadable) :
    (session.run events).controller.store.IsReadable := by
  induction events generalizing session with
  | nil => exact readable
  | cons event events induction =>
      exact induction (step_readable readable event)

/-- A step keeps the stored text of each key, except of the preference that it
chooses. -/
theorem step_read? (readable : session.controller.store.IsReadable)
    {event : Event} {key : String}
    (spared : ∀ preference, event.chosen? = some preference →
      preference.key ≠ key) :
    (session.step event).controller.store.read? key =
      session.controller.store.read? key := by
  rw [step_store]
  cases chosen : event.chosen? with
  | none => rfl
  | some preference =>
      simp only [readable.read?_write]
      rw [if_neg (Ne.symm (spared preference chosen))]

theorem run_read? (readable : session.controller.store.IsReadable)
    {key : String}
    (spared : ∀ event ∈ events, ∀ preference,
      event.chosen? = some preference → preference.key ≠ key) :
    (session.run events).controller.store.read? key =
      session.controller.store.read? key := by
  induction events generalizing session with
  | nil => rfl
  | cons event events induction =>
      have later := induction (step_readable readable event)
        fun other member => spared other (List.mem_cons_of_mem event member)
      exact later.trans
        (step_read? readable (spared event List.mem_cons_self))

/-- A preference that was chosen at some time is stored as it is. -/
theorem run_stored (readable : session.controller.store.IsReadable)
    {preference : Preference}
    (chosen : ∃ event ∈ events, event.chosen? = some preference) :
    (session.run events).controller.store.read? preference.key =
      some (preference.text (session.run events).controller.preferences) := by
  induction events using List.reverseRecOn with
  | nil => simp at chosen
  | append_singleton events event induction =>
      have before : (session.run events).controller.store.IsReadable :=
        run_readable readable
      rw [run_concat]
      by_cases last : event.chosen? = some preference
      · simp only [step_store, last]
        rw [before.read?_write, if_pos rfl]
      · have earlier : ∃ event ∈ events, event.chosen? = some preference := by
          obtain ⟨other, member, chosen⟩ := chosen
          rcases List.mem_append.mp member with member | member
          · exact ⟨other, member, chosen⟩
          · obtain rfl := List.mem_singleton.mp member
            exact absurd chosen last
        have spared : ∀ other, event.chosen? = some other →
            other.key ≠ preference.key := by
          intro other chosen same
          exact last (Preference.key_injective same ▸ chosen)
        rw [step_read? before spared, induction earlier,
          step_preferences, (Event.agrees_choose _ last).text_eq]

theorem run_preferences :
    (session.run events).controller.preferences =
      events.foldl Event.choose session.controller.preferences := by
  induction events generalizing session with
  | nil => rfl
  | cons event events induction =>
      rw [List.foldl_cons, ← step_preferences session event]
      exact induction

/-- A preference that was never chosen is the one at the start. -/
theorem run_agrees {preference : Preference}
    (spared : ¬ ∃ event ∈ events, event.chosen? = some preference) :
    preference.Agrees (session.run events).controller.preferences
      session.controller.preferences := by
  induction events generalizing session with
  | nil => exact .refl _ _
  | cons event events induction =>
      have first : event.chosen? ≠ some preference :=
        fun chosen => spared ⟨event, List.mem_cons_self, chosen⟩
      have later : ¬ ∃ event ∈ events, event.chosen? = some preference := by
        rintro ⟨other, member, chosen⟩
        exact spared ⟨other, List.mem_cons_of_mem event member, chosen⟩
      have step := Event.agrees_choose session.controller.preferences first
      rw [← step_preferences session event] at step
      exact (induction later).trans step

theorem run_of_unreadable {fault : StoreFault}
    (unreadable : session.controller.store.entries = .error fault) :
    (session.run events).controller.store = session.controller.store := by
  induction events generalizing session with
  | nil => rfl
  | cons event events induction =>
      have kept : (session.step event).controller.store =
          session.controller.store := by
        rw [step_store]
        cases event.chosen? with
        | none => rfl
        | some preference => exact Store.write_of_unreadable unreadable _ _
      have later := @induction (session.step event)
      rw [kept] at later
      exact later unreadable

end Runs

/-- What is loaded from the store at any time agrees with the controller, except
on a preference that an option gave and that was never chosen since; other keys
keep their texts.  On a store that fails, all goes as on an empty one. -/
theorem load_of_run (options : Options) (store : Store) (resolver : Resolver)
    (host : Host) (events : List Event) :
    let begun := start options store resolver host
    let controller := (begun.run events).controller
    let loaded := Preferences.load controller.store
    (store.IsReadable →
      (options.editor = none → options.modifier = none →
        loaded = controller.preferences) ∧
      (∀ preference : Preference,
        ((∃ event ∈ events, event.chosen? = some preference) ∨
          options.gives preference = false) →
        preference.Agrees loaded controller.preferences) ∧
      ∀ key, (∀ preference : Preference, preference.key ≠ key) →
        controller.store.get key = store.get key) ∧
    ((∀ key, ∃ fault, store.get key = .error fault) →
      let working := start options (.memory []) resolver host
      begun.controller.preferences =
        { Preferences.standard with
          editor := options.editor.getD Preferences.standard.editor
          modifier := options.modifier.getD Preferences.standard.modifier } ∧
      controller.preferences = (working.run events).controller.preferences ∧
      controller.store = store) := by
  intro begun controller loaded
  constructor
  · intro readable
    have begin_readable : begun.controller.store.IsReadable := readable
    have end_readable : controller.store.IsReadable :=
      run_readable begin_readable
    have agrees : ∀ preference : Preference,
        ((∃ event ∈ events, event.chosen? = some preference) ∨
          options.gives preference = false) →
        preference.Agrees loaded controller.preferences := by
      intro preference reason
      -- What was chosen is stored as it is; what was not is read as at the start.
      by_cases chosen : ∃ event ∈ events, event.chosen? = some preference
      · exact Preferences.agrees_load_of_stored (run_stored begin_readable chosen)
      · have free := reason.resolve_left chosen
        have kept : controller.store.read? preference.key =
            store.read? preference.key := by
          apply run_read? begin_readable
          intro event member other choice same
          exact chosen ⟨event, member, Preference.key_injective same ▸ choice⟩
        have later : preference.Agrees controller.preferences
            (options.preferences store) := run_agrees chosen
        exact (Preferences.agrees_load_of_read? kept).trans
          (later.trans (Options.agrees_preferences free)).symm
    refine ⟨?_, agrees, ?_⟩
    · intro editor modifier
      apply Preference.eq_of_agrees
      intro preference
      apply agrees preference
      right
      cases preference with
      | highlight => rfl
      | editor => exact congrArg Option.isSome editor
      | modifier => exact congrArg Option.isSome modifier
    · intro key foreign
      rw [end_readable.get_eq, readable.get_eq]
      apply congrArg Except.ok
      apply run_read? begin_readable
      intro event _ preference _
      exact foreign preference
  · intro unread working
    obtain ⟨fault, failed⟩ := unread Preferences.editorKey
    replace failed := Store.unreadable_of_get failed
    have loads : Preferences.load store = Preferences.standard :=
      Preferences.load_of_unreadable (Store.read?_of_unreadable failed)
    have same : begun.controller.preferences =
        working.controller.preferences :=
      options.preferences_congr loads
    refine ⟨?_, ?_, run_of_unreadable failed⟩
    · change options.preferences store = _
      simp only [Options.preferences, loads]
    · exact run_preferences.trans (same ▸ run_preferences.symm)

/-- A store with an editor in capitals, a modifier that is none and a highlight
that is not quite switched on; an editor is chosen and the highlight switched.
The same is done on a store that is not available. -/
theorem load_of_run_untidy :
    let store := Store.memory
      [(Preferences.editorKey, " ZED "), (Preferences.modifierKey, "middle"),
        ("theme", "dark"), (Preferences.highlightKey, "True")]
    let host := Host.ofDocument Document.empty
    let events : List Event :=
      [.key "Control" 1 true, .toggleHighlight, .setModifier .right, .blur]
    let controller :=
      ((start Options.standard store Resolver.plain host).run events).controller
    let alone :=
      ((start Options.standard .unavailable Resolver.plain host).run
        events).controller
    store.IsReadable ∧
      controller.preferences = ⟨true, .zed, .right⟩ ∧
      Preferences.load controller.store = controller.preferences ∧
      controller.store.get "theme" = .ok (some "dark") ∧
      alone.preferences = ⟨false, .vscode, .right⟩ ∧
      alone.store = .unavailable := by
  intro store host events controller alone
  have readable : store.IsReadable := ⟨_, rfl⟩
  obtain ⟨survives, _⟩ :=
    load_of_run Options.standard store Resolver.plain host events
  obtain ⟨whole, _, others⟩ := survives readable
  obtain ⟨_, fails⟩ :=
    load_of_run Options.standard .unavailable Resolver.plain host events
  obtain ⟨_, evolves, kept⟩ := fails fun _ => ⟨_, rfl⟩
  have foreign : ∀ preference : Preference, preference.key ≠ "theme" := by
    intro preference
    cases preference <;> decide
  refine ⟨readable, by decide +kernel, whole rfl rfl,
    (others "theme" foreign).trans rfl, evolves.trans ?_, kept⟩
  decide +kernel

end Session

end Overlay

end SourceMark
