import Mathlib.Data.List.Basic
import SourceMark.Overlay.Mount
import SourceMark.Proofs.Overlay.Stores

/-!
# At most one overlay is mounted

Overlays are mounted, handles are given up and controllers are kept, let go and
used, in any order.  The slot and the handles are never at odds: the slot holds
a controller exactly while there is a handle that was created and not given up,
and then it is that handle's controller.  Who keeps a controller besides has no
part in this.
-/

namespace SourceMark

namespace Overlay

/-- Another editor was chosen, and all else is as it was. -/
structure EditorChange (editor : Editor) (before after : Controller) : Prop where
  preferences : after.preferences = { before.preferences with editor }
  stored : before.store.IsReadable →
    after.store.get Preferences.editorKey = .ok (some editor.name)
  unstored : ¬ before.store.IsReadable → after.store = before.store
  kept : ∀ key, key ≠ Preferences.editorKey →
    after.store.get key = before.store.get key
  others : after = { before with
    preferences := after.preferences
    store := after.store }

theorem Controller.editorChange (controller : Controller) (editor : Editor) :
    EditorChange editor controller (controller.setEditor editor) where
  preferences := rfl
  stored readable := by
    have written := readable.write Preferences.editorKey editor.name
    rw [setEditor, written.get_eq, readable.read?_write, if_pos rfl]
  unstored unreadable := Store.write_of_not_isReadable unreadable _ _
  kept _ unlike := Store.get_write_of_ne controller.store editor.name unlike
  others := rfl

namespace Mounts

variable {mounts : Mounts} {handle number : Nat}

/-! ## Owners -/

theorem owned?_withHandle (mounts : Mounts) (owner : Option Nat) (other : Nat) :
    (mounts.withHandle owner).owned? other =
      if other = mounts.owners.length then owner else mounts.owned? other := by
  simp only [owned?, withHandle]
  rcases Nat.lt_trichotomy other mounts.owners.length with inside | rfl | beyond
  · rw [List.getElem?_append_left inside, if_neg (Nat.ne_of_lt inside)]
  · rw [List.getElem?_concat_length, if_pos rfl]
    rfl
  · have longer : (mounts.owners ++ [owner]).length ≤ other := by
      rw [List.length_append]
      exact beyond
    rw [List.getElem?_eq_none longer, if_neg (Nat.ne_of_gt beyond),
      List.getElem?_eq_none (Nat.le_of_lt beyond)]

theorem owned?_giveUp (mounts : Mounts) (handle other : Nat) :
    (mounts.giveUp handle).2.owned? other =
      if other = handle then none else mounts.owned? other := by
  unfold giveUp
  split
  · next empty =>
      split
      · next same => rw [same, empty]
      · rfl
  · simp only [owned?, List.getElem?_set]
    by_cases same : other = handle
    · subst same
      simp only [if_true]
      split
      · rfl
      · rfl
    · simp [same, Ne.symm same]

theorem owned?_length (mounts : Mounts) :
    mounts.owned? mounts.owners.length = none := by
  rw [owned?, List.getElem?_eq_none (Nat.le_refl _)]
  rfl

theorem isAlive_of_owned? (owned : mounts.owned? handle = some number) :
    mounts.isAlive number = true := by
  have listed : some number ∈ mounts.owners := by
    unfold owned? at owned
    rw [Option.join_eq_some_iff] at owned
    exact List.mem_of_getElem? owned
  simp [isAlive, listed]

theorem live?_eq_some (slotted : mounts.slot = some number)
    (owned : mounts.owned? handle = some number) : mounts.live? = some number := by
  rw [live?, slotted, Option.filter_some, if_pos (isAlive_of_owned? owned)]

/-- Nobody who keeps a controller has it mounted. -/
theorem live?_eq_none (cleared : mounts.slot = none) : mounts.live? = none := by
  rw [live?, cleared, Option.filter_none]

/-- The slot and the handles are left alone, and no controller is forgotten. -/
structure Keeps (before after : Mounts) : Prop where
  slot : after.slot = before.slot
  owners : after.owners = before.owners
  controllers : before.controllers.length ≤ after.controllers.length

theorem keeps_modify (mounts : Mounts) (number : Nat)
    (change : Controller → Controller) :
    Keeps mounts (mounts.modify number change) where
  slot := rfl
  owners := rfl
  controllers := by simp [modify]

theorem keeps_setEditor (mounts : Mounts) (editor : Editor) (isBusy : Bool) :
    Keeps mounts (mounts.setEditor editor isBusy).2 := by
  unfold setEditor
  split
  · split
    · exact ⟨rfl, rfl, Nat.le_refl _⟩
    · exact keeps_modify mounts _ _
  · exact ⟨rfl, rfl, Nat.le_refl _⟩

theorem keeps_keep (mounts : Mounts) (handle : Nat) :
    Keeps mounts (mounts.keep handle) := by
  unfold keep
  split
  · exact ⟨rfl, rfl, Nat.le_refl _⟩
  · exact ⟨rfl, rfl, Nat.le_refl _⟩

theorem keeps_letGo (mounts : Mounts) (keeper : Nat) :
    Keeps mounts (mounts.letGo keeper) :=
  ⟨rfl, rfl, Nat.le_refl _⟩

/-! ## The editor of the mounted overlay -/

/-- The mounted controller has another editor, and nothing else is different. -/
def Reedits (editor : Editor) (before after : Mounts) : Prop :=
  ∃ number controller changed, before.live? = some number ∧
    before.controllers[number]? = some controller ∧
    EditorChange editor controller changed ∧
    after = { before with controllers := before.controllers.set number changed }

theorem setEditor_of_live (live : mounts.live? = some number)
    (known : number < mounts.controllers.length) (editor : Editor) :
    (mounts.setEditor editor false).1 = true ∧
      Reedits editor mounts (mounts.setEditor editor false).2 := by
  have chosen : mounts.setEditor editor false =
      (true, mounts.modify number fun controller =>
        controller.setEditor editor) := by
    simp [setEditor, live]
  rw [chosen]
  refine ⟨rfl, number, _, _, live, List.getElem?_eq_getElem known,
    Controller.editorChange _ editor, ?_⟩
  rw [modify, List.modify_eq_set_get _ known]
  rfl

theorem setEditor_of_idle (idle : mounts.live? = none) (editor : Editor)
    (isBusy : Bool) : mounts.setEditor editor isBusy = (false, mounts) := by
  rw [setEditor, idle]

/-! ## Mounting -/

/-- Mounting again gives an empty handle. -/
theorem mount_of_live (live : mounts.live? = some number) (options : Options)
    (store : Store) (isBusy : Bool) :
    ∃ changed, mounts.mount options store isBusy =
        (.updated, changed.withHandle none) ∧ Keeps mounts changed ∧
      (∀ editor, options.editor = some editor →
        changed = (mounts.setEditor editor isBusy).2) ∧
      (options.editor = none → changed = mounts) := by
  rw [mount, live]
  cases chosen : options.editor with
  | none => exact ⟨mounts, rfl, ⟨rfl, rfl, Nat.le_refl _⟩, by simp, fun _ => rfl⟩
  | some editor =>
      refine ⟨(mounts.setEditor editor isBusy).2, rfl,
        keeps_setEditor mounts editor isBusy, ?_, by simp⟩
      intro other same
      rw [Option.some.inj same]

/-- A mounting that makes a controller puts it into the slot and gives its
handle. -/
theorem mount_of_idle (idle : mounts.live? = none) (options : Options)
    (store : Store) (isBusy : Bool) :
    ∃ made, mounts.mount options store isBusy = (.created, made) ∧
      made.slot = some mounts.controllers.length ∧
      made.owners = mounts.owners ++ [some mounts.controllers.length] ∧
      made.controllers =
        mounts.controllers ++ [Controller.create options store] := by
  rw [mount, idle]
  exact ⟨_, rfl, rfl, rfl, rfl⟩

/-! ## Histories -/

/-- What can happen to the mounts. -/
inductive Act where
  | mount (options : Options) (store : Store)
  | setEditor (editor : Editor)
  | keep (handle : Nat)
  | letGo (keeper : Nat)
  | giveUp (handle : Nat)
  /-- Anything is done with a controller. -/
  | use (number : Nat) (change : Controller → Controller)

/-- The mounts after some acts, with what the acts answered. -/
structure History where
  mounts : Mounts
  /-- How many handles were given. -/
  given : Nat
  /-- The handles that were given as created and not given up since. -/
  alive : List Nat

namespace History

/-- Nothing has happened. -/
def start : History := { mounts := empty, given := 0, alive := [] }

/-- The history with one more act. -/
def step (history : History) : Act → History
  | .mount options store =>
      let (outcome, mounts) := history.mounts.mount options store false
      { mounts
        given := history.given + 1
        alive :=
          match outcome with
          | .created => history.alive ++ [history.given]
          | .updated => history.alive }
  | .setEditor editor =>
      { history with mounts := (history.mounts.setEditor editor false).2 }
  | .keep handle => { history with mounts := history.mounts.keep handle }
  | .letGo keeper => { history with mounts := history.mounts.letGo keeper }
  | .giveUp handle =>
      { history with
        mounts := (history.mounts.giveUp handle).2
        alive := history.alive.filter fun other => other != handle }
  | .use number change =>
      { history with mounts := history.mounts.modify number change }

/-- The history with some more acts. -/
def run (history : History) (acts : List Act) : History :=
  acts.foldl step history

/-- The slot holds the controller of the one handle that is alive, or nothing
if there is no such handle. -/
inductive Agrees (mounts : Mounts) : (alive : List Nat) → Prop where
  | idle : mounts.slot = none → (∀ other, mounts.owned? other = none) →
      Agrees mounts []
  | mounted {handle number : Nat} : mounts.slot = some number →
      number < mounts.controllers.length →
      (∀ other, mounts.owned? other =
        if other = handle then some number else none) →
      Agrees mounts [handle]

namespace Agrees

variable {before after : Mounts} {alive : List Nat}

theorem congr (agrees : Agrees before alive) (slot : after.slot = before.slot)
    (owned : ∀ other, after.owned? other = before.owned? other)
    (longer : before.controllers.length ≤ after.controllers.length) :
    Agrees after alive := by
  cases agrees with
  | idle cleared empty =>
      exact .idle (slot.trans cleared) fun other =>
        (owned other).trans (empty other)
  | mounted slotted known only =>
      exact .mounted (slot.trans slotted) (Nat.lt_of_lt_of_le known longer)
        fun other => (owned other).trans (only other)

theorem transfer (agrees : Agrees before alive) (keeps : Keeps before after) :
    Agrees after alive := by
  apply agrees.congr keeps.slot _ keeps.controllers
  intro other
  rw [owned?, owned?, keeps.owners]

theorem withHandle (agrees : Agrees mounts alive) :
    Agrees (mounts.withHandle none) alive := by
  refine agrees.congr rfl (fun other => ?_) (Nat.le_refl _)
  rw [owned?_withHandle]
  split
  · next last => rw [last, owned?_length]
  · rfl

theorem length_le (agrees : Agrees mounts alive) : alive.length ≤ 1 := by
  cases agrees with
  | idle cleared empty => exact Nat.zero_le 1
  | mounted slotted known only => exact Nat.le_refl 1

theorem isMounted (agrees : Agrees mounts alive) :
    mounts.isMounted = !alive.isEmpty := by
  cases agrees with
  | idle cleared empty => simp [Mounts.isMounted, live?_eq_none cleared]
  | @mounted handle number slotted known only =>
      have own := only handle
      rw [if_pos rfl] at own
      simp [Mounts.isMounted, live?_eq_some slotted own]

/-- The handle that is alive is the one of the mounted controller. -/
theorem live?_eq (agrees : Agrees mounts alive) (member : handle ∈ alive) :
    ∃ number, mounts.live? = some number ∧ mounts.owned? handle = some number ∧
      number < mounts.controllers.length := by
  cases agrees with
  | idle cleared empty => simp at member
  | @mounted own number slotted known only =>
      obtain rfl := List.mem_singleton.mp member
      have owned := only handle
      rw [if_pos rfl] at owned
      exact ⟨number, live?_eq_some slotted owned, owned, known⟩

theorem giveUp (agrees : Agrees mounts alive) (handle : Nat) :
    Agrees (mounts.giveUp handle).2
      (alive.filter fun other => other != handle) := by
  cases agrees with
  | idle cleared empty =>
      apply Agrees.idle
      · simp [Mounts.giveUp, empty handle, cleared]
      · intro other
        rw [owned?_giveUp, empty other, ite_self]
  | @mounted own number slotted known only =>
      -- The slot is cleared only by the handle whose controller is in it.
      by_cases same : own = handle
      · subst same
        have nobody : [own].filter (fun other => other != own) = [] := by simp
        rw [nobody]
        apply Agrees.idle
        · simp [Mounts.giveUp, only own, slotted]
        · intro other
          rw [owned?_giveUp, only other]
          split
          · rfl
          · rfl
      · have spared : [own].filter (fun other => other != handle) = [own] := by
          simp [same]
        have empty : mounts.owned? handle = none := by
          rw [only handle, if_neg (Ne.symm same)]
        rw [spared]
        simpa [Mounts.giveUp, empty] using Agrees.mounted slotted known only

theorem lt_length (agrees : Agrees mounts alive)
    (live : mounts.live? = some number) :
    number < mounts.controllers.length := by
  cases alive with
  | nil =>
      have unmounted := agrees.isMounted
      simp [Mounts.isMounted, live] at unmounted
  | cons handle others =>
      obtain ⟨other, same, _, known⟩ := agrees.live?_eq List.mem_cons_self
      rw [Option.some.inj (live.symm.trans same)]
      exact known

theorem isMounted_unmount (agrees : Agrees mounts alive) (member : handle ∈ alive)
    (isKept : Bool) : (mounts.unmount handle isKept).2.isMounted = false := by
  have before : Agrees (if isKept then mounts.keep handle else mounts) alive := by
    split
    · exact agrees.transfer (keeps_keep mounts handle)
    · exact agrees
  have nobody : alive.filter (fun other => other != handle) = [] := by
    have few := agrees.length_le
    match alive, member with
    | [own], member => simp [List.mem_singleton.mp member]
  have after := (before.giveUp handle).isMounted
  rw [nobody] at after
  exact after

end Agrees

/-- The handles are counted rightly, and those that are alive agree with the
slot. -/
structure IsSound (history : History) : Prop where
  counted : history.given = history.mounts.owners.length
  agrees : Agrees history.mounts history.alive

variable {history : History}

theorem isSound_start : start.IsSound where
  counted := rfl
  agrees := .idle rfl fun _ => rfl

/-- Mounting makes a controller only if there is no handle that is alive. -/
theorem isSound_mount (sound : history.IsSound) (options : Options)
    (store : Store) : (history.step (.mount options store)).IsSound := by
  obtain ⟨counted, agrees⟩ := sound
  cases live : history.mounts.live? with
  | some number =>
      obtain ⟨changed, mounted, keeps, _⟩ :=
        mount_of_live live options store false
      refine ⟨?_, ?_⟩
      · simp only [step, mounted, Mounts.withHandle, List.length_append,
          keeps.owners, counted]
        rfl
      · simp only [step, mounted]
        exact (agrees.transfer keeps).withHandle
  | none =>
      obtain ⟨made, mounted, slot, owners, controllers⟩ :=
        mount_of_idle live options store false
      -- No handle is alive, for its controller would be the mounted one.
      have nobody : history.alive = [] := by
        have unmounted := agrees.isMounted
        rw [Mounts.isMounted, live] at unmounted
        simpa using unmounted.symm
      have owned : ∀ other, made.owned? other =
          if other = history.given then
            some history.mounts.controllers.length else none := by
        intro other
        have same : made.owned? other = (history.mounts.withHandle
            (some history.mounts.controllers.length)).owned? other := by
          rw [owned?, owned?, owners]
          rfl
        rw [nobody] at agrees
        cases agrees with
        | idle cleared empty => rw [same, owned?_withHandle, counted, empty other]
      refine ⟨?_, ?_⟩
      · simp only [step, mounted, owners, List.length_append, counted]
        rfl
      · simp only [step, mounted, nobody, List.nil_append]
        apply Agrees.mounted slot
        · rw [controllers, List.length_append]
          exact Nat.lt_succ_self _
        · exact owned

theorem isSound_step (sound : history.IsSound) (act : Act) :
    (history.step act).IsSound := by
  have kept : ∀ {after : Mounts}, Keeps history.mounts after →
      IsSound { history with mounts := after } := by
    intro after keeps
    refine ⟨?_, sound.agrees.transfer keeps⟩
    exact sound.counted.trans (congrArg List.length keeps.owners).symm
  cases act with
  | mount options store => exact isSound_mount sound options store
  | setEditor editor => exact kept (keeps_setEditor _ editor false)
  | keep handle => exact kept (keeps_keep _ handle)
  | letGo keeper => exact kept (keeps_letGo _ keeper)
  | giveUp handle =>
      refine ⟨sound.counted.trans ?_, sound.agrees.giveUp handle⟩
      simp only [step, Mounts.giveUp]
      split
      · rfl
      · simp
  | use number change => exact kept (keeps_modify _ number change)

theorem isSound_run (sound : history.IsSound) (acts : List Act) :
    (history.run acts).IsSound := by
  induction acts generalizing history with
  | nil => exact sound
  | cons act acts induction => exact induction (isSound_step sound act)

/-- At any time at most one handle is alive that was given as created, and an
overlay is mounted exactly if there is one.  Mounting makes a controller exactly
if none is mounted; else it changes the editor of the mounted controller, if the
options name one, and nothing else.  So does choosing an editor, which does
nothing if no controller is mounted.  Giving up the handle unmounts the controller
even if someone keeps it. -/
theorem mounted_of_run (acts : List Act) :
    let history := start.run acts
    let mounts := history.mounts
    history.alive.length ≤ 1 ∧
    (mounts.isMounted = true ↔ history.alive ≠ []) ∧
    (∀ handle ∈ history.alive, mounts.live? = mounts.owned? handle) ∧
    (∀ options store,
      ((mounts.mount options store false).1 = .created ↔
        mounts.isMounted = false) ∧
      ((mounts.mount options store false).1 = .updated ↔
        mounts.isMounted = true) ∧
      (mounts.isMounted = true → ∃ changed,
        (mounts.mount options store false).2 = changed.withHandle none ∧
        (∀ editor, options.editor = some editor →
          Reedits editor mounts changed) ∧
        (options.editor = none → changed = mounts))) ∧
    (∀ editor,
      (mounts.setEditor editor false).1 = mounts.isMounted ∧
      (mounts.isMounted = true →
        Reedits editor mounts (mounts.setEditor editor false).2) ∧
      (mounts.isMounted = false →
        (mounts.setEditor editor false).2 = mounts)) ∧
    (∀ handle ∈ history.alive, ∀ isKept,
      (mounts.unmount handle isKept).2.isMounted = false) := by
  intro history mounts
  have agrees : Agrees mounts history.alive :=
    (isSound_run isSound_start acts).agrees
  have known : ∀ number, mounts.live? = some number →
      number < mounts.controllers.length := fun _ => agrees.lt_length
  refine ⟨agrees.length_le, ?_, ?_, ?_, ?_, ?_⟩
  · rw [agrees.isMounted]
    simp
  · intro handle member
    obtain ⟨number, live, owned, _⟩ := agrees.live?_eq member
    exact live.trans owned.symm
  · intro options store
    cases live : mounts.live? with
    | none =>
        obtain ⟨made, mounted, _⟩ := mount_of_idle live options store false
        simp [mounted, Mounts.isMounted, live]
    | some number =>
        obtain ⟨changed, mounted, _, reedited, unchanged⟩ :=
          mount_of_live live options store false
        refine ⟨by simp [mounted, Mounts.isMounted, live],
          by simp [mounted, Mounts.isMounted, live], fun _ =>
            ⟨changed, congrArg Prod.snd mounted, ?_, unchanged⟩⟩
        intro editor chosen
        rw [reedited editor chosen]
        exact (setEditor_of_live live (known number live) editor).2
  · intro editor
    cases live : mounts.live? with
    | none => simp [setEditor_of_idle live, Mounts.isMounted, live]
    | some number =>
        obtain ⟨chosen, reedited⟩ :=
          setEditor_of_live live (known number live) editor
        simp [chosen, reedited, Mounts.isMounted, live]
  · intro handle member isKept
    exact agrees.isMounted_unmount member isKept

/-- A controller is mounted, kept and mounted again with another editor; its
handle is given up, and another controller is mounted. -/
theorem mounted_of_run_kept :
    let editing (editor : Editor) : Options :=
      { Options.standard with editor := some editor }
    let acts : List Act :=
      [.mount (editing .cursor) (.memory []), .keep 0,
        .mount (editing .zed) .unavailable, .giveUp 0]
    let history := start.run acts
    let mounts := history.mounts
    history.alive = [] ∧ mounts.keepers = [0] ∧ mounts.isMounted = false ∧
      mounts.controllers.map (fun controller =>
        controller.preferences.editor) = [.zed] ∧
      (mounts.setEditor .cursor false).2 = mounts ∧
      (mounts.mount Options.standard .unavailable false).1 = .created := by
  intro editing acts history mounts
  obtain ⟨_, mounted, _, mounting, choosing, _⟩ := mounted_of_run acts
  have nobody : history.alive = [] := by decide +kernel
  have unmounted : mounts.isMounted = false := by
    cases state : mounts.isMounted with
    | false => rfl
    | true => exact absurd nobody (mounted.mp state)
  exact ⟨nobody, by decide +kernel, unmounted, by decide +kernel,
    (choosing .cursor).2.2 unmounted,
    (mounting Options.standard .unavailable).1.mpr unmounted⟩

end History

end Mounts

end Overlay

end SourceMark
