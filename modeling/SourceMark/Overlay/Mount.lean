import SourceMark.Overlay.Controller

/-!
# Mounting overlays

There is at most one mounted overlay.  A slot remembers the controller that was
mounted last without keeping it alive; what keeps a controller alive are the
handle that owns it and whoever keeps it besides.  Mounting again changes the
editor of the overlay that is there instead of making a second one.  Every
mounting gives a handle, which is empty unless an overlay was made.
-/

namespace SourceMark

namespace Overlay

/-- The controllers made so far, and who refers to them by their numbers. -/
structure Mounts where
  controllers : List Controller
  /-- What the handles own.  A handle that was given up, or never filled, owns
  nothing. -/
  owners : List (Option Nat)
  /-- The controllers that are kept besides, once for each keeper. -/
  keepers : List Nat
  /-- The controller that was mounted last, until its handle is given up. -/
  slot : Option Nat
deriving Repr, DecidableEq

/-- What came of mounting. -/
inductive Mounting where
  | created
  | updated
deriving Repr, DecidableEq

namespace Mounts

/-- Nothing was mounted yet. -/
def empty : Mounts :=
  { controllers := [], owners := [], keepers := [], slot := none }

/-- Whether someone keeps a controller alive. -/
def isAlive (mounts : Mounts) (number : Nat) : Bool :=
  mounts.owners.contains (some number) || mounts.keepers.contains number

/-- The controller in the slot, as long as it is alive. -/
def live? (mounts : Mounts) : Option Nat :=
  mounts.slot.filter mounts.isAlive

/-- Whether an overlay is mounted. -/
def isMounted (mounts : Mounts) : Bool :=
  mounts.live?.isSome

/-- The number of the controller behind a handle. -/
def owned? (mounts : Mounts) (handle : Nat) : Option Nat :=
  (mounts.owners[handle]?).join

/-- The controller behind a handle. -/
def controller? (mounts : Mounts) (handle : Nat) : Option Controller :=
  (mounts.owned? handle).bind fun number => mounts.controllers[number]?

/-- The controllers behind all handles. -/
def handles (mounts : Mounts) : List (Option Controller) :=
  (List.range mounts.owners.length).map mounts.controller?

/-- Change a controller. -/
def modify (mounts : Mounts) (number : Nat)
    (change : Controller → Controller) : Mounts :=
  { mounts with controllers := mounts.controllers.modify number change }

/-- Choose the editor of the mounted overlay, unless its controller is in use
at the moment. -/
def setEditor (mounts : Mounts) (editor : Editor) (isBusy : Bool) :
    Bool × Mounts :=
  match mounts.live? with
  | some number =>
      if isBusy then
        (false, mounts)
      else
        (true, mounts.modify number fun controller =>
          controller.setEditor editor)
  | none => (false, mounts)

/-- The mounts with one more handle. -/
def withHandle (mounts : Mounts) (owner : Option Nat) : Mounts :=
  { mounts with owners := mounts.owners ++ [owner] }

/-- Mount an overlay. -/
def mount (mounts : Mounts) (options : Options) (store : Store)
    (isBusy : Bool) : Mounting × Mounts :=
  match mounts.live? with
  | some _ =>
      let changed :=
        match options.editor with
        | some editor => (mounts.setEditor editor isBusy).2
        | none => mounts
      (.updated, changed.withHandle none)
  | none =>
      let number := mounts.controllers.length
      let controller := Controller.create options store
      (.created, { mounts.withHandle (some number) with
        controllers := mounts.controllers ++ [controller]
        slot := some number })

/-- Keep the controller behind a handle. -/
def keep (mounts : Mounts) (handle : Nat) : Mounts :=
  match mounts.owned? handle with
  | some number => { mounts with keepers := mounts.keepers ++ [number] }
  | none => mounts

/-- One keeper lets go of its controller. -/
def letGo (mounts : Mounts) (keeper : Nat) : Mounts :=
  { mounts with keepers := mounts.keepers.eraseIdx keeper }

/-- Give up a handle.  The slot is cleared if it is the handle's controller that
is in it.  An empty handle cannot be given up. -/
def giveUp (mounts : Mounts) (handle : Nat) : Bool × Mounts :=
  match mounts.owned? handle with
  | none => (false, mounts)
  | some number =>
      (true, { mounts with
        owners := mounts.owners.set handle none
        slot := if mounts.slot = some number then none else mounts.slot })

/-- Give up a handle, whose controller someone may keep. -/
def unmount (mounts : Mounts) (handle : Nat) (isKept : Bool) : Bool × Mounts :=
  (if isKept then mounts.keep handle else mounts).giveUp handle

end Mounts

end Overlay

end SourceMark
