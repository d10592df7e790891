import Mathlib.Data.Finset.Basic
import Mathlib.Tactic.Common

/-!
# The tab bar

`CustomTabBar` with the `selectedIndex` of its `BaseTabBarController`. An item is its index.
A tap starts `switchTab`, which dispatches a block to the main queue; the block highlights
one icon, turns another one off and starts two animations; their completions set the path of
the wave layer, and `selectedIndex` with `activeItem`. Blocks run in order, and so do the
completions of each kind.

The wave is the `path` that `waveSubLayer` has, as the item whose curve it is.
-/

namespace ArtExhibition

structure CustomTabBar where
  activeItem : Nat
  /-- The image views that are highlighted. -/
  highlighted : Finset Nat
  /-- `waveSubLayer.path`. -/
  wavePath : Option Nat
  /-- `selectedIndex` of the tab controller. -/
  selectedIndex : Nat
  /-- Blocks of `switchTab` not yet run, each from an item to another. -/
  blocks : List (Nat × Nat)
  /-- Items of the `moveCurve` transactions not yet completed. -/
  curves : List Nat
  /-- Items of the animations of `switchTab` not yet completed. -/
  animations : List Nat
  deriving DecidableEq

/-- A new tab bar, before it is drawn. -/
def CustomTabBar.new : CustomTabBar := ⟨0, ∅, none, 0, [], [], []⟩

def CustomTabBar.highlightImageView (bar : CustomTabBar) (item : Nat) : CustomTabBar :=
  { bar with highlighted := insert item bar.highlighted }

def CustomTabBar.turnOffHighlightImageView (bar : CustomTabBar) (item : Nat) : CustomTabBar :=
  { bar with highlighted := bar.highlighted.erase item }

def CustomTabBar.setupInitialLayer (bar : CustomTabBar) (tab : Nat) : CustomTabBar :=
  { bar with wavePath := some tab }.highlightImageView tab

def CustomTabBar.draw (bar : CustomTabBar) : CustomTabBar := bar.setupInitialLayer 0

/-- `switchTab(from:to:)`, up to the dispatch of its block. -/
def CustomTabBar.switchTab (bar : CustomTabBar) (fromItem toItem : Nat) : CustomTabBar :=
  if fromItem = toItem then bar else { bar with blocks := bar.blocks ++ [(fromItem, toItem)] }

def CustomTabBar.handleTap (bar : CustomTabBar) (toTag : Nat) : CustomTabBar :=
  bar.switchTab bar.activeItem toTag

def CustomTabBar.moveCurve (bar : CustomTabBar) (toItem : Nat) : CustomTabBar :=
  { bar with curves := bar.curves ++ [toItem] }

/-- The block that `switchTab` dispatches. -/
def CustomTabBar.animate (bar : CustomTabBar) (fromItem toItem : Nat) : CustomTabBar :=
  let bar := ((bar.moveCurve toItem).highlightImageView toItem).turnOffHighlightImageView fromItem
  { bar with animations := bar.animations ++ [toItem] }

/-- `itemTapped`, which is `changeTab(tab:)` of the controller. -/
def CustomTabBar.itemTapped (bar : CustomTabBar) (tab : Nat) : CustomTabBar :=
  { bar with selectedIndex := tab }

inductive TabEvent
  /-- A tap on the item with this tag. -/
  | handleTap (toTag : Nat)
  | draw
  | runBlock
  | curveCompleted
  | animationCompleted
  deriving DecidableEq, Repr

/-- The bar with `menuItems` items after an event. -/
def CustomTabBar.step (menuItems : Nat) (bar : CustomTabBar) : TabEvent → Option CustomTabBar
  | .handleTap toTag => if toTag < menuItems then some (bar.handleTap toTag) else none
  | .draw => some bar.draw
  | .runBlock =>
    match bar.blocks with
    | (fromItem, toItem) :: blocks => some ({ bar with blocks := blocks }.animate fromItem toItem)
    | [] => none
  | .curveCompleted =>
    match bar.curves with
    | toItem :: curves => some { bar with curves := curves, wavePath := some toItem }
    | [] => none
  | .animationCompleted =>
    match bar.animations with
    | toItem :: animations =>
      some { { bar with animations := animations }.itemTapped toItem with activeItem := toItem }
    | [] => none

/-- No switch is outstanding. -/
def CustomTabBar.Quiet (bar : CustomTabBar) : Prop :=
  bar.blocks = [] ∧ bar.curves = [] ∧ bar.animations = []

/-- The one highlighted icon is the active item's, the wave is under it, and it is selected. -/
def CustomTabBar.Consistent (bar : CustomTabBar) : Prop :=
  bar.highlighted = {bar.activeItem} ∧ bar.wavePath = some bar.activeItem ∧
    bar.selectedIndex = bar.activeItem

instance (bar : CustomTabBar) : Decidable bar.Quiet := inferInstanceAs (Decidable (_ ∧ _))

instance (bar : CustomTabBar) : Decidable bar.Consistent := inferInstanceAs (Decidable (_ ∧ _))

end ArtExhibition
