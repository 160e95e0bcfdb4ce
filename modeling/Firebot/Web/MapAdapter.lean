import Mathlib.Tactic.FieldSimp
import Mathlib.Tactic.Ring
import Mathlib.Tactic.LinearCombination
import Mathlib.Tactic.NormNum
import Mathlib.Tactic.Linarith
import Mathlib.Data.Rat.Defs
import Mathlib.Algebra.Order.Field.Rat
import Firebot.Lib.Run

/-!
# The map of the operator console

`MapAdapter` of `map-adapter.ts`: what an operator sees of a map, and what a click on it means. The numbers
are those of an ordered field, so nothing is rounded; a side of length zero has no scale (`/` gives `0`). A
rotation is the pair of its cosine and its sine.

The zoom is kept in its range by the type. What is drawn is then the world after an invertible map, whatever has
been done to the adapter before, as long as the map still fits into the viewport with a positive scale. **So its
two directions are inverse, and what has just been centred is in the centre** (`transforms_inverse`). Nothing is
said of the rounding of a browser.
-/

namespace Firebot.Web

variable {K : Type} [Field K]

/-- A point of the world, or of the screen. -/
@[ext]
structure Point (K : Type) where
  x : K
  y : K
  deriving DecidableEq

/-- The size of the canvas, in pixels. -/
structure Viewport (K : Type) where
  width : K
  height : K

/-- The centre of the canvas. -/
def Viewport.centre (viewport : Viewport K) : Point K := ⟨viewport.width / 2, viewport.height / 2⟩

/-! ## Rotations -/

/-- `Math.cos` and `Math.sin` of an angle. -/
structure Rotation (K : Type) [Field K] where
  cos : K
  sin : K
  unit : cos * cos + sin * sin = 1

namespace Rotation

/-- No rotation. -/
def zero : Rotation K := ⟨1, 0, by ring⟩

/-- The rotation by the negative angle. -/
def neg (r : Rotation K) : Rotation K := ⟨r.cos, -r.sin, by linear_combination r.unit⟩

/-- A point turned about the origin. -/
def turn (r : Rotation K) (p : Point K) : Point K :=
  ⟨p.x * r.cos - p.y * r.sin, p.x * r.sin + p.y * r.cos⟩

/-- A turn undone by the opposite one. -/
@[simp] theorem neg_turn_turn (r : Rotation K) (p : Point K) : r.neg.turn (r.turn p) = p := by
  ext
  · show (p.x * r.cos - p.y * r.sin) * r.cos - (p.x * r.sin + p.y * r.cos) * -r.sin = p.x
    linear_combination p.x * r.unit
  · show (p.x * r.cos - p.y * r.sin) * -r.sin + (p.x * r.sin + p.y * r.cos) * r.cos = p.y
    linear_combination p.y * r.unit

/-- An opposite turn undone by the turn. -/
@[simp] theorem turn_neg_turn (r : Rotation K) (p : Point K) : r.turn (r.neg.turn p) = p := by
  ext
  · show (p.x * r.cos - p.y * -r.sin) * r.cos - (p.x * -r.sin + p.y * r.cos) * r.sin = p.x
    linear_combination p.x * r.unit
  · show (p.x * r.cos - p.y * -r.sin) * r.sin + (p.x * -r.sin + p.y * r.cos) * r.cos = p.y
    linear_combination p.y * r.unit

end Rotation

/-! ## The adapter -/

/-- The rectangle of a map, and how it lies in the world. -/
structure MapGeometry (K : Type) [Field K] where
  widthM : K
  heightM : K
  originX : K
  originY : K
  rotation : Rotation K

variable [LinearOrder K] [IsStrictOrderedRing K]

/-- A zoom that `setZoom` can leave. -/
def Zoom (K : Type) [Field K] [LinearOrder K] : Type := { zoom : K // 3 / 5 ≤ zoom ∧ zoom ≤ 4 }

namespace Zoom

/-- The zoom of a new adapter. -/
def one : Zoom K := ⟨1, by norm_num, by norm_num⟩

/-- `Math.min(4, Math.max(0.6, zoom))`. -/
def clamp (zoom : K) : Zoom K :=
  ⟨min 4 (max (3 / 5) zoom), le_min (by norm_num) (le_max_left _ _), min_le_left _ _⟩

/-- The zoom is positive, whatever has been asked for. -/
theorem pos (zoom : Zoom K) : 0 < zoom.val := by
  have lower : (0 : K) < 3 / 5 := by norm_num
  exact lower.trans_le zoom.property.1

end Zoom

/-- The state of a `MapAdapter`. -/
structure MapAdapter (K : Type) [Field K] [LinearOrder K] where
  zoom : Zoom K
  pan : Point K
  map : MapGeometry K
  viewport : Viewport K

namespace MapAdapter

/-- `padding`. -/
def padding : K := 28

/-- A new adapter. -/
def new (map : MapGeometry K) (viewport : Viewport K) : MapAdapter K where
  zoom := .one
  pan := ⟨0, 0⟩
  map := map
  viewport := viewport

variable (a : MapAdapter K)

/-- `baseScale`: the whole map fits into the viewport. -/
def baseScale : K :=
  min ((a.viewport.width - padding * 2) / a.map.widthM) ((a.viewport.height - padding * 2) / a.map.heightM)

/-- Pixels for each metre. -/
def scale : K := a.baseScale * a.zoom.val

/-- `worldToScreen`. -/
def worldToScreen (point : Point K) : Point K :=
  let rotated := a.map.rotation.turn ⟨point.x - a.map.originX, point.y - a.map.originY⟩
  let contentWidth := a.map.widthM * a.scale
  let contentHeight := a.map.heightM * a.scale
  { x := (a.viewport.width - contentWidth) / 2 + rotated.x * a.scale + a.pan.x
    y := (a.viewport.height + contentHeight) / 2 - rotated.y * a.scale + a.pan.y }

/-- `screenToWorld`. -/
def screenToWorld (point : Point K) : Point K :=
  let contentWidth := a.map.widthM * a.scale
  let contentHeight := a.map.heightM * a.scale
  let rotatedX := (point.x - (a.viewport.width - contentWidth) / 2 - a.pan.x) / a.scale
  let rotatedY := ((a.viewport.height + contentHeight) / 2 + a.pan.y - point.y) / a.scale
  let turned := a.map.rotation.neg.turn ⟨rotatedX, rotatedY⟩
  { x := turned.x + a.map.originX
    y := turned.y + a.map.originY }

/-- `setViewport`. -/
def setViewport (viewport : Viewport K) : MapAdapter K := { a with viewport := viewport }

/-- `setMap`. -/
def setMap (map : MapGeometry K) : MapAdapter K := { a with map := map }

/-- `setZoom`. -/
def setZoom (zoom : K) : MapAdapter K := { a with zoom := .clamp zoom }

/-- `panBy`. -/
def panBy (dx dy : K) : MapAdapter K := { a with pan := ⟨a.pan.x + dx, a.pan.y + dy⟩ }

/-- `centerOn`. -/
def centerOn (point : Point K) : MapAdapter K :=
  let screen := a.worldToScreen point
  a.panBy (a.viewport.width / 2 - screen.x) (a.viewport.height / 2 - screen.y)

/-- `reset`. -/
def reset : MapAdapter K := { a with zoom := .one, pan := ⟨0, 0⟩ }

end MapAdapter

/-- What is done to an adapter. -/
inductive MapAction (K : Type) [Field K] where
  | setViewport (viewport : Viewport K)
  | setMap (map : MapGeometry K)
  | setZoom (zoom : K)
  | panBy (dx dy : K)
  | centerOn (point : Point K)
  | reset

/-- One call. -/
def MapAdapter.step (a : MapAdapter K) : MapAction K → MapAdapter K
  | .setViewport viewport => a.setViewport viewport
  | .setMap map => a.setMap map
  | .setZoom zoom => a.setZoom zoom
  | .panBy dx dy => a.panBy dx dy
  | .centerOn point => a.centerOn point
  | .reset => a.reset

/-! ## The two directions -/

namespace MapAdapter

variable {a : MapAdapter K}

/-- A map that fits has a scale. -/
theorem scale_ne_zero (fits : 0 < a.baseScale) : a.scale ≠ 0 := (mul_pos fits a.zoom.pos).ne'

/-- Where a point of the turned map is drawn. -/
def draw (a : MapAdapter K) (rotated : Point K) : Point K where
  x := (a.viewport.width - a.map.widthM * a.scale) / 2 + rotated.x * a.scale + a.pan.x
  y := (a.viewport.height + a.map.heightM * a.scale) / 2 - rotated.y * a.scale + a.pan.y

/-- The point of the turned map that is drawn there. -/
def undraw (a : MapAdapter K) (screen : Point K) : Point K where
  x := (screen.x - (a.viewport.width - a.map.widthM * a.scale) / 2 - a.pan.x) / a.scale
  y := ((a.viewport.height + a.map.heightM * a.scale) / 2 + a.pan.y - screen.y) / a.scale

omit [IsStrictOrderedRing K] in
/-- The way to the screen is a rotation about the map's origin and a drawing. -/
theorem worldToScreen_eq (point : Point K) :
    a.worldToScreen point =
      a.draw (a.map.rotation.turn ⟨point.x - a.map.originX, point.y - a.map.originY⟩) := rfl

omit [IsStrictOrderedRing K] in
/-- The way back undoes the drawing and then the rotation. -/
theorem screenToWorld_eq (point : Point K) :
    a.screenToWorld point =
      ⟨(a.map.rotation.neg.turn (a.undraw point)).x + a.map.originX,
        (a.map.rotation.neg.turn (a.undraw point)).y + a.map.originY⟩ := rfl

/-- Undrawing undoes a drawing with a scale. -/
theorem undraw_draw (fits : 0 < a.baseScale) (rotated : Point K) : a.undraw (a.draw rotated) = rotated := by
  have scale := scale_ne_zero fits
  ext
  · apply (div_eq_iff scale).mpr
    unfold draw
    ring
  · apply (div_eq_iff scale).mpr
    unfold draw
    ring

/-- Drawing undoes an undrawing with a scale. -/
theorem draw_undraw (fits : 0 < a.baseScale) (screen : Point K) : a.draw (a.undraw screen) = screen := by
  have scale := scale_ne_zero fits
  ext
  · show _ + _ / a.scale * a.scale + _ = screen.x
    rw [div_mul_cancel₀ _ scale]
    ring
  · show _ - _ / a.scale * a.scale + _ = screen.y
    rw [div_mul_cancel₀ _ scale]
    ring

/-- From the world to the screen and back. -/
theorem screenToWorld_worldToScreen (fits : 0 < a.baseScale) (point : Point K) :
    a.screenToWorld (a.worldToScreen point) = point := by
  rw [worldToScreen_eq, screenToWorld_eq, undraw_draw fits, Rotation.neg_turn_turn]
  exact congrArg₂ Point.mk (sub_add_cancel _ _) (sub_add_cancel _ _)

/-- From the screen to the world and back. -/
theorem worldToScreen_screenToWorld (fits : 0 < a.baseScale) (point : Point K) :
    a.worldToScreen (a.screenToWorld point) = point := by
  rw [screenToWorld_eq, worldToScreen_eq]
  dsimp only
  rw [add_sub_cancel_right, add_sub_cancel_right, Rotation.turn_neg_turn]
  exact draw_undraw fits point

omit [IsStrictOrderedRing K] in
/-- A shift of the pan shifts the whole screen. -/
theorem worldToScreen_panBy (dx dy : K) (point : Point K) :
    (a.panBy dx dy).worldToScreen point =
      ⟨(a.worldToScreen point).x + dx, (a.worldToScreen point).y + dy⟩ :=
  congrArg₂ Point.mk (add_assoc _ _ _).symm (add_assoc _ _ _).symm

omit [IsStrictOrderedRing K] in
/-- A point that has been centred is in the centre of the viewport. -/
theorem worldToScreen_centerOn (point : Point K) :
    (a.centerOn point).worldToScreen point = a.viewport.centre := by
  unfold centerOn
  rw [worldToScreen_panBy]
  exact congrArg₂ Point.mk (add_sub_cancel _ _) (add_sub_cancel _ _)

/-- Whatever has been done to the adapter, its two directions are inverse, and what has just been centred is
in the centre. -/
theorem transforms_inverse (map : MapGeometry K) (viewport : Viewport K) (history : List (MapAction K))
    (fits : 0 < (Runs.run step (new map viewport) history).baseScale) :
    (∀ point, (Runs.run step (new map viewport) history).screenToWorld
      ((Runs.run step (new map viewport) history).worldToScreen point) = point) ∧
    (∀ point, (Runs.run step (new map viewport) history).worldToScreen
      ((Runs.run step (new map viewport) history).screenToWorld point) = point) ∧
    ∀ point, (Runs.run step (new map viewport) (history ++ [.centerOn point])).worldToScreen point =
      (Runs.run step (new map viewport) history).viewport.centre := by
  refine ⟨screenToWorld_worldToScreen fits, worldToScreen_screenToWorld fits, ?_⟩
  intro point
  rw [Runs.run_append]
  exact worldToScreen_centerOn point

/-- Another map is shown on a larger canvas, turned, and after a reset zoomed as far as it goes and moved. -/
theorem zoomed_inverse :
    ∃ a : MapAdapter ℚ, (a.zoom.val = 4 ∧ a.pan = ⟨10, -5⟩ ∧ a.map.widthM = 40 ∧ a.viewport.width = 856) ∧
      (∀ point, a.screenToWorld (a.worldToScreen point) = point) ∧
      (∀ point, a.worldToScreen (a.screenToWorld point) = point) ∧
      ∀ point, (a.centerOn point).worldToScreen point = ⟨428, 328⟩ := by
  let first : MapGeometry ℚ := ⟨20, 20, 0, 0, .zero⟩
  let second : MapGeometry ℚ := ⟨40, 30, -5, 2, ⟨3 / 5, 4 / 5, by norm_num⟩⟩
  obtain ⟨back, forth, centred⟩ := transforms_inverse first ⟨300, 200⟩
    [.panBy 3 4, .setViewport ⟨856, 656⟩, .setMap second, .setZoom (1 / 2), .reset, .setZoom 7, .panBy 10 (-5)]
    (by decide +kernel)
  refine ⟨_, by decide +kernel, back, forth, ?_⟩
  intro point
  have centre := centred point
  rw [Runs.run_append] at centre
  exact centre.trans (by decide +kernel)

end MapAdapter

end Firebot.Web
