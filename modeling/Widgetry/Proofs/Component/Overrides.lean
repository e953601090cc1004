import Widgetry.Proofs.Component.Style
import Widgetry.Proofs.Script.Object

/-!
Elements that bring a style of their own. The styles of texts and buttons start from fixed
properties, and the element's own win over these key by key (`own_styles_win`): a key has the
element's value or else the fixed one, the fixed keys come first in their order, and whatever else
the element styles comes behind them in ascending order.

Some fixed properties are looked up in the element before all of its properties are set over the
fixed ones, so value, place and number of a key come from two passes. That the first one leaves no
trace is `Style.setAll_adopting`; what the second one does is shown for any fixed style without
repeated keys (`overrides_setAll`).
-/

namespace Widgetry.Component

open Style

/-- The keys of a dictionary that a fixed style does not have. -/
def addedKeys (fixed : Style) (own : Dictionary String) : List String :=
  own.keys.filter (· ∉ fixed.keys)

/-- A style in which the properties of a dictionary win over fixed ones, key by key.

A key has the literal of its own value or else of the fixed one, and is absent if it has neither.
The fixed keys come in their order, the added ones behind them in ascending order, none comes twice,
and the printed object shows the style as it is. -/
structure Overrides (own : Dictionary String) (fixed result : Style) : Prop where
  value : ∀ key, (result.get? key).map literalText
    = match own.get? key, fixed.get? key with
      | some v, _ => some (literalText v)
      | none, some v => some (literalText v)
      | none, none => none
  keys : result.keys = fixed.keys ++ addedKeys fixed own
  ascending : (addedKeys fixed own).Pairwise (· < ·)
  nodup : result.keys.Nodup
  size : result.size = fixed.size + (addedKeys fixed own).length
  printed : ∀ rest, Script.readObject? (result.print.toList ++ rest) = some (result.entries, rest)

theorem size_eq_length_keys (s : Style) : s.size = s.keys.length := by
  rw [Style.size, Style.keys, List.length_map]

/-- Setting all properties of a dictionary over a fixed style lets them win. -/
theorem overrides_setAll {fixed : Style} (h : fixed.keys.Nodup) (own : Dictionary String) :
    Overrides own fixed (fixed.setAll own.entries) where
  value key := by
    rw [get?_overlay, overlaid]
    cases own.get? key <;> cases fixed.get? key <;> rfl
  keys := keys_setAll fixed (nodup_keys own)
  ascending := (List.pairwise_map.2 own.ascending).filter _
  nodup := nodup_keys_overlay h own
  size := by
    rw [size_eq_length_keys, keys_setAll fixed (nodup_keys own), List.length_append,
      size_eq_length_keys]
    rfl
  printed rest := by
    rw [print, String.toList_ofList, Script.readObject?_chunks]

/-- **The own style of an element wins key by key** over the fixed styles of texts and of
buttons. -/
theorem own_styles_win (e : Element) :
    textDefaults.keys = ["fontSize", "fontWeight", "marginBottom"]
      ∧ Overrides e.style textDefaults (textStyle e)
      ∧ buttonDefaults.keys = ["backgroundColor", "color", "padding", "border", "borderRadius",
        "cursor", "fontSize"]
      ∧ Overrides e.style buttonDefaults (buttonStyle e) := by
  rw [textStyle_eq, buttonStyle_eq]
  exact ⟨rfl, overrides_setAll (by decide) e.style, rfl, overrides_setAll (by decide) e.style⟩

/-- Two fixed keys are overridden in their places, and two others are added in ascending order. -/
example :
    (buttonStyle { Element.plain .button "go" "Go" with
      style := .ofList [("zoom", "2"), ("cursor", "wait"), ("color", "red"), ("Zoom", "1")] }).keys
      = ["backgroundColor", "color", "padding", "border", "borderRadius", "cursor", "fontSize",
        "Zoom", "zoom"] := by
  decide

end Widgetry.Component
