import Widgetry.Component.Source
import Widgetry.Proofs.Widget.Ids

/-!
Emission of a component. A description whose ids differ has the component `layout`, and its source
is emitted; after repair every description is one of these.
-/

namespace Widgetry.Component

/-- The component of a description whose ids differ. -/
def layout (d : Description) : Layout where
  name := name d.title
  title := d.title
  container := containerStyle d.effectiveStyling
  fragments := d.elements.map Fragment.ofElement

theorem emit_eq_ok {d : Description} (h : d.ids.Nodup) : emit d = .ok (layout d).source := by
  simp [emit, Layout.ofDescription, d.duplicateIds_eq_nil_iff.2 h, Except.map, layout]

/-- A repaired description is emitted. -/
theorem emit_repaired (d : Description) : emit d.repaired = .ok (layout d.repaired).source :=
  emit_eq_ok d.nodup_ids_repaired

end Widgetry.Component
