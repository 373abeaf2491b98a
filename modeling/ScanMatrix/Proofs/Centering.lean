import Mathlib
import ScanMatrix.Proofs.Bounds
import ScanMatrix.Proofs.Distinctness
import ScanMatrix.Proofs.Lists
import ScanMatrix.Proofs.Positions
import ScanMatrix.Proofs.Rendering

/-!
# The board about its offset

With exact numbers, the keys of a rendered matrix reach as far to the one side of the offset of its group
as to the other and stand to each other as in the layout, and each diode stands at its key
(`board_centered`).
-/

namespace ScanMatrix

/-- The least and the greatest of the edges of the keys lie about the point, on either axis. -/
structure Netlist.CenteredOn (n : Netlist Rat) (p : Point Rat) : Prop where
  x : ∃ left right, (n.keys.map fun k => k.position.x - k.width / 2).min? = some left ∧
    (n.keys.map fun k => k.position.x + k.width / 2).max? = some right ∧ left + right = 2 * p.x
  y : ∃ bottom top, (n.keys.map fun k => k.position.y - k.height / 2).min? = some bottom ∧
    (n.keys.map fun k => k.position.y + k.height / 2).max? = some top ∧ bottom + top = 2 * p.y

section
variable {α : Type} [Scalar α] {layout : Layout α} {config : MatrixConfig α} {m : CompiledMatrix α}

/-! ## Diodes -/

theorem mem_components_render (h : layout.compile config = .ok m) {c : Component α}
    (hc : c ∈ (m.render .empty).components) : ∃ k ∈ m.keys, ∃ pin, c = m.diodeTo k pin := by
  rw [CompiledMatrix.components_render h] at hc
  cases hdiodes : config.diodes with
  | false => rw [hdiodes] at hc; cases hc
  | true =>
    rw [hdiodes, if_pos rfl] at hc
    obtain ⟨k, hk, hc⟩ := List.mem_filterMap.mp hc
    obtain ⟨pin, _, rfl⟩ := Option.map_eq_some_iff.mp hc
    exact ⟨k, hk, pin, rfl⟩

/-- A diode stands at the one key that it is named after. -/
theorem position_diode (h : layout.compile config = .ok m) {c : Component α}
    (hc : c ∈ (m.render .empty).components) :
    (∃ p ∈ (m.render .empty).keys, c.name = diodeName p.name) ∧
      ∀ p ∈ (m.render .empty).keys, c.name = diodeName p.name →
        c.placement.position = p.position.offset config.diode.offset := by
  obtain ⟨k, hk, pin, rfl⟩ := mem_components_render h hc
  rw [CompiledMatrix.keys_render h]
  refine ⟨⟨m.placeKey k, List.mem_map_of_mem hk, rfl⟩, fun p hp hname => ?_⟩
  obtain ⟨k', hk', rfl⟩ := List.mem_map.mp hp
  have heq : k = k' := eq_of_name_eq h hk hk' (diodeName_injective hname)
  have hdiode : m.diode = config.diode := by
    obtain ⟨b, _, rfl⟩ := compile_eq_ok.mp h; rfl
  rw [heq, ← hdiode]; rfl

end

/-! ## Keys -/

/-- The key placed with its centre moved by `d`. -/
def Key.placedBy (d : Point Rat) (k : Key Rat) : PlacedKey Rat :=
  ⟨k.name, k.center.offset d, k.rotation, k.width, k.height⟩

section
variable {d : Point Rat} {edge : PlacedKey Rat → Rat} {edge' : Key Rat → Rat} {r a : Rat} {keys : List (Key Rat)}
  (h : ∀ k, edge (k.placedBy d) = edge' k + r)
include h

theorem map_edge_placedBy : (keys.map (Key.placedBy d)).map edge = (keys.map edge').map (· + r) := by
  rw [List.map_map, List.map_map]
  exact List.map_congr_left fun k _ => h k

theorem min?_edge_placedBy (ha : (keys.map edge').min? = some a) :
    ((keys.map (Key.placedBy d)).map edge).min? = some (a + r) := by
  rw [map_edge_placedBy h, List.min?_map_add, ha]; rfl

theorem max?_edge_placedBy (ha : (keys.map edge').max? = some a) :
    ((keys.map (Key.placedBy d)).map edge).max? = some (a + r) := by
  rw [map_edge_placedBy h, List.max?_map_add, ha]; rfl

end

section
variable {layout : Layout Rat} {config : MatrixConfig Rat} {m : CompiledMatrix Rat}

/-- The keys are placed as they are in the layout, all moved by the offset of the group less the centre
of their bounds. -/
theorem keys_render_placedBy (h : layout.compile config = .ok m) :
    ∃ b d, Bounds.of? layout.keys = some b ∧ d.x = config.pcbOffset.x - (b.minX + b.maxX) / 2 ∧
      d.y = config.pcbOffset.y - (b.minY + b.maxY) / 2 ∧
      (m.render .empty).keys = layout.keys.map (Key.placedBy d) := by
  have hkeys := CompiledMatrix.keys_render h
  obtain ⟨b, hb, rfl⟩ := compile_eq_ok.mp h
  refine ⟨b, ⟨config.pcbOffset.x - (b.minX + b.maxX) / 2, config.pcbOffset.y - (b.minY + b.maxY) / 2⟩,
    hb, rfl, rfl, ?_⟩
  rw [hkeys, config.keys_matrix, List.map_map]
  apply List.map_congr_left; intro k _
  have hx : k.center.x - (b.minX + b.maxX) / 2 + config.pcbOffset.x =
      k.center.x + (config.pcbOffset.x - (b.minX + b.maxX) / 2) := by ring
  have hy : k.center.y - (b.minY + b.maxY) / 2 + config.pcbOffset.y =
      k.center.y + (config.pcbOffset.y - (b.minY + b.maxY) / 2) := by ring
  exact congrArg₂ (fun x y => (⟨k.name, ⟨x, y⟩, k.rotation, k.width, k.height⟩ : PlacedKey Rat)) hx hy

theorem centeredOn_render (h : layout.compile config = .ok m) :
    (m.render .empty).CenteredOn config.pcbOffset := by
  obtain ⟨b, d, hb, hdx, hdy, hkeys⟩ := keys_render_placedBy h
  obtain ⟨hleft, hright, hbottom, htop⟩ := Bounds.of?_eq_some hb
  constructor
  · refine ⟨b.minX + d.x, b.maxX + d.x, ?_, ?_, by rw [hdx]; ring⟩
    · rw [hkeys]
      exact min?_edge_placedBy (fun _ => add_sub_right_comm _ _ _) hleft
    · rw [hkeys]
      exact max?_edge_placedBy (fun _ => add_right_comm _ _ _) hright
  · refine ⟨b.minY + d.y, b.maxY + d.y, ?_, ?_, by rw [hdy]; ring⟩
    · rw [hkeys]
      exact min?_edge_placedBy (fun _ => add_sub_right_comm _ _ _) hbottom
    · rw [hkeys]
      exact max?_edge_placedBy (fun _ => add_right_comm _ _ _) htop

theorem differences_render (h : layout.compile config = .ok m) :
    ∀ a ∈ layout.keys.zip (m.render .empty).keys, ∀ b ∈ layout.keys.zip (m.render .empty).keys,
      a.2.position.x - b.2.position.x = a.1.center.x - b.1.center.x ∧
        a.2.position.y - b.2.position.y = a.1.center.y - b.1.center.y := by
  obtain ⟨_, d, _, _, _, hkeys⟩ := keys_render_placedBy h
  rw [hkeys, ← List.map_prod_left_eq_zip]
  intro a ha b hb
  obtain ⟨k, _, rfl⟩ := List.mem_map.mp ha
  obtain ⟨k', _, rfl⟩ := List.mem_map.mp hb
  exact ⟨add_sub_add_right_eq_sub _ _ _, add_sub_add_right_eq_sub _ _ _⟩

end

/-- **Centred boards.** A layout that has a label gives a board on which the keys lie about the offset of the
group, each key is as far from each other one as in the layout, and each diode is the configured offset
away from its key. -/
theorem board_centered {layout : Layout Rat} (config : MatrixConfig Rat) (h : layout.labels ≠ []) :
    ∃ m, layout.compile config = .ok m ∧
      (m.render .empty).CenteredOn config.pcbOffset ∧
      (m.render .empty).keys.map (·.name) = layout.keys.map (·.name) ∧
      (∀ a ∈ layout.keys.zip (m.render .empty).keys, ∀ b ∈ layout.keys.zip (m.render .empty).keys,
        a.2.position.x - b.2.position.x = a.1.center.x - b.1.center.x ∧
          a.2.position.y - b.2.position.y = a.1.center.y - b.1.center.y) ∧
      ∀ c ∈ (m.render .empty).components,
        (∃ p ∈ (m.render .empty).keys, c.name = diodeName p.name) ∧
          ∀ p ∈ (m.render .empty).keys, c.name = diodeName p.name →
            c.placement.position = p.position.offset config.diode.offset := by
  obtain ⟨m, hm⟩ := exists_compile config h
  refine ⟨m, hm, centeredOn_render hm, ?_, differences_render hm, fun c hc => position_diode hm hc⟩
  rw [CompiledMatrix.map_name_rendered hm, map_name_compile hm, layout.map_name_keys]

/-- The rows, columns and diodes of the small board, away from the origin. -/
def offsetConfig : MatrixConfig Rat :=
  { sampleConfig with pcbOffset := ⟨100, -20⟩, diode := ⟨⟨1 / 2, -27 / 2⟩, .bottom⟩ }

theorem board_centered_staggered : staggeredLayout.labels ≠ [] ∧
    ∃ m, staggeredLayout.compile offsetConfig = .ok m ∧
      (m.render .empty).CenteredOn offsetConfig.pcbOffset ∧
      (m.render .empty).keys.map (·.name) = staggeredLayout.keys.map (·.name) ∧
      (∀ a ∈ staggeredLayout.keys.zip (m.render .empty).keys,
        ∀ b ∈ staggeredLayout.keys.zip (m.render .empty).keys,
          a.2.position.x - b.2.position.x = a.1.center.x - b.1.center.x ∧
            a.2.position.y - b.2.position.y = a.1.center.y - b.1.center.y) ∧
      ∀ c ∈ (m.render .empty).components,
        (∃ p ∈ (m.render .empty).keys, c.name = diodeName p.name) ∧
          ∀ p ∈ (m.render .empty).keys, c.name = diodeName p.name →
            c.placement.position = p.position.offset offsetConfig.diode.offset :=
  ⟨by decide, board_centered offsetConfig (by decide)⟩

end ScanMatrix
