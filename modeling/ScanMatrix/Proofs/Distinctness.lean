import Mathlib
import ScanMatrix.Proofs.Lists
import ScanMatrix.Proofs.Nets
import ScanMatrix.Proofs.Rendering
import ScanMatrix.Proofs.Terminal

/-!
# Nothing is merged

The keys and the diodes of a matrix have names of their own, so each is found under its name, and
no terminal is on two nets or twice on one (`matrix_distinct`).
-/

namespace ScanMatrix

variable {α : Type} [Scalar α] {layout : Layout α} {config : MatrixConfig α} {m : CompiledMatrix α}

theorem nodup_name_compile (h : layout.compile config = .ok m) : (m.keys.map (·.name)).Nodup := by
  rw [map_name_compile h]; exact layout.names_nodup

theorem eq_of_name_eq (h : layout.compile config = .ok m) {k k' : Key α} (hk : k ∈ m.keys) (hk' : k' ∈ m.keys)
    (hname : k.name = k'.name) : k = k' := List.inj_on_of_nodup_map (nodup_name_compile h) hk hk' hname

namespace CompiledMatrix

/-! ## Keys -/

theorem map_name_rendered (h : layout.compile config = .ok m) :
    (m.render .empty).keys.map (·.name) = m.keys.map (·.name) := by
  rw [keys_render h, List.map_map]; rfl

theorem key?_render (h : layout.compile config = .ok m) {k : Key α} (hk : k ∈ m.keys) :
    (m.render .empty).key? k.name = some (m.placeKey k) := by
  have hnodup := map_name_rendered h ▸ nodup_name_compile h
  have hplaced : m.placeKey k ∈ (m.render .empty).keys := by
    rw [keys_render h]; exact List.mem_map_of_mem hk
  exact List.find?_of_nodup_map (·.name) hnodup hplaced

/-! ## Diodes -/

theorem map_name_components (h : layout.compile config = .ok m) :
    ((m.render .empty).components.map (·.name)).Sublist (m.keys.map fun k => diodeName k.name) := by
  rw [components_render h]
  cases config.diodes with
  | false => exact List.nil_sublist _
  | true =>
    refine List.map_filterMap_sublist (fun k c hc => ?_) m.keys
    obtain ⟨pin, _, rfl⟩ := Option.map_eq_some_iff.mp hc
    rfl

theorem nodup_name_components (h : layout.compile config = .ok m) :
    ((m.render .empty).components.map (·.name)).Nodup := by
  refine (map_name_components h).nodup ?_
  have hnames := (nodup_name_compile h).map (f := diodeName) fun _ _ => diodeName_injective
  rwa [List.map_map] at hnames

theorem nodup_names_render (h : layout.compile config = .ok m) :
    ((m.render .empty).keys.map (·.name) ++ (m.render .empty).components.map (·.name)).Nodup := by
  rw [List.nodup_append, map_name_rendered h]
  refine ⟨nodup_name_compile h, nodup_name_components h, fun a ha b hb hab => ?_⟩
  obtain ⟨k, hk, rfl⟩ := List.mem_map.mp ha
  obtain ⟨k', _, rfl⟩ := List.mem_map.mp ((map_name_components h).subset hb)
  exact ne_diodeName (isDesignator_compile h hk) k'.name hab

theorem component?_render (h : layout.compile config = .ok m) {k : Key α} (hk : k ∈ m.keys) :
    (m.render .empty).component? (diodeName k.name) =
      if config.diodes then (config.rows.get? k.row).map (m.diodeTo k) else none := by
  have hnodup := nodup_name_components h
  unfold Netlist.component?
  rw [components_render h] at *
  cases hdiodes : config.diodes with
  | false => rfl
  | true =>
    simp only [hdiodes, if_true] at *
    cases hpin : config.rows.get? k.row with
    | some pin =>
      have hmem : m.diodeTo k pin ∈ m.keys.filterMap fun k => (config.rows.get? k.row).map (m.diodeTo k) :=
        List.mem_filterMap.mpr ⟨k, hk, by rw [hpin]; rfl⟩
      exact List.find?_of_nodup_map (·.name) hnodup hmem
    | none =>
      rw [Option.map_none, List.find?_eq_none]
      intro c hc hname
      obtain ⟨k', hk', hc⟩ := List.mem_filterMap.mp hc
      obtain ⟨pin, hpin', rfl⟩ := Option.map_eq_some_iff.mp hc
      have heq := eq_of_name_eq h hk' hk (diodeName_injective (beq_iff_eq.mp hname))
      rw [heq, hpin] at hpin'
      cases hpin'

end CompiledMatrix

/-! ## Terminals -/

omit [Scalar α] in
theorem nodup_filterMap_text {ks : List (Key α)} (hks : (ks.map (·.name)).Nodup) {text : String → String}
    (htext : Function.Injective text) (pin? : Key α → Option String) :
    ((ks.filterMap fun k => (pin? k).map fun pin => (pin, text k.name)).map (·.2)).Nodup := by
  have hsub : ((ks.filterMap fun k => (pin? k).map fun pin => (pin, text k.name)).map (·.2)).Sublist
      (ks.map fun k => text k.name) := by
    refine List.map_filterMap_sublist (fun k e he => ?_) ks
    obtain ⟨pin, _, rfl⟩ := Option.map_eq_some_iff.mp he
    rfl
  have htexts := hks.map htext
  rw [List.map_map] at htexts
  exact hsub.nodup htexts

theorem nodup_memberships_render (h : layout.compile config = .ok m) :
    ((m.render .empty).memberships.map (·.2)).Nodup := by
  have hnames : (layout.keys.map (·.name)).Nodup := by
    rw [layout.map_name_keys]; exact layout.names_nodup
  refine (((memberships_render h).map _).nodup_iff).mpr ?_
  rw [List.map_append, List.nodup_append]
  refine ⟨nodup_filterMap_text hnames (fun _ _ => text_port_injective) fun k => config.cols.get? k.col,
    nodup_filterMap_text hnames (fun _ _ => WiringMode.rowTerminal_injective) fun k => config.rows.get? k.row,
    fun a ha b hb hab => ?_⟩
  simp only [List.mem_map, List.mem_filterMap] at ha hb
  obtain ⟨_, ⟨k, _, hcol⟩, rfl⟩ := ha
  obtain ⟨_, ⟨k', _, hrow⟩, rfl⟩ := hb
  obtain ⟨_, _, rfl⟩ := Option.map_eq_some_iff.mp hcol
  obtain ⟨_, _, rfl⟩ := Option.map_eq_some_iff.mp hrow
  exact config.wiringMode.rowTerminal_ne_columnPin _ _ hab.symm

/-- **Nothing is merged.** The names of all keys and diodes are different, each key and each diode
is found under its name, a diode only where the key has one, and no member is listed twice. -/
theorem matrix_distinct (h : layout.compile config = .ok m) :
    ((m.render .empty).keys.map (·.name) ++ (m.render .empty).components.map (·.name)).Nodup ∧
    (∀ k ∈ m.keys, (m.render .empty).key? k.name = some (m.placeKey k)) ∧
    (∀ k ∈ m.keys, (m.render .empty).component? (diodeName k.name) =
      if config.diodes then (config.rows.get? k.row).map (m.diodeTo k) else none) ∧
    ((m.render .empty).nets.entries.flatMap (·.2)).Nodup := by
  refine ⟨CompiledMatrix.nodup_names_render h, fun k hk => CompiledMatrix.key?_render h hk,
    fun k hk => CompiledMatrix.component?_render h hk, ?_⟩
  exact (Netlist.flatMap_nets_perm _).nodup_iff.mpr (nodup_memberships_render h)

theorem matrix_distinct_sample : ∃ m, sampleLayout.compile sampleConfig = .ok m ∧
    m.keys.map (·.name) = ["K_A", "K_N1", "K1"] ∧
    ((m.render .empty).keys.map (·.name) ++ (m.render .empty).components.map (·.name)).Nodup ∧
    (∀ k ∈ m.keys, (m.render .empty).key? k.name = some (m.placeKey k)) ∧
    (∀ k ∈ m.keys, (m.render .empty).component? (diodeName k.name) =
      if sampleConfig.diodes then (sampleConfig.rows.get? k.row).map (m.diodeTo k) else none) ∧
    ((m.render .empty).nets.entries.flatMap (·.2)).Nodup := by
  obtain ⟨m, hm, hnames⟩ := compile_sample
  exact ⟨m, hm, hnames, matrix_distinct hm⟩

end ScanMatrix
