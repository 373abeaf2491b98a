import Mathlib
import ScanMatrix.Matrix.Decoders
import ScanMatrix.Proofs.Acceptance
import ScanMatrix.Proofs.Decoding
import ScanMatrix.Proofs.Lists
import ScanMatrix.Proofs.Writing

/-!
# Ways to a pin map

A pin map is made from slots, from names or from a text, and always keeps the places of its slots and drops
empty names. A text gives one if it is an array of strings and nulls, and the text of a pin map gives that
pin map back (`pin_maps_agree`).
-/

namespace ScanMatrix

open Json

namespace PinMap

/-! ## Slots -/

theorem get?_ofList_eq_some {slots : List (Option String)} {i : Nat} {name : String} :
    (ofList slots).get? i = some name ↔ slots[i]? = some (some name) ∧ name ≠ "" := by
  unfold get? ofList
  rw [List.getElem?_map, Option.join_eq_some_iff, Option.map_eq_some_iff]
  constructor
  · rintro ⟨slot, hslot, hname⟩
    obtain ⟨rfl, hne⟩ := Option.filter_eq_some_iff.mp hname
    exact ⟨hslot, by simpa using hne⟩
  · rintro ⟨hslot, hne⟩
    exact ⟨some name, hslot, Option.filter_eq_some_iff.mpr ⟨rfl, by simpa using hne⟩⟩

theorem get?_ne_empty (p : PinMap) (i : Nat) : p.get? i ≠ some "" := by
  intro h
  exact p.named (List.mem_of_getElem? (Option.join_eq_some_iff.mp h))

theorem pins_eq_map_get? (p : PinMap) : p.pins = (List.range p.size).map p.get? := by
  refine List.ext_getElem (by simp [size]) fun i hi _ => ?_
  simp [get?, hi]

theorem assigned_eq (p : PinMap) :
    p.assigned = ((List.range p.size).filter fun i => (p.get? i).isSome).length := by
  unfold assigned
  rw [p.pins_eq_map_get?, List.countP_map, List.countP_eq_length_filter]; rfl

theorem ofList_pins (p : PinMap) : ofList p.pins = p := by
  have hfilter : p.pins.map (Option.filter (· ≠ "")) = p.pins := by
    refine (List.map_congr_left fun slot hslot => ?_).trans (List.map_id _)
    cases slot with
    | none => rfl
    | some name =>
      have hne : name ≠ "" := fun h => p.named (h ▸ hslot)
      simp [hne]
  obtain ⟨pins, named⟩ := p
  unfold ofList
  congr 1

/-! ## Values -/

def slotJson : Option String → Json
  | some name => .string name
  | none => .null

theorem toJson_eq (p : PinMap) : p.toJson = .array (p.pins.map slotJson) := by
  unfold toJson
  congr 1

theorem slotOfJson?_eq_some {v : Json} {slot : Option String} : slotOfJson? v = some slot ↔ v = slotJson slot := by
  cases v <;> cases slot <;> simp [slotOfJson?, slotJson]

theorem mapM_slotOfJson? {items : List Json} {slots : List (Option String)} :
    items.mapM slotOfJson? = some slots ↔ items = slots.map slotJson := by
  rw [List.mapM_eq_some, ← List.forall₂_eq_eq_eq, List.forall₂_map_right_iff]
  simp only [slotOfJson?_eq_some]

theorem ofJson?_eq_some {v : Json} {p : PinMap} :
    ofJson? v = some p ↔ ∃ slots, v = .array (slots.map slotJson) ∧ ofList slots = p := by
  cases v with
  | array items => simp [ofJson?, Option.map_eq_some_iff, mapM_slotOfJson?]
  | _ => simp [ofJson?]

theorem ofJson?_toJson (p : PinMap) : ofJson? p.toJson = some p :=
  ofJson?_eq_some.mpr ⟨p.pins, p.toJson_eq, p.ofList_pins⟩

/-! ## Texts -/

theorem through_slot (room : Nat) :
    Through slotOfJson? (value room) ((Decoder.optional Decoder.text).json room) := by
  have hslot : ∀ v, slotOfJson? v = Decoder.orNull string? v := by
    intro v; cases v <;> rfl
  intro s slot r
  simp only [hslot]
  have htext : Through string? (value room) (Decoder.text.json room) :=
    through_scalarOf "a string" (fun _ => rfl) (fun _ => rfl) room
  exact Decoder.through_optional htext s slot r

theorem through_decoder (room : Nat) : Through ofJson? (value room) (decoder.json room) := by
  have hjson : ofJson? = fun v => (itemsThrough slotOfJson? v).map ofList := by
    funext v; cases v <;> rfl
  rw [hjson]
  exact (through_list through_slot room).map ofList

theorem read_eq_ok {text : String} {p : PinMap} :
    read text = .ok p ↔ ∃ v, Json.parse text = .ok v ∧ ofJson? v = some p := (through_decoder deepest).readAll_eq_ok

theorem parse_toJson (p : PinMap) : Json.parse p.toJson.compact = .ok p.toJson := by
  rw [toJson_eq]
  refine parse_array fun v hv room => ?_
  obtain ⟨slot, _, rfl⟩ := List.mem_map.mp hv
  cases slot with
  | none => exact readBack_null room
  | some name => exact readBack_string name room

end PinMap

open PinMap in
/-- **Pin maps.** A pin map made from slots has as many slots, each with its name unless that is absent or
empty, and none has an empty name. Names make the pin map of slots that all have one, and a value or a text makes
one if it is an array of strings and nulls, namely the pin map of these slots. What is written of a pin map is read
as that pin map. -/
theorem pin_maps_agree :
    (∀ slots : List (Option String), (ofList slots).size = slots.length ∧
      (∀ i name, (ofList slots).get? i = some name ↔ slots[i]? = some (some name) ∧ name ≠ "") ∧
      (ofList slots).assigned =
        ((List.range slots.length).filter fun i => ((ofList slots).get? i).isSome).length) ∧
    (∀ (p : PinMap) i, p.get? i ≠ some "") ∧
    (∀ names, ofNames names = ofList (names.map some)) ∧
    (∀ v p, ofJson? v = some p ↔ ∃ slots, v = .array (slots.map slotJson) ∧ ofList slots = p) ∧
    (∀ text p, read text = .ok p ↔
      ∃ slots, Json.parse text = .ok (.array (slots.map slotJson)) ∧ ofList slots = p) ∧
    ∀ p : PinMap, ofJson? p.toJson = some p ∧ read p.toJson.compact = .ok p := by
  have hsize : ∀ slots : List (Option String), (ofList slots).size = slots.length := fun slots => List.length_map _
  refine ⟨fun slots => ⟨hsize slots, fun i name => get?_ofList_eq_some, ?_⟩, get?_ne_empty, fun names => rfl,
    fun v p => ofJson?_eq_some, fun text p => ?_, fun p => ⟨p.ofJson?_toJson, ?_⟩⟩
  · rw [assigned_eq, hsize]
  · simp only [read_eq_ok, ofJson?_eq_some]
    constructor
    · rintro ⟨v, hv, slots, rfl, hp⟩; exact ⟨slots, hv, hp⟩
    · rintro ⟨slots, hv, hp⟩; exact ⟨_, hv, slots, rfl, hp⟩
  · exact read_eq_ok.mpr ⟨_, p.parse_toJson, p.ofJson?_toJson⟩

end ScanMatrix
