import ScanMatrix.Matrix.Parts
import ScanMatrix.Matrix.Wiring
import ScanMatrix.Proofs.Designator

/-!
# Terminals of the matrix

A switch is joined to its row at one terminal and to its column at another; with diodes it is the
cathode of the diode that is joined to the row. The terminals of keys with different names have
different texts.
-/

namespace ScanMatrix

/-! ## Names of diodes -/

theorem toList_diodeName (key : String) : (diodeName key).toList = key.toList ++ ['_', 'D', 'I', 'O'] := by
  unfold diodeName
  rw [String.toList_append]; rfl

theorem diodeName_injective {a b : String} (h : diodeName a = diodeName b) : a = b := by
  have hl := congrArg String.toList h
  rw [toList_diodeName, toList_diodeName] at hl
  exact String.toList_inj.mp (List.append_cancel_right hl)

open Designators in
/-- The name of a key never ends like the name of a diode. -/
theorem ne_diodeName {name : String} (h : IsDesignator name) (key : String) : name ≠ diodeName key := by
  intro heq
  have hl := congrArg String.toList heq
  rw [toList_diodeName] at hl
  cases h with
  | letter c hc =>
    have hlen := congrArg List.length hl
    simp at hlen
  | digit c hc =>
    have hkey : key.toList = [] := by
      have hlen := congrArg List.length hl
      simp at hlen; simp [hlen]
    rw [hkey] at hl
    simp at hl
  | ordinal n =>
    rw [toList_ordinal] at hl
    have hlast : ('K' :: Nat.toDigits 10 n).getLast? = some 'O' := by rw [hl]; simp
    cases hd : (Nat.toDigits 10 n).getLast? with
    | none => exact Nat.toDigits_ne_nil (List.getLast?_eq_none_iff.mp hd)
    | some c =>
      rw [List.getLast?_cons, hd] at hlast
      have hdigit := Nat.isDigit_of_mem_toDigits (b := 10) (by decide) (by decide) (List.mem_of_getLast? hd)
      cases hlast
      exact absurd hdigit (by decide)

/-! ## Texts -/

theorem text_port (component pin : String) :
    (Endpoint.port component pin).text.toList = '.' :: (component.toList ++ ' ' :: '.' :: pin.toList) := by
  unfold Endpoint.text
  simp

theorem text_port_injective {a b pin : String} (h : (Endpoint.port a pin).text = (Endpoint.port b pin).text) :
    a = b := by
  have hl := congrArg String.toList h
  rw [text_port, text_port, List.cons.injEq] at hl
  exact String.toList_inj.mp (List.append_cancel_right hl.2)

/-- Terminals of pins that end differently are different. -/
theorem text_port_ne {a b p q : String} {c d : Char} (hp : p.toList.getLast? = some c)
    (hq : q.toList.getLast? = some d) (hcd : c ≠ d) : (Endpoint.port a p).text ≠ (Endpoint.port b q).text := by
  intro h
  have hl := congrArg (fun s => s.toList.getLast?) h
  simp only [text_port, List.getLast?_cons, List.getLast?_append, hp, hq] at hl
  simp at hl
  exact hcd hl

namespace WiringMode

/-- The terminal that is joined to the row of a key. -/
def rowTerminal : WiringMode → String → Endpoint
  | .direct, key => .rowPin key
  | .diodePerKey, key => .port (diodeName key) DiodePart.cathode

theorem rowTerminal_injective {mode : WiringMode} {a b : String}
    (h : (mode.rowTerminal a).text = (mode.rowTerminal b).text) : a = b := by
  cases mode with
  | direct => exact text_port_injective h
  | diodePerKey => exact diodeName_injective (text_port_injective h)

theorem rowTerminal_ne_columnPin (mode : WiringMode) (a b : String) :
    (mode.rowTerminal a).text ≠ (Endpoint.columnPin b).text := by
  cases mode with
  | direct => exact text_port_ne (c := '1') (d := '2') rfl rfl (by decide)
  | diodePerKey => exact text_port_ne (c := 'C') (d := '2') rfl rfl (by decide)

end WiringMode

theorem text_rowPin (key : String) : (Endpoint.rowPin key).text = "." ++ key ++ " .pin1" := by
  show "." ++ key ++ " ." ++ "pin1" = _
  rw [String.append_assoc]; rfl

theorem text_columnPin (key : String) : (Endpoint.columnPin key).text = "." ++ key ++ " .pin2" := by
  show "." ++ key ++ " ." ++ "pin2" = _
  rw [String.append_assoc]; rfl

theorem text_cathode (key : String) :
    (WiringMode.diodePerKey.rowTerminal key).text = "." ++ key ++ "_DIO .C" := by
  show "." ++ (key ++ "_DIO") ++ " ." ++ "C" = _
  simp only [String.append_assoc]; rfl

end ScanMatrix
