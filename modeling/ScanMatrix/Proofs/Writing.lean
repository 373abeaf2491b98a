import Mathlib
import ScanMatrix.Json.Printer
import ScanMatrix.Proofs.Decoding

/-!
# Reading what was written

Strings are read back from the text that is written for them, whatever characters they have to escape
(`scalar_writeString`). An array is read back if its items are (`parse_array`).
-/

namespace ScanMatrix.Json

open Outcome Text

/-! ## Strings -/

theorem hexDigit?_hexDigit : ∀ n < 16, hexDigit? (hexDigit n) = some n := by decide

theorem hex4?_byte {n : Nat} (h : n < 256) : hex4? '0' '0' (hexDigit (n / 16)) (hexDigit (n % 16)) = some n := by
  have hhigh := hexDigit?_hexDigit (n / 16) (by omega)
  have hlow := hexDigit?_hexDigit (n % 16) (by omega)
  have hzero : hexDigit? '0' = some 0 := rfl
  simp only [hex4?, hhigh, hlow, hzero, Option.bind_eq_bind, Option.bind_some, Option.pure_def]
  congr 1
  omega

theorem characters_simple {e c : Char} (h : simpleEscape? e = some c) (taken s : List Char) :
    characters taken ('\\' :: e :: s) = characters (c :: taken) s := by
  rw [characters.eq_def]
  simp [h]

theorem characters_plain {c : Char} (h : ¬ c < ' ') (hq : c ≠ '"') (hb : c ≠ '\\') (taken s : List Char) :
    characters taken (c :: s) = characters (c :: taken) s := by
  rw [characters.eq_def]
  simp [h, hb]

theorem characters_hex {a b c d : Char} {n : Nat} (h : hex4? a b c d = some n) (hn : n < 0xD800) (taken s : List Char) :
    characters taken ('\\' :: 'u' :: a :: b :: c :: d :: s) = characters (Char.ofNat n :: taken) s := by
  have hlow : isLowSurrogate n = false := by simp [isLowSurrogate]; omega
  have hhigh : isHighSurrogate n = false := by simp [isHighSurrogate]; omega
  rw [characters.eq_def]
  simp [h, hlow, hhigh, simpleEscape?]

theorem escape_cases (c : Char) :
    (∃ e, escape c = ['\\', e] ∧ simpleEscape? e = some c) ∨
    (c < ' ' ∧ escape c = ['\\', 'u', '0', '0', hexDigit (c.toNat / 16), hexDigit (c.toNat % 16)]) ∨
    (escape c = [c] ∧ ¬ c < ' ' ∧ c ≠ '"' ∧ c ≠ '\\') := by
  by_cases hs : c ∈ ['"', '\\', '\x08', '\t', '\n', '\x0c', '\r']
  · left
    fin_cases hs
    all_goals exact ⟨_, rfl, rfl⟩
  · right
    simp only [List.mem_cons, not_or] at hs
    by_cases hc : c < ' '
    · exact .inl ⟨hc, by simp [escape, hs, hc]⟩
    · exact .inr ⟨by simp [escape, hs, hc], hc, hs.1, hs.2.1⟩

theorem characters_escape (taken : List Char) (c : Char) (s : List Char) :
    characters taken (escape c ++ s) = characters (c :: taken) s := by
  rcases escape_cases c with ⟨e, he, hc⟩ | ⟨hc, he⟩ | ⟨he, hc, hq, hb⟩
  · rw [he]; exact characters_simple hc taken s
  · have hlt : c.toNat < 32 := hc
    have hbyte := hex4?_byte (n := c.toNat) (by omega)
    have h := characters_hex hbyte (by omega) taken s
    rw [Char.ofNat_toNat] at h
    rw [he]; exact h
  · rw [he]; exact characters_plain hc hq hb taken s

theorem characters_flatMap_escape (cs s : List Char) : ∀ taken : List Char,
    characters taken (cs.flatMap escape ++ '"' :: s) = .ok (String.ofList (taken.reverse ++ cs)) s := by
  induction cs with
  | nil => intro taken; simp [characters]
  | cons c cs ih =>
    intro taken
    rw [List.flatMap_cons, List.append_assoc, characters_escape, ih]
    simp

theorem quotedText_escape (text : String) (s : List Char) :
    quotedText (text.toList.flatMap escape ++ '"' :: s) = .ok text s := by
  unfold quotedText
  rw [characters_flatMap_escape]
  simp

theorem toList_writeString (text : String) : (writeString text).toList = '"' :: (text.toList.flatMap escape ++ ['"']) := by
  simp [writeString]

theorem scalar_writeString (text : String) (s : List Char) :
    scalar ((writeString text).toList ++ s) = .ok (.string text) s := by
  rw [toList_writeString, List.cons_append, List.append_assoc, List.singleton_append, scalar, quotedText_escape]
  rfl

/-! ## Arrays -/

/-- The text begins with a character that can begin an item. -/
def Opens (s : List Char) : Prop := ∃ c r, s = c :: r ∧ isBlank c = false ∧ c ≠ ']' ∧ c ≠ ','

theorem Opens.append {s : List Char} (h : Opens s) (s' : List Char) : Opens (s ++ s') := by
  obtain ⟨c, r, rfl, hc⟩ := h
  exact ⟨c, r ++ s', rfl, hc⟩

theorem nextItem_first {s : List Char} (h : Opens s) : nextItem true s = .ok true s := by
  obtain ⟨c, r, rfl, hblank, hend, hcomma⟩ := h
  have hskip : skipBlanks (c :: r) = c :: r := by simp [skipBlanks, hblank]
  rw [nextItem.eq_def, hskip]
  simp [hend, hcomma]

theorem nextItem_later {s : List Char} (h : Opens s) : nextItem false (',' :: s) = .ok true s := by
  obtain ⟨c, r, rfl, hblank, hend, hcomma⟩ := h
  have hskip : skipBlanks (c :: r) = c :: r := by simp [skipBlanks, hblank]
  have hcomma' : skipBlanks (',' :: c :: r) = ',' :: c :: r := rfl
  rw [nextItem.eq_def, hcomma']
  simp [hskip, hend]

/-- The value is read from its text on one line, up to the end of it. -/
structure ReadBack (reader : Reader Json) (v : Json) : Prop where
  opens : Opens (compact v).toList
  reads : ∀ s, reader ((compact v).toList ++ s) = .ok v s

/-- The items of an array after the first one, as they are written. -/
def laterItems (vs : List Json) : List Char := vs.flatMap fun v => ',' :: (compact v).toList

theorem toList_compactItems (v : Json) (vs : List Json) :
    (compactItems (v :: vs)).toList = (compact v).toList ++ laterItems vs := by
  induction vs generalizing v with
  | nil => simp [compactItems, laterItems]
  | cons w vs ih =>
    rw [compactItems, String.toList_append, String.toList_append, ih]
    · simp [laterItems]
    · simp

theorem length_le_laterItems (vs : List Json) : vs.length ≤ (laterItems vs).length := by
  induction vs with
  | nil => simp
  | cons v vs ih =>
    simp only [laterItems, List.flatMap_cons, List.length_append, List.length_cons] at ih ⊢
    omega

section
variable {reader : Reader Json} {vs : List Json} (h : ∀ v ∈ vs, ReadBack reader v)
include h

theorem itemsFrom_laterItems (s : List Char) {fuel : Nat} (hfuel : vs.length < fuel) :
    itemsFrom reader fuel false (laterItems vs ++ ']' :: s) = .ok vs (']' :: s) := by
  induction vs generalizing fuel with
  | nil =>
    obtain ⟨fuel, rfl⟩ := Nat.exists_eq_add_one.mpr hfuel
    exact itemsFrom_eq_ok.mpr (.inl ⟨rfl, rfl⟩)
  | cons v vs ih =>
    obtain ⟨fuel, rfl⟩ := Nat.exists_eq_add_one.mpr (Nat.zero_lt_of_lt hfuel)
    obtain ⟨hv, hvs⟩ := List.forall_mem_cons.mp h
    have hnext : nextItem false (laterItems (v :: vs) ++ ']' :: s) =
        .ok true ((compact v).toList ++ (laterItems vs ++ ']' :: s)) := by
      rw [← nextItem_later (hv.opens.append _)]
      simp [laterItems]
    have hrest := ih hvs (Nat.lt_of_succ_lt_succ hfuel)
    exact itemsFrom_eq_ok.mpr (.inr ⟨_, v, _, vs, hnext, hv.reads _, hrest, rfl⟩)

theorem itemsFrom_compactItems (s : List Char) {fuel : Nat} (hfuel : vs.length < fuel) :
    itemsFrom reader fuel true ((compactItems vs).toList ++ ']' :: s) = .ok vs (']' :: s) := by
  obtain ⟨fuel, rfl⟩ := Nat.exists_eq_add_one.mpr (Nat.zero_lt_of_lt hfuel)
  cases vs with
  | nil => exact itemsFrom_eq_ok.mpr (.inl ⟨rfl, rfl⟩)
  | cons v vs =>
    obtain ⟨hv, hvs⟩ := List.forall_mem_cons.mp h
    have hrest := itemsFrom_laterItems hvs s (Nat.lt_of_succ_lt_succ hfuel)
    rw [toList_compactItems, List.append_assoc]
    exact itemsFrom_eq_ok.mpr (.inr ⟨_, v, _, vs, nextItem_first (hv.opens.append _), hv.reads _, hrest, rfl⟩)

end

theorem length_le_compactItems (vs : List Json) : vs.length ≤ (compactItems vs).toList.length + 1 := by
  cases vs with
  | nil => simp
  | cons v vs =>
    have h := length_le_laterItems vs
    rw [toList_compactItems, List.length_append, List.length_cons]
    omega

theorem parse_array {vs : List Json} (h : ∀ v ∈ vs, ∀ room, ReadBack (value room) v) :
    parse (compact (.array vs)) = .ok (.array vs) := by
  have htext : (compact (.array vs)).toList = '[' :: ((compactItems vs).toList ++ [']']) := by simp [compact]
  have hfuel : vs.length < ('[' :: ((compactItems vs).toList ++ [']'])).length + 1 := by
    have hlen := length_le_compactItems vs
    rw [List.length_cons, List.length_append, List.length_singleton]
    omega
  have hitems := itemsFrom_compactItems (fun v hv => h v hv (deepest - 1)) [] hfuel
  have harray := arrayOf_eq_ok.mpr ⟨_, hitems, rfl⟩
  refine readAll_eq_ok.mpr ⟨[], value_eq_array.mpr ⟨deepest - 1, _, rfl, ?_, harray⟩, rfl⟩
  rw [htext]; rfl

theorem readBack_null (room : Nat) : ReadBack (value room) .null := by
  refine ⟨⟨'n', _, rfl, rfl, by decide, by decide⟩, fun s => ?_⟩
  have h := value_eq_scalar (s := 'n' :: 'u' :: 'l' :: 'l' :: s) rfl (by decide) (by decide) room
  exact h

theorem readBack_string (text : String) (room : Nat) : ReadBack (value room) (.string text) := by
  have htext : (compact (.string text)).toList = '"' :: (text.toList.flatMap escape ++ ['"']) :=
    toList_writeString text
  refine ⟨⟨'"', _, htext, rfl, by decide, by decide⟩, fun s => ?_⟩
  rw [← scalar_writeString text s, toList_writeString, htext]
  exact value_eq_scalar rfl (by decide) (by decide) room

end ScanMatrix.Json
