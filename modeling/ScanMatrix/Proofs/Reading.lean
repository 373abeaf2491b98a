import Mathlib
import ScanMatrix.Layout.Reader
import ScanMatrix.Proofs.Lists

/-!
# Reading layouts as values

A layout is read cell by cell, and no value of the whole text is ever made. The readers take what the
reader of values takes all the same, seen through the form that is asked for, so a layout is read from
exactly the documents that have its form (`Layout.read_eq_ok`).
-/

namespace ScanMatrix

variable {α β : Type}

namespace Json

/-! ## When a reader succeeds -/

namespace Outcome

@[simp] theorem here_ne_ok (fault : Fault) (s : List Char) (a : α) (r : List Char) : here fault s ≠ .ok a r := by
  simp [here]

@[simp] theorem peek_ne_ok (fault : Fault) (s : List Char) (a : α) (r : List Char) : peek fault s ≠ .ok a r := by
  simp [peek]

@[simp] theorem amiss_ne_ok (what : Mismatch) (s : List Char) (a : α) (r : List Char) :
    amiss what s ≠ .ok a r := by
  simp [amiss]

@[simp] theorem map_eq_ok {o : Outcome α} {f : α → β} {b : β} {r : List Char} :
    o.map f = .ok b r ↔ ∃ a, o = .ok a r ∧ f a = b := by
  cases o <;> simp [map, and_comm]

@[simp] theorem andThen_eq_ok {o : Outcome α} {f : α → Reader β} {b : β} {r : List Char} :
    o.andThen f = .ok b r ↔ ∃ a s, o = .ok a s ∧ f a s = .ok b r := by
  cases o <;> simp [andThen]

@[simp] theorem settled_eq_ok {o : Outcome α} {a : α} {r : List Char} : o.settled = .ok a r ↔ o = .ok a r := by
  cases o <;> simp [settled]

end Outcome

theorem refuse_ne_ok (wanted : String) (s : List Char) (a : α) (r : List Char) : refuse wanted s ≠ .ok a r := by
  unfold refuse
  split <;> simp

theorem enclosed_eq_ok {inside : Reader α} {finish : Reader Unit} {s : List Char} {a : α} {r : List Char} :
    enclosed inside finish s = .ok a r ↔ ∃ s', inside s = .ok a s' ∧ finish s' = .ok () r := by
  unfold enclosed
  cases inside s with
  | fail stop s' => simp
  | ok a' s' => cases h : finish s' <;> simp [h]

theorem arrayOf_eq_ok {item : Reader α} {s : List Char} {as : List α} {r : List Char} :
    arrayOf item s = .ok as r ↔
      ∃ s', itemsFrom item (s.length + 1) true (s.drop 1) = .ok as s' ∧ endArray s' = .ok () r := enclosed_eq_ok

theorem itemsFrom_eq_ok {item : Reader α} {fuel : Nat} {first : Bool} {s : List Char} {as : List α}
    {r : List Char} : itemsFrom item (fuel + 1) first s = .ok as r ↔
      (nextItem first s = .ok false r ∧ as = []) ∨
      ∃ s' a s'' as', nextItem first s = .ok true s' ∧ item s' = .ok a s'' ∧
        itemsFrom item fuel false s'' = .ok as' r ∧ as = a :: as' := by
  rw [itemsFrom]
  cases nextItem first s with
  | fail stop s' => simp
  | ok more s' =>
    cases more with
    | false => simp [and_comm, eq_comm]
    | true => cases h : item s' <;> simp [h, eq_comm]

theorem readAll_eq_ok {reader : Reader α} {text : String} {a : α} :
    readAll reader text = .ok a ↔ ∃ r, reader text.toList = .ok a r ∧ skipBlanks r = [] := by
  unfold readAll
  dsimp only
  cases reader text.toList with
  | fail stop r => simp
  | ok a' r => cases h : skipBlanks r <;> simp [h]

/-! ## Arrays -/

theorem list_eq_ok {item : Nat → Reader α} {room : Nat} {s : List Char} {as : List α} {r : List Char} :
    list item room s = .ok as r ↔
      ∃ room' s', room = room' + 1 ∧ skipBlanks s = '[' :: s' ∧ arrayOf (item room') ('[' :: s') = .ok as r := by
  unfold list atToken
  cases skipBlanks s with
  | nil => simp
  | cons c s' =>
    by_cases hc : c = '['
    · subst hc
      cases room <;> simp
    · simp [hc, refuse_ne_ok]

theorem scalar_ne_array (s : List Char) (items : List Json) (r : List Char) : scalar s ≠ .ok (.array items) r := by
  unfold scalar
  split
  all_goals try split
  all_goals simp

theorem value_eq_array {room : Nat} {s : List Char} {items : List Json} {r : List Char} :
    value room s = .ok (.array items) r ↔
      ∃ room' s', room = room' + 1 ∧ skipBlanks s = '[' :: s' ∧
        arrayOf (value room') ('[' :: s') = .ok items r := by
  cases room with
  | zero =>
    rw [value]
    split <;> simp [scalar_ne_array]
  | succ room =>
    rw [value]
    split <;> simp_all [scalar_ne_array]

/-! ## One reader through another -/

/-- The reader `part` takes what `whole` takes, as `f` sees it, and nothing else. -/
def Through (f : α → Option β) (whole : Reader α) (part : Reader β) : Prop :=
  ∀ s b r, part s = .ok b r ↔ ∃ a, whole s = .ok a r ∧ f a = some b

namespace Through

variable {γ : Type} {f : α → Option β} {whole : Reader α} {part : Reader β}

theorem map (h : Through f whole part) (g : β → γ) :
    Through (fun a => (f a).map g) whole fun s => (part s).map g := by
  intro s c r
  simp only [Outcome.map_eq_ok, h _ _ _, Option.map_eq_some_iff]
  constructor
  · rintro ⟨b, ⟨a, ha, hb⟩, hc⟩; exact ⟨a, ha, b, hb, hc⟩
  · rintro ⟨a, ha, b, hb, hc⟩; exact ⟨b, ⟨a, ha, hb⟩, hc⟩

theorem readAll_eq_ok (h : Through f whole part) {text : String} {b : β} :
    readAll part text = .ok b ↔ ∃ a, readAll whole text = .ok a ∧ f a = some b := by
  simp only [Json.readAll_eq_ok, h _ _ _]
  constructor
  · rintro ⟨r, ⟨a, ha, hb⟩, hr⟩; exact ⟨a, ⟨r, ha, hr⟩, hb⟩
  · rintro ⟨a, ⟨r, ha, hr⟩, hb⟩; exact ⟨r, ⟨a, ha, hb⟩, hr⟩

end Through

/-- The items of an array, each as `f` sees it. -/
def itemsThrough (f : Json → Option β) : Json → Option (List β)
  | .array items => items.mapM f
  | _ => none

theorem through_itemsFrom {f : α → Option β} {whole : Reader α} {part : Reader β} (h : Through f whole part) :
    ∀ (fuel : Nat) (first : Bool), Through (List.mapM f) (itemsFrom whole fuel first) (itemsFrom part fuel first) := by
  intro fuel
  induction fuel with
  | zero => intro first s bs r; simp [itemsFrom]
  | succ fuel ih =>
    intro first s bs r
    simp only [itemsFrom_eq_ok, h _ _ _, ih _ _ _ _]
    constructor
    · rintro (⟨hnext, rfl⟩ | ⟨s', b, s'', bs', hnext, ⟨a, ha, hb⟩, ⟨as, has, hbs⟩, rfl⟩)
      · exact ⟨[], .inl ⟨hnext, rfl⟩, rfl⟩
      · exact ⟨a :: as, .inr ⟨s', a, s'', as, hnext, ha, has, rfl⟩, List.mapM_cons_eq_some.mpr ⟨b, bs', hb, hbs, rfl⟩⟩
    · rintro ⟨as, ⟨hnext, rfl⟩ | ⟨s', a, s'', as', hnext, ha, has, rfl⟩, hbs⟩
      · exact .inl ⟨hnext, by simpa using hbs.symm⟩
      · obtain ⟨b, bs', hb, hbs', rfl⟩ := List.mapM_cons_eq_some.mp hbs
        exact .inr ⟨s', b, s'', bs', hnext, ⟨a, ha, hb⟩, ⟨as', has, hbs'⟩, rfl⟩

theorem through_arrayOf {f : α → Option β} {whole : Reader α} {part : Reader β} (h : Through f whole part) :
    Through (List.mapM f) (arrayOf whole) (arrayOf part) := by
  intro s bs r
  simp only [arrayOf_eq_ok, through_itemsFrom h _ _ _ _ _]
  constructor
  · rintro ⟨s', ⟨as, has, hbs⟩, hend⟩; exact ⟨as, ⟨s', has, hend⟩, hbs⟩
  · rintro ⟨as, ⟨s', has, hend⟩, hbs⟩; exact ⟨s', ⟨as, has, hbs⟩, hend⟩

theorem through_list {f : Json → Option β} {item : Nat → Reader β} (h : ∀ room, Through f (value room) (item room))
    (room : Nat) : Through (itemsThrough f) (value room) (list item room) := by
  intro s bs r
  rw [list_eq_ok]
  constructor
  · rintro ⟨room', s', rfl, hs, hbs⟩
    obtain ⟨items, hitems, hf⟩ := (through_arrayOf (h room') _ _ _).mp hbs
    exact ⟨.array items, value_eq_array.mpr ⟨room', s', rfl, hs, hitems⟩, hf⟩
  · rintro ⟨v, hv, hf⟩
    cases v with
    | array items =>
      obtain ⟨room', s', rfl, hs, hitems⟩ := value_eq_array.mp hv
      exact ⟨room', s', rfl, hs, (through_arrayOf (h room') _ _ _).mpr ⟨items, hitems, hf⟩⟩
    | _ => cases hf

end Json

open Json

/-! ## Layouts -/

theorem Cell.through_reader (room : Nat) : Through Cell.ofJson? (value room) (Cell.reader room) := by
  intro s cell r
  unfold Cell.reader
  cases value room s with
  | fail stop s' => simp
  | ok v s' => cases h : Cell.ofJson? v <;> simp [h, and_comm]

theorem Row.through_reader (room : Nat) : Through Row.ofJson? (value room) (Row.reader room) := by
  have hrow : Row.ofJson? = itemsThrough Cell.ofJson? := by
    funext v; cases v <;> rfl
  rw [hrow]
  exact through_list Cell.through_reader room

namespace Layout

theorem through_reader : Through Layout.ofJson? (value deepest) Layout.reader := by
  have hlayout : Layout.ofJson? = fun v => (itemsThrough Row.ofJson? v).map Layout.mk := by
    funext v; cases v <;> rfl
  rw [hlayout]
  exact (through_list Row.through_reader deepest).map Layout.mk

/-- A layout is read from the documents that have its form. -/
theorem read_eq_ok {text : String} {layout : Layout Float} :
    Layout.read text = .ok layout ↔ ∃ v, Json.parse text = .ok v ∧ Layout.ofJson? v = some layout :=
  through_reader.readAll_eq_ok

end Layout

end ScanMatrix
