/-!
# Maps from names

A map is the list of its entries in byte order of their names, so that no name stands twice. Of
several values given to one name the last counts.
-/

namespace ScanMatrix

structure NameMap (β : Type) where
  entries : List (String × β)
  sorted : entries.Pairwise fun a b => a.1 < b.1

namespace NameMap

variable {β γ : Type}

def insertInto (name : String) (value : β) : List (String × β) → List (String × β)
  | [] => [(name, value)]
  | e :: rest =>
    if name < e.1 then (name, value) :: e :: rest
    else if name = e.1 then (name, value) :: rest
    else e :: insertInto name value rest

theorem mem_insertInto {name : String} {value : β} {es : List (String × β)} {e : String × β}
    (h : e ∈ insertInto name value es) : e.1 = name ∨ e ∈ es := by
  induction es with
  | nil => simp_all [insertInto]
  | cons d rest ih =>
    rw [insertInto] at h
    split at h
    · grind
    · split at h <;> grind

theorem sorted_insertInto (name : String) (value : β) {es : List (String × β)}
    (h : es.Pairwise fun a b => a.1 < b.1) :
    (insertInto name value es).Pairwise fun a b => a.1 < b.1 := by
  induction es with
  | nil => simp [insertInto]
  | cons d rest ih =>
    obtain ⟨hd, hrest⟩ := List.pairwise_cons.1 h
    rw [insertInto]
    split
    · rename_i hlt
      refine List.pairwise_cons.2 ⟨fun a ha => ?_, h⟩
      rcases List.mem_cons.1 ha with rfl | ha
      · exact hlt
      · exact String.lt_trans hlt (hd a ha)
    · split
      · rename_i heq
        exact List.pairwise_cons.2 ⟨fun a ha => heq ▸ hd a ha, hrest⟩
      · rename_i hlt hne
        refine List.pairwise_cons.2 ⟨fun a ha => ?_, ih hrest⟩
        rcases mem_insertInto ha with h' | h'
        · rw [h']
          exact Std.lt_of_le_of_ne (String.not_lt.1 hlt) fun e => hne e.symm
        · exact hd a h'

def empty : NameMap β := ⟨[], .nil⟩

def insert (m : NameMap β) (name : String) (value : β) : NameMap β :=
  ⟨insertInto name value m.entries, sorted_insertInto name value m.sorted⟩

def ofList (entries : List (String × β)) : NameMap β :=
  entries.foldl (fun m e => m.insert e.1 e.2) empty

def names (m : NameMap β) : List String := m.entries.map (·.1)

/-- The map with other values under the same names. -/
def mapNamed (m : NameMap β) (f : String → β → γ) : NameMap γ :=
  ⟨m.entries.map fun e => (e.1, f e.1 e.2), by simpa [List.pairwise_map] using m.sorted⟩

end NameMap

end ScanMatrix
