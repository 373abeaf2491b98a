import Mathlib
import ScanMatrix.Files.Store

/-!
# Files that are written

What is put at a place is found there, and every other place keeps what it holds. A file is made only where
all directories above it are there, so no directory comes or goes with it, and each path leads where it led
before (`wrote_of_create`).
-/

namespace ScanMatrix

/-! ## Places -/

namespace Place

/-- The place is a directory that the other place lies in, directly or further down. -/
def Above (q p : Place) : Prop := p.rooted = q.rooted ∧ q.names <+: p.names ∧ q.names.length < p.names.length

theorem not_above_nil {q : Place} {rooted : Bool} : ¬ q.Above ⟨rooted, []⟩ := fun h => Nat.not_lt_zero _ h.2.2

theorem above_concat {q p : Place} {name : String} (h : q.Above { p with names := p.names ++ [name] }) :
    q = p ∨ q.Above p := by
  obtain ⟨hroot, hnames, hlen⟩ := h
  rcases List.prefix_concat_iff.mp hnames with heq | hpre
  · rw [heq] at hlen
    exact absurd hlen (Nat.lt_irrefl _)
  · rcases hpre.length_le.lt_or_eq with hlt | heq
    · exact .inr ⟨hroot, hpre, hlt⟩
    · refine .inl ?_
      obtain ⟨r, ns⟩ := q
      obtain rfl := hpre.eq_of_length heq
      cases hroot; rfl

theorem above_enter {q p : Place} {name : String} (h : q.Above (p.enter name)) : q = p ∨ q.Above p := by
  unfold enter at h
  split at h
  · exact .inr h
  · split at h
    · split at h
      · split at h
        · exact .inr h
        · exact above_concat h
      · obtain ⟨hroot, hnames, hlen⟩ := h
        have hdrop := List.dropLast_prefix p.names
        exact .inr ⟨hroot, hnames.trans hdrop, hlen.trans_le hdrop.length_le⟩
    · exact above_concat h

end Place

namespace Store

variable {st st' : Store} {p q : Place} {node : FileNode} {path : String}

/-! ## What is at a place -/

theorem exists_of_find?_isSome (h : (st.find? p).isSome) : ∃ n, st.nodes.find? (·.1 = p) = some n ∧ n.1 = p := by
  unfold find? at h
  rw [Option.isSome_map] at h
  obtain ⟨n, hn⟩ := Option.isSome_iff_exists.mp h
  exact ⟨n, hn, by simpa using List.find?_some hn⟩

theorem find?_put : (st.put p node).find? q = if q = p then some node else st.find? q := by
  unfold put
  split
  · rename_i hsome
    obtain ⟨n, hn, hnp⟩ := exists_of_find?_isSome hsome
    have hplace : ((fun n : Place × FileNode => decide (n.1 = q)) ∘ fun n => if n.1 = p then (p, node) else n) =
        fun n => decide (n.1 = q) := by
      funext n
      by_cases hnp : n.1 = p <;> simp [hnp]
    unfold find?
    rw [List.find?_map, hplace]
    by_cases hq : q = p
    · rw [hq, hn]; simp [hnp]
    · cases hfind : st.nodes.find? (·.1 = q) with
      | none => simp [hq]
      | some n =>
        have hnq : n.1 = q := by simpa using List.find?_some hfind
        simp [hnq, hq]
  · rename_i hnone
    by_cases hq : q = p
    · subst hq
      have hfind : st.nodes.find? (·.1 = q) = none :=
        Option.map_eq_none_iff.mp (Option.not_isSome_iff_eq_none.mp hnone)
      simp [find?, List.find?_append, hfind]
    · simp [find?, List.find?_append, hq, Ne.symm hq]

theorem exists_mem_put {P : Place → Prop} :
    (∃ n ∈ (st.put p node).nodes, P n.1) ↔ (∃ n ∈ st.nodes, P n.1) ∨ P p := by
  unfold put
  split
  · rename_i hsome
    obtain ⟨n, hn, hnp⟩ := exists_of_find?_isSome hsome
    have hplace : ∀ n : Place × FileNode, (if n.1 = p then (p, node) else n).1 = n.1 := by
      intro n
      split
      · rename_i h; exact h.symm
      · rfl
    have hmap : (∃ n ∈ st.nodes.map fun n => if n.1 = p then (p, node) else n, P n.1) ↔ ∃ n ∈ st.nodes, P n.1 := by
      simp only [List.mem_map, exists_exists_and_eq_and, hplace]
    rw [hmap]
    exact ⟨.inl, fun hor => hor.elim id fun hp => ⟨n, List.mem_of_find?_eq_some hn, hnp ▸ hp⟩⟩
  · simp only [List.mem_append, List.mem_singleton, or_and_right, exists_or, exists_eq_left]

theorem isDirectory_iff : st.isDirectory q = true ↔
    (∀ name ∈ q.names, name = "..") ∨ ∃ n ∈ st.nodes, q.Above n.1 := by
  unfold isDirectory Place.Above
  simp [and_assoc]

/-- What is put below directories that are there makes no directory. -/
theorem isDirectory_put (h : ∀ q, q.Above p → st.isDirectory q = true) (q : Place) :
    (st.put p node).isDirectory q = st.isDirectory q := by
  rw [Bool.eq_iff_iff, isDirectory_iff, isDirectory_iff, exists_mem_put, ← or_assoc, ← isDirectory_iff]
  exact ⟨fun hor => hor.elim id (h q), .inl⟩

/-! ## Paths -/

/-- Where a path leads. -/
def locate (st : Store) (path : String) : Except FileError Place := do
  let r ← route path
  st.walk r.start r.names

theorem checkDirectory_eq_ok : st.checkDirectory p = .ok () ↔ st.isDirectory p = true := by
  unfold checkDirectory
  split
  · simp [*]
  · split <;> simp [*]

theorem walk_cons_eq_ok {name : String} {names : List String} : st.walk p (name :: names) = .ok q ↔
    st.isDirectory p = true ∧ name.utf8ByteSize ≤ longestName ∧ st.walk (p.enter name) names = .ok q := by
  rw [walk, ← checkDirectory_eq_ok, ← Nat.not_lt]
  cases st.checkDirectory p with
  | error e => simp [bind, Except.bind]
  | ok u =>
    by_cases hlong : longestName < name.utf8ByteSize <;> simp [bind, Except.bind, hlong]

theorem isDirectory_of_above_walk (names : List String) : ∀ {p q : Place}, st.walk p names = .ok q →
    (∀ a, a.Above p → st.isDirectory a = true) → ∀ a, a.Above q → st.isDirectory a = true := by
  induction names with
  | nil => intro p q h hp; cases h; exact hp
  | cons name names ih =>
    intro p q h hp
    obtain ⟨hdir, _, hwalk⟩ := walk_cons_eq_ok.mp h
    refine ih hwalk fun a ha => ?_
    rcases Place.above_enter ha with rfl | ha
    · exact hdir
    · exact hp a ha

theorem walk_congr (h : ∀ p, st'.isDirectory p = st.isDirectory p) (names : List String) : ∀ {p q : Place},
    st'.walk p names = .ok q ↔ st.walk p names = .ok q := by
  induction names with
  | nil => intro p q; rfl
  | cons name names ih => intro p q; rw [walk_cons_eq_ok, walk_cons_eq_ok, ih, h]

theorem locate_eq_ok : st.locate path = .ok p ↔ ∃ r, route path = .ok r ∧ st.walk r.start r.names = .ok p := by
  unfold locate
  cases route path with
  | error e => simp [bind, Except.bind]
  | ok r => simp [bind, Except.bind]

theorem route_eq_ok {r : Route} (h : route path = .ok r) : ∃ rooted, r.start = ⟨rooted, []⟩ ∧
    r.names = ((Path.parts path.toList).filter (!·.isEmpty)).map String.ofList := by
  unfold route at h
  dsimp only at h
  split_ifs at h
  cases h
  exact ⟨_, rfl, rfl⟩

theorem isDirectory_of_above (h : st.locate path = .ok p) : ∀ q, q.Above p → st.isDirectory q = true := by
  obtain ⟨r, hr, hwalk⟩ := locate_eq_ok.mp h
  obtain ⟨rooted, hstart, _⟩ := route_eq_ok hr
  rw [hstart] at hwalk
  exact isDirectory_of_above_walk r.names hwalk fun a ha => absurd ha Place.not_above_nil

/-! ## Reading and writing -/

section
variable {r : Route} (hr : route path = .ok r) (hwalk : st.walk r.start r.names = .ok p)
include hr hwalk

theorem read_file {content : ByteArray} (hslash : r.slash = false) (hdir : st.isDirectory p = false)
    (hfind : st.find? p = some (.file content)) : st.read path = .ok content := by
  unfold read
  rw [hr]
  simp [bind, Except.bind, hwalk, hdir, hfind, hslash]

theorem read_congr (hwalk' : st'.walk r.start r.names = .ok p) (hdir : st'.isDirectory p = st.isDirectory p)
    (hfind : st'.find? p = st.find? p) : st'.read path = st.read path := by
  unfold read
  rw [hr]
  simp only [bind, Except.bind, hwalk, hwalk', hdir, hfind]

end

theorem toOption_read_of_not (h : ∀ p, st.locate path ≠ .ok p) : (st.read path).toOption = none := by
  unfold read
  cases hr : route path with
  | error e => rfl
  | ok r =>
    cases hwalk : st.walk r.start r.names with
    | error e => simp only [bind, Except.bind, hwalk]; rfl
    | ok p => exact absurd (locate_eq_ok.mpr ⟨r, hr, hwalk⟩) (h p)

/-- A path is read alike where the directories are the same and the place it leads to holds the same. -/
theorem toOption_read_congr (hdir : ∀ q, st'.isDirectory q = st.isDirectory q)
    (hfind : ∀ q, st.locate path = .ok q → st'.find? q = st.find? q) :
    (st'.read path).toOption = (st.read path).toOption := by
  by_cases h : ∃ q, st.locate path = .ok q
  · obtain ⟨q, hq⟩ := h
    obtain ⟨r, hr, hwalk⟩ := locate_eq_ok.mp hq
    rw [read_congr hr hwalk ((walk_congr hdir r.names).mpr hwalk) (hdir q) (hfind q hq)]
  · have hnot : ∀ q, st.locate path ≠ .ok q := fun q hq => h ⟨q, hq⟩
    have hnot' : ∀ q, st'.locate path ≠ .ok q := by
      simpa only [ne_eq, locate_eq_ok, walk_congr hdir] using hnot
    rw [toOption_read_of_not hnot, toOption_read_of_not hnot']

/-- The files are the same but for what the place holds. -/
structure ChangedAt (st : Store) (p : Place) (st' : Store) : Prop where
  elsewhere : ∀ q, q ≠ p → st'.find? q = st.find? q
  directories : ∀ q, st'.isDirectory q = st.isDirectory q

namespace ChangedAt

theorem refl (st : Store) (p : Place) : st.ChangedAt p st := ⟨fun _ _ => rfl, fun _ => rfl⟩

theorem trans {st'' : Store} (h : st.ChangedAt p st') (h' : st'.ChangedAt p st'') : st.ChangedAt p st'' :=
  ⟨fun q hq => (h'.elsewhere q hq).trans (h.elsewhere q hq),
    fun q => (h'.directories q).trans (h.directories q)⟩

theorem put (h : ∀ q, q.Above p → st.isDirectory q = true) : st.ChangedAt p (st.put p node) :=
  ⟨fun q hq => by rw [find?_put, if_neg hq], isDirectory_put h⟩

theorem toOption_read (h : st.ChangedAt p st') (hpath : st.locate path ≠ .ok p) :
    (st'.read path).toOption = (st.read path).toOption :=
  toOption_read_congr h.directories fun q hq => h.elsewhere q fun heq => hpath (heq ▸ hq)

end ChangedAt

/-- The path leads to the place, which holds the content; everything else is as it was. -/
structure Wrote (st : Store) (path : String) (p : Place) (content : ByteArray) (st' : Store) : Prop where
  located : st.locate path = .ok p
  here : st'.find? p = some (.file content)
  elsewhere : ∀ q, q ≠ p → st'.find? q = st.find? q
  read : st'.read path = .ok content
  readElsewhere : ∀ other, st.locate other ≠ .ok p → (st'.read other).toOption = (st.read other).toOption

/-- Every place that holds anything holds a file. -/
def Plain (st : Store) : Prop := ∀ p node, st.find? p = some node → ∃ content, node = .file content

theorem create_cases (h : st.create path = .ok (p, st')) :
    (∃ r, route path = .ok r ∧ r.slash = false ∧ st.walk r.start r.names = .ok p) ∧ st.isDirectory p = false ∧
      (st' = st.put p (.file .empty) ∨ st' = st ∧ (st.find? p = some .full ∨ st.find? p = some .sink)) := by
  unfold create at h
  cases hr : route path with
  | error e => simp [hr, bind, Except.bind] at h
  | ok r =>
    rw [hr] at h
    simp only [bind, Except.bind] at h
    split at h
    · split at h
      · cases h
      · split at h <;> cases h
    · rename_i hslash
      rw [Bool.not_eq_true] at hslash
      cases hwalk : st.walk r.start r.names with
      | error e => rw [hwalk] at h; cases h
      | ok q =>
        rw [hwalk] at h
        dsimp only at h
        split at h
        · cases h
        · rename_i hfile
          rw [Bool.not_eq_true] at hfile
          split at h <;> cases h
          · rename_i hfull
            exact ⟨⟨r, rfl, hslash, hwalk⟩, hfile, .inr ⟨rfl, .inl hfull⟩⟩
          · rename_i hsink
            exact ⟨⟨r, rfl, hslash, hwalk⟩, hfile, .inr ⟨rfl, .inr hsink⟩⟩
          · exact ⟨⟨r, rfl, hslash, hwalk⟩, hfile, .inl rfl⟩

theorem create_eq_ok (hplain : st.Plain) (h : st.create path = .ok (p, st')) :
    (∃ r, route path = .ok r ∧ r.slash = false ∧ st.walk r.start r.names = .ok p) ∧
      st.isDirectory p = false ∧ st' = st.put p (.file .empty) := by
  have hfull : st.find? p ≠ some .full := fun hnode => by cases hplain _ _ hnode; contradiction
  have hsink : st.find? p ≠ some .sink := fun hnode => by cases hplain _ _ hnode; contradiction
  obtain ⟨hwalk, hfile, hst⟩ := create_cases h
  exact ⟨hwalk, hfile, hst.resolve_right fun hdevice => hdevice.2.elim hfull hsink⟩

/-- Making a file changes what is at its place, if anything. -/
theorem changedAt_create (h : st.create path = .ok (p, st')) : st.locate path = .ok p ∧ st.ChangedAt p st' := by
  obtain ⟨⟨r, hr, _, hwalk⟩, _, hst⟩ := create_cases h
  have hlocate : st.locate path = .ok p := locate_eq_ok.mpr ⟨r, hr, hwalk⟩
  rcases hst with rfl | ⟨rfl, _⟩
  · exact ⟨hlocate, .put (isDirectory_of_above hlocate)⟩
  · exact ⟨hlocate, .refl _ p⟩

theorem changedAt_append {text : String} (habove : ∀ q, q.Above p → st.isDirectory q = true)
    (h : st.append p text = .ok st') : st.ChangedAt p st' := by
  unfold append at h
  split at h <;> cases h
  · exact .refl _ p
  · exact .put habove

/-- A file that could be made can be written to, and then the path leads to what was written. -/
theorem wrote_of_create (hplain : st.Plain) (h : st.create path = .ok (p, st')) (text : String) :
    ∃ st'', st'.append p text = .ok st'' ∧ st.Wrote path p text.toUTF8 st'' := by
  obtain ⟨⟨r, hr, hslash, hwalk⟩, hfile, rfl⟩ := create_eq_ok hplain h
  obtain ⟨hlocate, hmade⟩ := changedAt_create h
  have happend : (st.put p (.file .empty)).append p text =
      .ok ((st.put p (.file .empty)).put p (.file text.toUTF8)) := by
    unfold append
    simp only [find?_put, if_true, ByteArray.empty_append]
  -- The file is put twice, when it is made and when the text is in it, below directories that are there both times.
  have hwritten : st.ChangedAt p ((st.put p (.file .empty)).put p (.file text.toUTF8)) := by
    refine hmade.trans (.put fun q hq => ?_)
    rw [hmade.directories, isDirectory_of_above hlocate q hq]
  refine ⟨_, happend, hlocate, ?_, hwritten.elsewhere, ?_, fun other hother => hwritten.toOption_read hother⟩
  · rw [find?_put, if_pos rfl]
  · refine read_file hr ((walk_congr hwritten.directories r.names).mpr hwalk) hslash
      ((hwritten.directories p).trans hfile) ?_
    rw [find?_put, if_pos rfl]

end Store

end ScanMatrix
