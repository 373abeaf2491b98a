import Mathlib
import ScanMatrix.Proofs.Conversion
import ScanMatrix.Proofs.Paths

/-!
# The default output

A path with a name leads to a place of that name, and any other path leads to a directory. Without an output path
the netlist goes to a path that has the parent of the input and another name. So the two lead to different places,
and the layout stays as it is (`default_output_beside`).
-/

namespace ScanMatrix

namespace Store

variable {st : Store} {p q : Place} {path : String}

/-! ## Where paths lead -/

theorem walk_concat_eq_ok {name : String} (names : List String) : ∀ {p : Place},
    st.walk p (names ++ [name]) = .ok q ↔
      ∃ r, st.walk p names = .ok r ∧ st.isDirectory r = true ∧ r.enter name = q ∧ name.utf8ByteSize ≤ longestName := by
  induction names with
  | nil =>
    intro p
    rw [List.nil_append, walk_cons_eq_ok]
    simp [walk]
    tauto
  | cons n names ih =>
    intro p
    rw [List.cons_append, walk_cons_eq_ok, ih]
    simp only [walk_cons_eq_ok, and_assoc, exists_and_left]

theorem isDirectory_enter_up (h : st.isDirectory p = true) : st.isDirectory (p.enter "..") = true := by
  unfold Place.enter
  rw [if_neg (by decide), if_pos rfl]
  by_cases hup : p.names.all (· = "..")
  · rw [if_pos hup]
    split
    · exact h
    · rw [isDirectory_iff]
      refine .inl fun name hname => ?_
      simp at hup hname
      exact hname.elim (hup name) id
  · rw [if_neg hup]
    rw [isDirectory_iff] at h ⊢
    simp only [List.all_eq_true, decide_eq_true_eq] at hup
    obtain ⟨n, hn, habove⟩ := h.resolve_left hup
    have hpre := List.dropLast_prefix p.names
    exact .inr ⟨n, hn, habove.1, hpre.trans habove.2.1, lt_of_le_of_lt hpre.length_le habove.2.2⟩

/-- The place that is reached when the last component is the one given. -/
def Leads (st : Store) (q : Place) : Option Path.Component → Prop
  | some (.name text) => q.names.getLast? = some (String.ofList text)
  | _ => st.isDirectory q = true

theorem leads_walk {rooted : Bool} (ps : List (List Char)) : ∀ {q : Place},
    st.walk ⟨rooted, []⟩ ((ps.filter (!·.isEmpty)).map String.ofList) = .ok q →
      st.Leads q (ps.filterMap Path.Component.ofPart?).getLast? := by
  -- From the last part, because it alone decides unless it says nothing.
  induction ps using List.reverseRecOn with
  | nil =>
    intro q h
    cases h
    simp [Leads, isDirectory]
  | append_singleton ps part ih =>
    intro q h
    by_cases hempty : part = []
    · simp_all [Path.Component.ofPart?]
    · have hfilter : (ps ++ [part]).filter (!·.isEmpty) = ps.filter (!·.isEmpty) ++ [part] := by
        simp [hempty]
      rw [hfilter, List.map_append, List.map_singleton, walk_concat_eq_ok] at h
      obtain ⟨r, hwalk, hdir, rfl, _⟩ := h
      by_cases hdot : part = ['.']
      · have hr := ih hwalk
        simpa [hdot, Path.Component.ofPart?, Place.enter] using hr
      · by_cases hdots : part = ['.', '.']
        · subst hdots
          simpa [Path.Component.ofPart?, Leads] using isDirectory_enter_up hdir
        · have hone : String.ofList part ≠ "." := fun heq => hdot (by simpa using congrArg String.toList heq)
          have htwo : String.ofList part ≠ ".." := fun heq => hdots (by simpa using congrArg String.toList heq)
          simp [Path.ofPart?_eq_name hempty hdot hdots, Leads, Place.enter, hone, htwo]

theorem leads_locate (h : st.locate path = .ok q) :
    st.Leads q ((Path.parts path.toList).filterMap Path.Component.ofPart?).getLast? := by
  obtain ⟨r, hr, hwalk⟩ := locate_eq_ok.mp h
  obtain ⟨rooted, hstart, hnames⟩ := route_eq_ok hr
  rw [hstart, hnames] at hwalk
  exact leads_walk _ hwalk

theorem getLast?_locate {name : List Char} (hname : Path.name? path.toList = some name)
    (h : st.locate path = .ok q) : q.names.getLast? = some (String.ofList name) := by
  have hleads := leads_locate h
  rwa [Path.name?_eq_some.mp hname] at hleads

theorem isDirectory_locate (hname : Path.name? path.toList = none) (h : st.locate path = .ok q) :
    st.isDirectory q = true := by
  have hleads := leads_locate h
  cases hlast : ((Path.parts path.toList).filterMap Path.Component.ofPart?).getLast? with
  | none => rwa [hlast] at hleads
  | some c =>
    cases c with
    | name text => cases hname.symm.trans (Path.name?_eq_some.mpr hlast)
    | _ => rwa [hlast] at hleads

theorem toOption_read_nameless (hname : Path.name? path.toList = none) : (st.read path).toOption = none := by
  by_cases h : ∃ q, st.locate path = .ok q
  · obtain ⟨q, hq⟩ := h
    obtain ⟨r, hr, hwalk⟩ := locate_eq_ok.mp hq
    unfold read
    rw [hr]
    simp [bind, Except.bind, hwalk, isDirectory_locate hname hq, Except.toOption]
  · exact toOption_read_of_not fun q hq => h ⟨q, hq⟩

/-! ## What a run changes -/

section
variable (st) (input output : String) (board : Board Float)

theorem changedAt_convertFile : (st.run (convertFile input output board)).2 = st ∨
    ∃ p, st.locate output = .ok p ∧ st.ChangedAt p (st.run (convertFile input output board)).2 := by
  have hstopped := st.stopped_convertFile input output board
  generalize st.run (convertFile input output board) = ended at hstopped ⊢
  obtain ⟨result, after⟩ := ended
  cases hstopped with
  | uncompiled _ _ => exact .inl rfl
  | unopened _ _ => exact .inl rfl
  | unwritten _ hcreate _ => exact .inr ⟨_, changedAt_create hcreate⟩
  | finished _ hcreate happend =>
    obtain ⟨hlocate, hmade⟩ := changedAt_create hcreate
    refine .inr ⟨_, hlocate, hmade.trans (changedAt_append (fun q hq => ?_) happend)⟩
    rw [hmade.directories, isDirectory_of_above hlocate q hq]

variable {input} in
theorem run_convertFile_unread (h : (st.read input).toOption = none) :
    ∃ e, st.run (convertFile input output board) = (.error e, st) := by
  have hnone : ∀ n, ¬ st.MadeFrom input board n := by
    intro n hmade
    obtain ⟨_, _, ⟨content, _, hread, _⟩, _⟩ := hmade
    rw [hread] at h
    cases h
  have hstopped := st.stopped_convertFile input output board
  generalize st.run (convertFile input output board) = ended at hstopped ⊢
  obtain ⟨result, after⟩ := ended
  cases hstopped with
  | uncompiled e _ => exact ⟨e, rfl⟩
  | unopened hmade _ => exact absurd hmade (hnone _)
  | unwritten hmade _ _ => exact absurd hmade (hnone _)
  | finished hmade _ _ => exact absurd hmade (hnone _)

end

section
open Program

variable (st) (o : Options) (input : String)

theorem run_convertWith_snd (board : Board Float) : (st.run (convertWith o input board)).2 =
    (st.run (convertFile input (o.output.getD (defaultOutput input)) (o.override board))).2 := by
  unfold convertWith
  rw [run_bind]
  cases (st.run (convertFile input (o.output.getD (defaultOutput input)) (o.override board))).1 <;> rfl

/-- A run comes to a conversion, unless the board cannot be had. -/
theorem run_convert : (∃ outcome, outcome.exit = 1 ∧ st.run (convert o input) = (outcome, st)) ∨
    ∃ board, st.run (convert o input) = st.run (convertWith o input board) := by
  unfold convert
  cases o.config with
  | none => exact .inr ⟨.standard, rfl⟩
  | some path =>
    obtain ⟨loaded, hrun, _⟩ := st.run_loadBoard path
    dsimp only
    rw [run_bind, hrun]
    cases loaded with
    | error e => exact .inl ⟨_, rfl, rfl⟩
    | ok board => exact .inr ⟨board, rfl⟩

theorem changedAt_convert : (st.run (convert o input)).2 = st ∨
    ∃ p, st.locate (o.output.getD (defaultOutput input)) = .ok p ∧ st.ChangedAt p (st.run (convert o input)).2 := by
  rcases st.run_convert o input with ⟨outcome, _, hrun⟩ | ⟨board, hrun⟩
  · exact .inl (by rw [hrun])
  · rw [hrun, run_convertWith_snd]
    exact st.changedAt_convertFile input _ _

variable {input} in
theorem run_convert_unread (h : (st.read input).toOption = none) :
    ∃ outcome, outcome.exit = 1 ∧ st.run (convert o input) = (outcome, st) := by
  rcases st.run_convert o input with hfailed | ⟨board, hrun⟩
  · exact hfailed
  · obtain ⟨e, hconvert⟩ :=
      st.run_convertFile_unread (o.output.getD (defaultOutput input)) (o.override board) h
    rw [hrun]
    unfold convertWith
    rw [run_bind, hconvert]
    exact ⟨_, rfl, rfl⟩

end

/-! ## Without an output path -/

section
open Program

theorem renamed_defaultOutput {input : String} {name : List Char} (h : Path.name? input.toList = some name) :
    Path.Renamed input.toList (defaultOutput input).toList name "netlist.json".toList := by
  unfold defaultOutput
  rw [String.toList_ofList]
  exact Path.renamed_withExtension h (by decide) (by decide)

theorem locate_ne {a b : String} {name name' : List Char} (ha : Path.name? a.toList = some name)
    (hb : Path.name? b.toList = some name') (hne : name ≠ name') (h : st.locate a = .ok p) :
    st.locate b ≠ .ok p := by
  intro h'
  have hlast := getLast?_locate ha h
  rw [getLast?_locate hb h', Option.some_inj, String.ofList_inj] at hlast
  exact hne hlast.symm

variable {words : List String} {o : Options} {input : String}

/-- **The default output never overwrites the input.** Without an output path a run is as if the path with the
extension of a netlist had been given. If the input path has a name, the other has the same parent and another
name, the two lead to different places, and a run changes at most what is at the second. An input path
without a name can only be that of a directory, and then a run fails and writes nothing. -/
theorem default_output_beside (hwords : Invocation.ofWords words = .convert o) (hinput : o.input = some input)
    (houtput : o.output = none) :
    st.run (runConverter words) = st.run (convert { o with output := some (defaultOutput input) } input) ∧
    (∀ name, Path.name? input.toList = some name →
      Path.Renamed input.toList (defaultOutput input).toList name "netlist.json".toList ∧
      (∀ p, st.locate input = .ok p → st.locate (defaultOutput input) ≠ .ok p) ∧
      (∀ p, st.locate (defaultOutput input) ≠ .ok p → (st.run (runConverter words)).2.find? p = st.find? p) ∧
      ((st.run (runConverter words)).2.read input).toOption = (st.read input).toOption) ∧
    (Path.name? input.toList = none →
      (st.run (runConverter words)).1.exit = 1 ∧ (st.run (runConverter words)).2 = st) := by
  have hrun : runConverter (m := StateM Store) words = convert o input := by
    unfold runConverter
    simp only [hwords, hinput]
  have hgiven : convert (m := StateM Store) { o with output := some (defaultOutput input) } input = convert o input := by
    unfold convert convertWith
    rw [houtput]
    rfl
  rw [hrun, hgiven]
  refine ⟨rfl, fun name hname => ?_, fun hname => ?_⟩
  · have hrenamed := renamed_defaultOutput hname
    obtain ⟨stem, _, hout⟩ := hrenamed.exists_stem
    have hapart : ∀ p, st.locate input = .ok p → st.locate (defaultOutput input) ≠ .ok p := fun p hp =>
      locate_ne hname hout (fun heq => hrenamed.name?_ne (heq ▸ hout)) hp
    have hchanged := st.changedAt_convert o input
    rw [houtput, Option.getD_none] at hchanged
    refine ⟨hrenamed, hapart, ?_⟩
    rcases hchanged with hsame | ⟨p, hp, hat⟩
    · rw [hsame]
      exact ⟨fun _ _ => rfl, rfl⟩
    · refine ⟨fun q hq => hat.elsewhere q fun heq => hq (heq ▸ hp), hat.toOption_read fun hin => ?_⟩
      exact hapart p hin hp
  · obtain ⟨outcome, hexit, hunread⟩ := st.run_convert_unread o (toOption_read_nameless hname)
    rw [hunread]
    exact ⟨hexit, rfl⟩

theorem default_output_beside_sample :
    Invocation.ofWords ["kb.json"] = .convert { input := some "kb.json" } ∧
    Path.Renamed "kb.json".toList "kb.netlist.json".toList "kb.json".toList "netlist.json".toList ∧
    ((sampleStore.run (runConverter ["kb.json"])).2.read "kb.json").toOption = some sampleText.toUTF8 ∧
    Path.name? "kb/..".toList = none ∧ (sampleStore.run (runConverter ["kb/.."])).2 = sampleStore := by
  have hname : Path.name? "kb.json".toList = some "kb.json".toList := by decide
  have hnameless : Path.name? "kb/..".toList = none := by decide
  have hread : sampleStore.read "kb.json" = .ok sampleText.toUTF8 := rfl
  have hbeside := @default_output_beside sampleStore ["kb.json"] { input := some "kb.json" } "kb.json" rfl rfl rfl
  obtain ⟨hrenamed, _, _, hkept⟩ := hbeside.2.1 "kb.json".toList hname
  have hnothing := @default_output_beside sampleStore ["kb/.."] { input := some "kb/.." } "kb/.." rfl rfl rfl
  refine ⟨rfl, hrenamed, ?_, hnameless, (hnothing.2.2 hnameless).2⟩
  rw [hkept, hread]
  rfl

end

end Store

end ScanMatrix
