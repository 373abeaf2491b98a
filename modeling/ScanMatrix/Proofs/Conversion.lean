import Mathlib
import ScanMatrix.Program.Converter
import ScanMatrix.Proofs.Acceptance
import ScanMatrix.Proofs.Lists
import ScanMatrix.Proofs.Store

/-!
# What a conversion leaves behind

A conversion reads before it writes, and it makes its output only once there is a netlist. So a conversion
that fails leaves all files as they were, and one that succeeds changes its output alone
(`conversion_writes_output`).
-/

namespace ScanMatrix

/-- The second text is the first without the byte order mark at its start, if there is one. -/
inductive Unmarked : String → String → Prop where
  | marked (text : String) : Unmarked ("\uFEFF" ++ text) text
  | plain (text : String) (h : text.toList.head? ≠ some '\uFEFF') : Unmarked text text

theorem unmarked_of_mark {whole text : String} {s : List Char} (h : whole.toList = '\uFEFF' :: s) :
    Unmarked whole text ↔ text = String.ofList s := by
  have happ : ∀ t : String, ("\uFEFF" ++ t).toList = '\uFEFF' :: t.toList := by
    intro t
    rw [String.toList_append]; rfl
  constructor
  · intro hun
    cases hun with
    | marked =>
      rw [happ, List.cons.injEq] at h
      rw [← h.2, String.ofList_toList]
    | plain _ hno => exact absurd (by rw [h]; rfl) hno
  · rintro rfl
    have hwhole : whole = "\uFEFF" ++ String.ofList s := by
      rw [← String.toList_inj, happ, h, String.toList_ofList]
    rw [hwhole]
    exact .marked _

theorem unmarked_of_not_mark {whole text : String} (h : ∀ s, whole.toList ≠ '\uFEFF' :: s) :
    Unmarked whole text ↔ text = whole := by
  constructor
  · intro hun
    cases hun with
    | marked => exact absurd (by rw [String.toList_append]; rfl) (h text.toList)
    | plain => rfl
  · rintro rfl
    refine .plain text fun hhead => ?_
    obtain ⟨s, hs⟩ := List.head?_eq_some_iff.mp hhead
    exact h s hs

namespace Store

/-- What an action gives, and the files after it. -/
def run {α : Type} (st : Store) (act : StateM Store α) : α × Store := act st

section
variable {α β : Type} (st : Store)

theorem run_bind (act : StateM Store α) (f : α → StateM Store β) :
    st.run (act >>= f) = (st.run act).2.run (f (st.run act).1) := rfl

theorem run_read (path : String) : st.run (Files.read path) = (st.read path, st) := rfl

theorem run_create (path : String) : st.run (Files.create path) = match st.create path with
    | .ok (p, st') => (.ok p, st')
    | .error e => (.error e, st) := rfl

theorem run_append (p : Place) (text : String) :
    st.run (Files.append (m := StateM Store) p text) = match st.append p text with
      | .ok st' => (.ok (), st')
      | .error e => (.error e, st) := rfl

end

/-- The file at the path has the text, after a byte order mark or without one. -/
def Holds (st : Store) (path text : String) : Prop :=
  ∃ content whole, st.read path = .ok content ∧ String.fromUTF8? content = some whole ∧ Unmarked whole text

section
variable (st : Store) (path : String)

theorem run_readSource : ∃ r, st.run (readSource path) = (r, st) ∧ ∀ text, r = .ok text ↔ st.Holds path text := by
  unfold readSource Holds
  rw [run_bind, run_read]
  cases hread : st.read path with
  | error e => exact ⟨.error (.file path e), rfl, by simp⟩
  | ok content =>
    dsimp only
    cases hdecode : String.fromUTF8? content with
    | none => exact ⟨.error (.file path .notText), rfl, by simp [hdecode]⟩
    | some whole =>
      dsimp only
      split
      · rename_i s hs
        refine ⟨.ok (String.ofList s), rfl, fun text => ?_⟩
        simp [hdecode, unmarked_of_mark hs, eq_comm]
      · rename_i hno
        refine ⟨.ok whole, rfl, fun text => ?_⟩
        simp [hdecode, unmarked_of_not_mark hno, eq_comm]

/-- What is read from a source and worked on without the files leaves the files as they are. -/
theorem run_source_then {β : Type} (f : String → Except ConversionError β) :
    ∃ r, st.run (do match ← readSource path with
      | .error e => return .error e
      | .ok text => return f text) = (r, st) ∧
    ∀ b, r = .ok b ↔ ∃ text, st.Holds path text ∧ f text = .ok b := by
  obtain ⟨source, hrun, hsource⟩ := st.run_readSource path
  rw [run_bind, hrun]
  cases source with
  | error e =>
    have hnone : ∀ text, ¬ st.Holds path text := fun text h => by cases (hsource text).mpr h
    exact ⟨.error e, rfl, by simp [hnone]⟩
  | ok text =>
    have honly : ∀ text', st.Holds path text' ↔ text = text' := fun text' => by rw [← hsource, Except.ok.injEq]
    exact ⟨f text, rfl, by simp [honly]⟩

theorem run_loadBoard : ∃ r, st.run (loadBoard path) = (r, st) ∧
    ∀ board, r = .ok board ↔ ∃ text, st.Holds path text ∧ Board.read text = .ok board := by
  obtain ⟨r, hrun, hr⟩ := st.run_source_then path fun text => (Board.read text).mapError .board
  exact ⟨r, hrun, fun board => by simp only [hr, Except.mapError_eq_ok]⟩

theorem run_compileFile (config : MatrixConfig Float) : ∃ r, st.run (compileFile path config) = (r, st) ∧
    ∀ m, r = .ok m ↔ ∃ text, st.Holds path text ∧ compileText text config = .ok m := by
  obtain ⟨r, hrun, hr⟩ := st.run_source_then path fun text => (compileText text config).mapError .layout
  exact ⟨r, hrun, fun m => by simp only [hr, Except.mapError_eq_ok]⟩

end

/-! ## Conversions -/

/-- The netlist comes from the layout at the path and from the board. -/
def MadeFrom (st : Store) (input : String) (board : Board Float) (n : Netlist Float) : Prop :=
  ∃ text m, st.Holds input text ∧ compileText text board.matrix = .ok m ∧ n = board.netlist m

/-- How far a conversion gets, and what it gives and leaves behind there. -/
inductive Stopped (st : Store) (input output : String) (board : Board Float) :
    Except ConversionError (Netlist Float) → Store → Prop where
  | uncompiled (e : ConversionError) (h : ∀ n, ¬ st.MadeFrom input board n) :
      Stopped st input output board (.error e) st
  | unopened {n : Netlist Float} {cause : FileError} (hmade : st.MadeFrom input board n)
      (hcreate : st.create output = .error cause) :
      Stopped st input output board (.error (.file output cause)) st
  | unwritten {n : Netlist Float} {p : Place} {st' : Store} {cause : FileError} (hmade : st.MadeFrom input board n)
      (hcreate : st.create output = .ok (p, st')) (happend : st'.append p (n.document ++ "\n") = .error cause) :
      Stopped st input output board (.error (.file output cause)) st'
  | finished {n : Netlist Float} {p : Place} {st' st'' : Store} (hmade : st.MadeFrom input board n)
      (hcreate : st.create output = .ok (p, st')) (happend : st'.append p (n.document ++ "\n") = .ok st'') :
      Stopped st input output board (.ok n) st''

theorem stopped_convertFile (st : Store) (input output : String) (board : Board Float) :
    st.Stopped input output board (st.run (convertFile input output board)).1
      (st.run (convertFile input output board)).2 := by
  obtain ⟨compiled, hrun, hcompiled⟩ := st.run_compileFile input board.matrix
  unfold convertFile
  rw [run_bind, hrun]
  cases compiled with
  | error e =>
    refine .uncompiled e fun n hmade => ?_
    obtain ⟨text, m, htext, hm, _⟩ := hmade
    cases (hcompiled m).mpr ⟨text, htext, hm⟩
  | ok m =>
    obtain ⟨text, htext, hm⟩ := (hcompiled m).mp rfl
    have hmade : st.MadeFrom input board (board.netlist m) := ⟨text, m, htext, hm, rfl⟩
    dsimp only
    rw [run_bind, run_create]
    cases hcreate : st.create output with
    | error cause => exact .unopened hmade hcreate
    | ok opened =>
      obtain ⟨p, st'⟩ := opened
      dsimp only
      rw [run_bind, run_append]
      cases happend : st'.append p ((board.netlist m).document ++ "\n") with
      | error cause => exact .unwritten hmade hcreate happend
      | ok st'' => exact .finished hmade hcreate happend

/-- There is a netlist to write and a file to write it to. -/
def CanConvert (st : Store) (input output : String) (board : Board Float) : Prop :=
  (∃ n, st.MadeFrom input board n) ∧ ∃ opened, st.create output = .ok opened

/-- How a conversion ends, and the files after it. -/
inductive Converted (st : Store) (input output : String) (board : Board Float) :
    Except ConversionError (Netlist Float) → Store → Prop where
  | failed (e : ConversionError) (h : ¬ st.CanConvert input output board) :
      Converted st input output board (.error e) st
  | written {n : Netlist Float} {p : Place} {st' : Store} (hmade : st.MadeFrom input board n)
      (hwrote : st.Wrote output p (n.document ++ "\n").toUTF8 st') :
      Converted st input output board (.ok n) st'

theorem converted_convertFile {st : Store} (h : st.Plain) (input output : String) (board : Board Float) :
    st.Converted input output board (st.run (convertFile input output board)).1
      (st.run (convertFile input output board)).2 := by
  have hstopped := st.stopped_convertFile input output board
  generalize st.run (convertFile input output board) = ended at hstopped ⊢
  obtain ⟨result, after⟩ := ended
  cases hstopped with
  | uncompiled e hnone => exact .failed e fun hcan => hcan.1.elim hnone
  | unopened _ hcreate =>
    refine .failed _ fun hcan => ?_
    obtain ⟨_, opened, hopened⟩ := hcan
    cases hcreate.symm.trans hopened
  | unwritten _ hcreate happend =>
    obtain ⟨_, hwritten, _⟩ := wrote_of_create h hcreate _
    cases happend.symm.trans hwritten
  | finished hmade hcreate happend =>
    obtain ⟨_, hwritten, hwrote⟩ := wrote_of_create h hcreate _
    cases happend.symm.trans hwritten
    exact .written hmade hwrote

/-! ## The program -/

section
open Program

/-- The board that the options name, if they name one. -/
def BoardOf (st : Store) (o : Options) (board : Board Float) : Prop :=
  match o.config with
  | none => board = .standard
  | some path => ∃ text, st.Holds path text ∧ Board.read text = .ok board

/-- How a run of the converter ends, and the files after it. -/
inductive Ran (st : Store) (words : List String) : Outcome → Store → Prop where
  | failed {outcome : Outcome} (hexit : outcome.exit ≠ 0)
      (h : ∀ o input board, Invocation.ofWords words = .convert o → o.input = some input → st.BoardOf o board →
        ¬ st.CanConvert input (o.output.getD (defaultOutput input)) (o.override board)) :
      Ran st words outcome st
  | shown {outcome : Outcome} (hexit : outcome.exit = 0)
      (h : Invocation.ofWords words = .help ∨ Invocation.ofWords words = .version) :
      Ran st words outcome st
  | converted {outcome : Outcome} {o : Options} {input : String} {board : Board Float} {n : Netlist Float}
      {st' : Store} (hexit : outcome.exit = 0) (hwords : Invocation.ofWords words = .convert o)
      (hinput : o.input = some input) (hboard : st.BoardOf o board)
      (h : st.Converted input (o.output.getD (defaultOutput input)) (o.override board) (.ok n) st') :
      Ran st words outcome st'

variable {st : Store} {words : List String} {o : Options} {input : String}

theorem ran_convertWith (h : st.Plain) (hwords : Invocation.ofWords words = .convert o)
    (hinput : o.input = some input) {board : Board Float} (hboard : ∀ b, st.BoardOf o b ↔ b = board) :
    st.Ran words (st.run (convertWith o input board)).1 (st.run (convertWith o input board)).2 := by
  have hconverted := converted_convertFile h input (o.output.getD (defaultOutput input)) (o.override board)
  unfold convertWith
  rw [run_bind]
  cases hresult : st.run (convertFile input (o.output.getD (defaultOutput input)) (o.override board)) with
  | mk result st' =>
    rw [hresult] at hconverted
    cases result with
    | error e =>
      cases hconverted with
      | failed _ hcannot =>
        refine .failed (Nat.succ_ne_zero 0) fun o' input' board' hwords' hinput' hboard' => ?_
        cases hwords.symm.trans hwords'
        cases hinput.symm.trans hinput'
        obtain rfl := (hboard board').mp hboard'
        exact hcannot
    | ok n => exact .converted rfl hwords hinput ((hboard board).mpr rfl) hconverted

theorem ran_runConverter (h : st.Plain) (words : List String) :
    st.Ran words (st.run (runConverter words)).1 (st.run (runConverter words)).2 := by
  unfold runConverter
  cases hwords : Invocation.ofWords words with
  | refused => exact .failed (Nat.succ_ne_zero 1) fun o _ _ ho => by cases hwords.symm.trans ho
  | help => exact .shown rfl (.inl hwords)
  | version => exact .shown rfl (.inr hwords)
  | convert o =>
    dsimp only
    cases hinput : o.input with
    | none =>
      refine .failed (Nat.succ_ne_zero 1) fun o' input _ ho hinput' => ?_
      cases hwords.symm.trans ho
      cases hinput.symm.trans hinput'
    | some input =>
      dsimp only
      unfold convert
      cases hconfig : o.config with
      | none => exact ran_convertWith h hwords hinput fun b => by simp [BoardOf, hconfig]
      | some path =>
        obtain ⟨loaded, hrun, hloaded⟩ := st.run_loadBoard path
        dsimp only
        rw [run_bind, hrun]
        have hboard : ∀ b, st.BoardOf o b ↔ loaded = .ok b := by
          intro b
          simp only [BoardOf, hconfig, hloaded]
        cases loaded with
        | error e =>
          refine .failed (Nat.succ_ne_zero 0) fun o' _ b ho _ hb => ?_
          cases hwords.symm.trans ho
          cases (hboard b).mp hb
        | ok board =>
          refine ran_convertWith h hwords hinput fun b => ?_
          rw [hboard, Except.ok.injEq, eq_comm]

end

/-- **Conversions touch their output alone.** A conversion that fails changes no file, and it fails only if there
is no netlist to write or no file to write it to. One that succeeds puts the text of the netlist and a line
break where the output path leads and changes nothing else. So does a run of the program, on the board that
its options give; a run that fails for any reason changes nothing. -/
theorem conversion_writes_output {st : Store} (h : st.Plain) :
    (∀ input output board, st.Converted input output board (st.run (convertFile input output board)).1
      (st.run (convertFile input output board)).2) ∧
    ∀ words, st.Ran words (st.run (Program.runConverter words)).1 (st.run (Program.runConverter words)).2 :=
  ⟨converted_convertFile h, ran_runConverter h⟩

/-- A layout, and a file beside it. -/
def sampleStore : Store :=
  ⟨[(⟨false, ["kb.json"]⟩, .file sampleText.toUTF8), (⟨false, ["notes"]⟩, .file "kept".toUTF8)]⟩

theorem plain_sample : sampleStore.Plain := by
  intro p node h
  obtain ⟨n, hn, rfl⟩ := Option.map_eq_some_iff.mp h
  have hmem := List.mem_of_find?_eq_some hn
  simp only [sampleStore, List.mem_cons, List.not_mem_nil, or_false] at hmem
  rcases hmem with rfl | rfl
  · exact ⟨_, rfl⟩
  · exact ⟨_, rfl⟩

theorem holds_sample : sampleStore.Holds "kb.json" sampleText := by
  have hread : sampleStore.read "kb.json" = .ok sampleText.toUTF8 := rfl
  have hdecode : String.fromUTF8? sampleText.toUTF8 = some sampleText := dif_pos sampleText.isValidUTF8
  exact ⟨_, _, hread, hdecode, .plain _ (by decide)⟩

theorem canConvert_sample : sampleStore.CanConvert "kb.json" "kb.json" .standard := by
  have hstrings : Json.strings [[.string "A"], [], [.object [("w", .number (.integer 2))], .string "a"]] ≠ [] := by
    simp [Json.strings, Json.string?]
  obtain ⟨m, hm⟩ := exists_compileText .standard isLayoutText_sample hstrings
  have hcreate : ∃ opened, sampleStore.create "kb.json" = .ok opened := ⟨_, rfl⟩
  exact ⟨⟨_, sampleText, m, holds_sample, hm, rfl⟩, hcreate⟩

/-- The layout can be converted in its own place. -/
theorem conversion_writes_output_sample : sampleStore.Plain ∧
    (∃ n st', sampleStore.run (convertFile "kb.json" "kb.json" .standard) = (.ok n, st') ∧
      sampleStore.Converted "kb.json" "kb.json" .standard (.ok n) st') ∧
    sampleStore.Ran ["kb.json"] (sampleStore.run (Program.runConverter ["kb.json"])).1
      (sampleStore.run (Program.runConverter ["kb.json"])).2 := by
  obtain ⟨hconverted, hran⟩ := conversion_writes_output plain_sample
  refine ⟨plain_sample, ?_, hran ["kb.json"]⟩
  have hconverted := hconverted "kb.json" "kb.json" .standard
  cases hrun : sampleStore.run (convertFile "kb.json" "kb.json" .standard) with
  | mk result st' =>
    rw [hrun] at hconverted
    cases result with
    | error e =>
      cases hconverted with
      | failed _ hcannot => exact absurd canConvert_sample hcannot
    | ok n => exact ⟨n, st', rfl, hconverted⟩

end Store

end ScanMatrix
