import ServiceAtlas.Command
import ServiceAtlas.Proofs.JsonReadBack
import ServiceAtlas.Proofs.SettingsFiles
import ServiceAtlas.Proofs.WholeFiles

/-!
Payloads that were kept in a directory and loaded from it again. The loaded payloads make the same
document as those that were kept: the only thing that is added to them is the address, where nothing
but the address is read.
-/

namespace ServiceAtlas
open Program

/-! ### JSON text in a file -/

theorem Text.mem_hex {upperCase : Bool} {width n : Nat} {c : Char} (h : c ∈ hex upperCase width n) :
    ∃ d < 16, c = hexChar upperCase d := by
  induction width generalizing n with
  | zero => cases h
  | succ width ih =>
    rcases List.mem_append.mp h with h | h
    · exact ih h
    · exact ⟨n % 16, by omega, List.mem_singleton.mp h⟩

namespace Json

theorem no_return_escaped (c : Char) : '\r' ∉ escaped c := by
  unfold escaped
  split_ifs with hquote hslash hn hr ht hb hf hcontrol
  all_goals try decide
  · simp only [List.mem_cons, not_or]
    refine ⟨by decide, by decide, fun hm => ?_⟩
    obtain ⟨d, hd, hc⟩ := Text.mem_hex hm
    have hall : ∀ d < 16, '\r' ≠ Text.hexChar false d := by decide
    exact hall d hd hc
  · intro hm
    exact hr (List.mem_singleton.mp hm).symm

theorem no_return_textChars (cs : List Char) : '\r' ∉ textChars cs := by
  simp [textChars, no_return_escaped]

theorem no_return_intChars (n : Int) : '\r' ∉ Text.intChars n := by
  have hdigits : '\r' ∉ Text.natChars n.natAbs := by
    intro hm
    cases Text.isDigit_of_mem_natChars hm
  unfold Text.intChars
  split
  · simp [hdigits]
  · exact hdigits

theorem no_return_edge (depth : Nat) : '\r' ∉ Layout.block.edge depth := by
  simp [Layout.block, Layout.line]

theorem no_return_next (depth : Nat) : '\r' ∉ Layout.block.next depth := no_return_edge depth

mutual
theorem no_return_chars {v : Value} (h : v.FloatFree) (depth : Nat) :
    '\r' ∉ chars .block depth v := by
  match v with
  | .null => exact show '\r' ∉ "null".toList by decide
  | .bool true => exact show '\r' ∉ "true".toList by decide
  | .bool false => exact show '\r' ∉ "false".toList by decide
  | .int n => exact no_return_intChars n
  | .float _ => exact h.elim
  | .text s => exact no_return_textChars s.toList
  | .list [] => simp [chars]
  | .list (v :: vs) =>
    have hv := no_return_chars h.1 (depth + 1)
    have hvs := no_return_charsOfItems h.2 (depth + 1)
    simp [chars, no_return_edge, hv, hvs]
  | .object [] => simp [chars]
  | .object ((k, v) :: fields) =>
    have hv := no_return_chars h.1 (depth + 1)
    have hfields := no_return_charsOfFields h.2 (depth + 1)
    simp [chars, no_return_edge, no_return_textChars, hv, hfields]

theorem no_return_charsOfItems {vs : List Value} (h : Value.FloatFreeItems vs) (depth : Nat) :
    '\r' ∉ charsOfItems .block depth vs := by
  match vs with
  | [] => simp [charsOfItems]
  | v :: vs =>
    have hv := no_return_chars h.1 depth
    have hvs := no_return_charsOfItems h.2 depth
    simp [charsOfItems, no_return_next, hv, hvs]

theorem no_return_charsOfFields {fields : List (String × Value)} (h : Value.FloatFreeFields fields)
    (depth : Nat) : '\r' ∉ charsOfFields .block depth fields := by
  match fields with
  | [] => simp [charsOfFields]
  | (k, v) :: fields =>
    have hv := no_return_chars h.1 depth
    have hfields := no_return_charsOfFields h.2 depth
    simp [charsOfFields, no_return_next, no_return_textChars, hv, hfields]
end

theorem no_return_file {v : Value} (h : v.FloatFree) : '\r' ∉ (file v).toList := by
  rw [toList_file]
  simp [no_return_chars h]

/-- The lines of JSON text are those of the file it is read from. -/
theorem unifyLines_file {v : Value} (h : v.FloatFree) :
    Text.unifyLines (file v).toList = (file v).toList :=
  Text.unifyLines_eq (no_return_file h)

end Json

/-! ### Files that are there -/

/-- The two machines have the same files, seen from the same directory. -/
structure World.SameFiles (w w' : World) : Prop where
  files : w'.files = w.files
  workingDirectory : w'.workingDirectory = w.workingDirectory

namespace World

theorem SameFiles.refl (w : World) : SameFiles w w := ⟨rfl, rfl⟩

theorem SameFiles.trans {w w' w'' : World} (h : SameFiles w w') (h' : SameFiles w' w'') :
    SameFiles w w'' :=
  ⟨h'.files.trans h.files, h'.workingDirectory.trans h.workingDirectory⟩

theorem Holds.of_same {w w' : World} {p : Path} {text : String} (h : w.Holds p text)
    (hsame : SameFiles w w') : w'.Holds p text := by
  obtain ⟨hflaw, bytes, hbytes, hread⟩ := h
  exact ⟨hflaw, bytes, hbytes, by rw [hsame.files, hsame.workingDirectory, hread]⟩

end World

namespace Files
variable {w : World} {p : Path} {text : String}

theorem same_readRequest (p : Path) (w : World) :
    World.SameFiles w (w.handle (.readFile p)).2 := by
  refine ⟨?_, (w.same_handle _).workingDirectory⟩
  change (w.answer fun t => (t.readFile w.workingDirectory p).map fun bytes => (bytes, t)).2.files = _
  unfold World.answer
  dsimp only
  split
  · rfl
  · cases w.files.readFile w.workingDirectory p <;> rfl

/-- Every request of the program leaves all files as they are. -/
def OnlyLooks {α : Type} (program : Program α) : Prop :=
  program.Asks fun r => ∀ w : World, World.SameFiles w (w.handle r).2

theorem OnlyLooks.same {α : Type} {program : Program α} (h : OnlyLooks program) (w : World) :
    World.SameFiles w (program.run w).world :=
  Asks.run World.SameFiles .refl .trans h w

theorem onlyLooks_isFile (p : Path) : OnlyLooks (isFile p) := by
  unfold isFile whether
  split
  · trivial
  · refine Asks.bind ⟨fun w => .refl w, fun _ => trivial⟩ fun answer => ?_
    cases answer <;> trivial

theorem onlyLooks_read (p : Path) : OnlyLooks (read p) := by
  refine Asks.bind ⟨same_readRequest p, fun _ => trivial⟩ fun answer => ?_
  split
  · trivial
  · split <;> trivial

theorem handle_readFile (h : w.Holds p text) :
    ∃ bytes, Text.decode bytes = .ok text.toList ∧ (w.handle (.readFile p)).1 =
      match w.refuses w.asked with
      | some e => .error e
      | none => .ok bytes := by
  obtain ⟨_, bytes, hbytes, hread⟩ := h
  refine ⟨bytes, ?_, ?_⟩
  · unfold Text.encode? at hbytes
    split at hbytes
    · cases hbytes
    · rw [← Option.some.inj hbytes, Text.decode_encode]
  · change (w.answer fun t => (t.readFile w.workingDirectory p).map fun bytes => (bytes, t)).1 = _
    unfold World.answer
    dsimp only
    rw [hread]
    cases w.refuses w.asked <;> rfl

/-- What is at the path can be read, unless the machine refuses. -/
theorem read_of_holds (h : w.Holds p text) (hr : w.refuses w.asked = none) :
    ((read p).run w).result = .ok (.ok (Text.unifyLines text.toList)) := by
  obtain ⟨bytes, hdecode, hanswer⟩ := handle_readFile h
  rw [hr] at hanswer
  exact result_read hanswer hdecode

/-- Nothing else is read at the path. -/
theorem eq_of_read {cs : List Char} (h : w.Holds p text)
    (hread : ((read p).run w).result = .ok (.ok cs)) : cs = Text.unifyLines text.toList := by
  obtain ⟨bytes, hdecode, hanswer⟩ := handle_readFile h
  cases hr : w.refuses w.asked with
  | none =>
    rw [read_of_holds h hr] at hread
    exact (Except.ok.inj (Except.ok.inj hread)).symm
  | some e =>
    rw [hr] at hanswer
    have hrequest : ((request (.readFile p)).run w).result = .ok (.error e) :=
      congrArg Except.ok hanswer
    have hrefused : ((read p).run w).result = .ok (.error e) := result_bind_of_ok hrequest
    rw [hrefused] at hread
    cases hread

theorem run_isFile_of_holds (h : w.Holds p text) : (isFile p).run w = ⟨.ok true, [], w⟩ := by
  obtain ⟨hflaw, bytes, _, hread⟩ := h
  obtain ⟨place, hplace, hentry⟩ := FileTree.readFile_ok hread
  have hprobe : w.isFile p = .ok true := by
    unfold World.isFile World.probe World.find
    rw [FileTree.find_of_entry hplace hentry]
    rfl
  unfold isFile whether
  rw [if_neg (by simp [hflaw])]
  change (ofOs (w.isFile p)).run w = _
  rw [hprobe]
  rfl

/-- Where an entry is, there is a directory. -/
theorem run_isDirectory_of_holds {d : Path} {name : String} (h : w.Holds (d.entry name) text)
    (hname : name ≠ "..") : (isDirectory d).run w = ⟨.ok true, [], w⟩ := by
  obtain ⟨hflaw, bytes, _, hread⟩ := h
  obtain ⟨hpossible, hlength⟩ := Path.possible_of_entry hflaw
  obtain ⟨place, hplace, _⟩ := FileTree.readFile_ok hread
  obtain ⟨q, hq, hd, _⟩ := FileTree.placeOf_concat hname hplace
  have hshort : ¬FileTree.pathLimit ≤ FileTree.byteLength d.text := by
    rcases hlength with hlength | hpoint
    · unfold FileTree.placeOf at hplace
      split at hplace
      · cases hplace
      · omega
    · rw [hpoint]
      decide
  have hplaced : w.files.placeOf w.workingDirectory d = .ok q := by
    unfold FileTree.placeOf
    rw [if_neg hshort]
    simpa [Path.isAbsolute] using hq
  have hentry : w.files.entry? q = some .directory := by
    simpa [FileTree.isDirectory] using hd
  have hprobe : w.isDirectory d = .ok true := by
    unfold World.isDirectory World.probe World.find
    rw [FileTree.find_of_entry hplaced hentry]
    rfl
  unfold isDirectory whether
  rw [if_neg (by simp [hpossible])]
  change (ofOs (w.isDirectory d)).run w = _
  rw [hprobe]
  rfl

end Files

namespace Payloads
variable {w : World} {p : Path} {fields t : Table Value}

section
variable [Stack]

theorem same_readFile (p : Path) (w : World) : World.SameFiles w ((readFile p).run w).world := by
  refine Files.OnlyLooks.same (Asks.bind (Files.onlyLooks_read p) fun outcome => ?_) w
  split
  · trivial
  · split <;> trivial

/-- The object at a path is the one whose text is there. -/
theorem eq_of_readFile (hp : w.Holds p (Json.file (.object fields)))
    (hw : (Value.object fields).WellFormed) (hf : (Value.object fields).FloatFree)
    (h : ((readFile p).run w).result = .ok t) : t = fields := by
  obtain ⟨outcome, hread, h, _⟩ := of_bind_ok h
  cases outcome with
  | error e => cases h
  | ok cs =>
    obtain rfl := Files.eq_of_read hp hread
    rw [Json.unifyLines_file hf] at h
    cases hchars : Json.readChars (Json.file (.object fields)).toList with
    | error e =>
      simp only [hchars] at h
      cases h
    | ok v =>
      obtain rfl := Json.eq_of_readChars_file hw hf hchars
      simp only [hchars] at h
      exact (Except.ok.inj h).symm

/-- It is read, unless it asks for too much or the machine refuses. -/
theorem readFile_of_holds (hp : w.Holds p (Json.file (.object fields)))
    (hw : (Value.object fields).WellFormed) (hf : (Value.object fields).FloatFree)
    (htakes : Json.Takes (.object fields)) (hr : w.refuses w.asked = none) :
    ((readFile p).run w).result = .ok fields := by
  refine (result_bind_of_ok (Files.read_of_holds hp hr)).trans ?_
  rw [Json.unifyLines_file hf]
  dsimp only
  rw [(Json.readChars_file hw hf).1 htakes]
  rfl

theorem run_readRequired (hp : w.Holds p (Json.file (.object fields))) :
    (readRequired p).run w = (readFile p).run w :=
  run_bind_of_quiet (Files.run_isFile_of_holds hp)

theorem run_readOptional (hp : w.Holds p (Json.file (.object fields))) :
    (readOptional p).run w = (readFile p).run w :=
  run_bind_of_quiet (Files.run_isFile_of_holds hp)

/-! ### Payloads kept -/

end

/-- What can be kept and told apart again: the payloads have an address, their application info has
none, and they hold what JSON text can hold. -/
structure Keepable (p : Payloads) (address : String) : Prop where
  baseUrl : p.baseUrl = some address
  given : address ≠ ""
  free : p.appInfo.find? addressKey = none
  wellFormed : ∀ t ∈ [p.appInfo, p.console, p.full], (Value.object t).WellFormed
  floatFree : ∀ t ∈ [p.appInfo, p.console, p.full], (Value.object t).FloatFree

theorem floatFreeFields_append {t more : Table Value} (ht : Value.FloatFreeFields t)
    (hmore : Value.FloatFreeFields more) : Value.FloatFreeFields (t ++ more) := by
  induction t with
  | nil => exact hmore
  | cons e t ih => exact ⟨ht.1, ih ht.2⟩

namespace Keepable
variable {p : Payloads} {address : String} (hp : Keepable p address)
include hp

theorem keptAppInfo_eq : p.keptAppInfo = p.appInfo.insert addressKey (.text address) := by
  have hfree : Table.contains p.appInfo addressKey = false := by simp [Table.contains, hp.free]
  unfold keptAppInfo
  rw [hp.baseUrl]
  split
  · rename_i h
    cases h
  · rename_i h
    exact absurd (Option.some.inj h) hp.given
  · rename_i h
    obtain rfl := Option.some.inj h
    rw [hfree]
    rfl

theorem keptAppInfo_append : p.keptAppInfo = p.appInfo ++ [(addressKey, .text address)] := by
  rw [hp.keptAppInfo_eq, Table.insert_of_notMem (Table.find?_eq_none_iff.mp hp.free)]

theorem wellFormed_kept : (Value.object p.keptAppInfo).WellFormed := by
  have happ := hp.wellFormed p.appInfo (by simp)
  refine ⟨?_, ?_⟩
  · rw [hp.keptAppInfo_eq]
    exact Table.distinct_insert happ.1 _ _
  · rw [hp.keptAppInfo_append, Value.wellFormedFields_iff]
    intro e he
    rcases List.mem_append.mp he with he | he
    · exact Value.wellFormedFields_iff.mp happ.2 e he
    · rw [List.mem_singleton.mp he]
      trivial

theorem floatFree_kept : (Value.object p.keptAppInfo).FloatFree := by
  have happ := hp.floatFree p.appInfo (by simp)
  rw [hp.keptAppInfo_append]
  exact floatFreeFields_append happ ⟨trivial, trivial⟩

theorem addressOf_kept : addressOf p.keptAppInfo = .ok p.baseUrl := by
  have hfind : p.keptAppInfo.find? addressKey = some (.text address) := by
    rw [hp.keptAppInfo_eq, Table.find?_insert, if_pos rfl]
  unfold addressOf
  rw [hfind, hp.baseUrl]
  rfl

/-- The address says nothing about the service that the document would repeat. -/
theorem info_kept : Info.ofAppInfo p.keptAppInfo = Info.ofAppInfo p.appInfo := by
  have hother : ∀ key, key ≠ addressKey → p.keptAppInfo.find? key = p.appInfo.find? key := by
    intro key hkey
    rw [hp.keptAppInfo_eq, Table.find?_insert, if_neg hkey.symm]
  unfold Info.ofAppInfo
  rw [hother "name" (by decide), hother "version" (by decide), hother "sdkVersion" (by decide)]

end Keepable

/-! ### Kept and loaded -/

/-- The three files of kept payloads are in the directory. -/
def Kept (p : Payloads) (d : Path) (w : World) : Prop :=
  w.Holds (d.entry appInfoName) (Json.file (.object p.keptAppInfo)) ∧
    w.Holds (d.entry consoleName) (Json.file (.object p.console)) ∧
    w.Holds (d.entry fullName) (Json.file (.object p.full))

theorem Kept.of_same {p : Payloads} {d : Path} {w w' : World} (h : p.Kept d w)
    (hsame : World.SameFiles w w') : p.Kept d w' :=
  ⟨h.1.of_same hsame, h.2.1.of_same hsame, h.2.2.of_same hsame⟩

theorem ofText_keptFiles (p : Payloads) : ∀ e ∈ p.keptFiles, Path.ofText e.1 = ⟨"", [e.1]⟩ := by
  intro e he
  simp only [keptFiles, List.mem_cons, List.not_mem_nil, or_false] at he
  rcases he with rfl | rfl | rfl <;> dsimp only <;> decide

section
variable [Stack]

theorem writeFiles_of_within {d : Path} {name : String} {fields : Table Value}
    {rest : List (String × Table Value)} (h : (Value.object fields).Within .writeJson) :
    writeFiles d ((name, fields) :: rest) = (do
      ofOs (← Files.write (d.child name) (Json.file (.object fields)))
      writeFiles d rest) := by
  rw [writeFiles, Json.write, Value.written_of_within h, ofExcept_ok_bind]

theorem save_of_within {p : Payloads} {d : Path}
    (h : ∀ t ∈ [p.keptAppInfo, p.console, p.full], (Value.object t).Within .writeJson) :
    p.save d = (do
      ofOs (← Files.write (d.child appInfoName) (Json.file (.object p.keptAppInfo)))
      ofOs (← Files.write (d.child consoleName) (Json.file (.object p.console)))
      ofOs (← Files.write (d.child fullName) (Json.file (.object p.full)))
      return ()) := by
  rw [save, keptFiles, writeFiles_of_within (h _ (by simp)), writeFiles_of_within (h _ (by simp)),
    writeFiles_of_within (h _ (by simp)), writeFiles]

theorem writeFiles_ok {d : Path} {files : List (String × Table Value)} {w : World}
    (hnames : ∀ e ∈ files, Path.ofText e.1 = ⟨"", [e.1]⟩)
    (h : ((writeFiles d files).run w).result = .ok ()) :
    Files.WroteAll d w (files.map fun e => (e.1, Json.file (.object e.2)))
      ((writeFiles d files).run w).world := by
  induction files generalizing w with
  | nil => exact .nil w
  | cons first files ih =>
    obtain ⟨name, fields⟩ := first
    have hwithin : (Value.object fields).Within .writeJson := by
      obtain ⟨text, htext, _⟩ := of_bind_ok h
      rw [run_ofExcept] at htext
      exact (Value.written_ok_iff.mp htext).1
    rw [writeFiles_of_within hwithin] at h ⊢
    obtain ⟨outcome, houtcome, h, hworld⟩ := of_bind_ok h
    cases outcome with
    | error e => cases h
    | ok u =>
      obtain ⟨bytes, place, hbytes, hwrote⟩ := Files.write_ok houtcome
      have hchild : d.child name = d.entry name :=
        Path.child_eq_entry (hnames _ List.mem_cons_self) d
      have hrest := ih (fun e he => hnames e (List.mem_cons_of_mem _ he)) h
      rw [hchild] at hwrote hrest hworld ⊢
      rw [hworld]
      exact .cons hbytes hwrote hrest

theorem kept_of_save {p : Payloads} {d : Path} {w : World}
    (h : ((p.save d).run w).result = .ok ()) : p.Kept d ((p.save d).run w).world := by
  have hall := writeFiles_ok p.ofText_keptFiles h
  exact ⟨Files.WroteAll.holds [] [_, _] hall (show appInfoName ∉ [consoleName, fullName] by decide),
    Files.WroteAll.holds [_] [_] hall (show consoleName ∉ [fullName] by decide),
    Files.WroteAll.holds [_, _] [] hall List.not_mem_nil⟩

/-- The payloads as they come back. -/
def restored (p : Payloads) : Payloads := { p with appInfo := p.keptAppInfo }

variable {address directory : String} {p q : Payloads}

/-- Loading goes through the three files, one after another. -/
theorem run_loadSaved (hk : p.Kept (Path.ofText directory) w) :
    (loadSaved directory).run w =
      (do
        let appInfo ← readOptional ((Path.ofText directory).entry appInfoName)
        let console ← readRequired ((Path.ofText directory).entry consoleName)
        let full ← readRequired ((Path.ofText directory).entry fullName)
        return ⟨console, full, appInfo, ← ofExcept (addressOf appInfo)⟩ : Program Payloads).run w := by
  have hdirectory := Files.run_isDirectory_of_holds hk.1 (show appInfoName ≠ ".." by decide)
  refine (run_bind_of_quiet hdirectory).trans ?_
  rw [Path.child_eq_entry (by decide), Path.child_eq_entry (by decide),
    Path.child_eq_entry (by decide)]
  rfl

/-- Nothing but the kept payloads is loaded. -/
theorem eq_of_loadSaved (hp : Keepable p address) (hk : p.Kept (Path.ofText directory) w)
    (h : ((loadSaved directory).run w).result = .ok q) : q = p.restored := by
  rw [run_loadSaved hk] at h
  obtain ⟨appInfo, happ, h, _⟩ := of_bind_ok h
  rw [run_readOptional hk.1] at happ h
  obtain rfl := eq_of_readFile hk.1 hp.wellFormed_kept hp.floatFree_kept happ
  replace hk := hk.of_same (same_readFile ((Path.ofText directory).entry appInfoName) w)
  generalize ((readFile ((Path.ofText directory).entry appInfoName)).run w).world = w1 at h hk
  obtain ⟨console, hconsole, h, _⟩ := of_bind_ok h
  rw [run_readRequired hk.2.1] at hconsole h
  obtain rfl := eq_of_readFile hk.2.1 (hp.wellFormed _ (by simp)) (hp.floatFree _ (by simp)) hconsole
  replace hk := hk.of_same (same_readFile ((Path.ofText directory).entry consoleName) w1)
  generalize ((readFile ((Path.ofText directory).entry consoleName)).run w1).world = w2 at h hk
  obtain ⟨full, hfull, h, _⟩ := of_bind_ok h
  rw [run_readRequired hk.2.2] at hfull
  obtain rfl := eq_of_readFile hk.2.2 (hp.wellFormed _ (by simp)) (hp.floatFree _ (by simp)) hfull
  rw [hp.addressOf_kept] at h
  exact (Except.ok.inj h).symm

/-- The kept payloads are loaded, unless they ask for too much or the machine refuses. -/
theorem loadSaved_of_kept (hp : Keepable p address) (hk : p.Kept (Path.ofText directory) w)
    (htakes : ∀ t ∈ [p.keptAppInfo, p.console, p.full], Json.Takes (.object t))
    (hr : ∀ n, w.refuses n = none) : ((loadSaved directory).run w).result = .ok p.restored := by
  rw [run_loadSaved hk]
  have happ := readFile_of_holds hk.1 hp.wellFormed_kept hp.floatFree_kept (htakes _ (by simp)) (hr _)
  rw [← run_readOptional hk.1] at happ
  refine (result_bind_of_ok happ).trans ?_
  rw [run_readOptional hk.1]
  replace hk := hk.of_same (same_readFile ((Path.ofText directory).entry appInfoName) w)
  have hr1 := World.refuses_run (readFile ((Path.ofText directory).entry appInfoName)) w
  generalize ((readFile ((Path.ofText directory).entry appInfoName)).run w).world = w1 at hk hr1 ⊢
  rw [← hr1] at hr
  have hconsole := readFile_of_holds hk.2.1 (hp.wellFormed _ (by simp)) (hp.floatFree _ (by simp))
    (htakes _ (by simp)) (hr _)
  rw [← run_readRequired hk.2.1] at hconsole
  refine (result_bind_of_ok hconsole).trans ?_
  rw [run_readRequired hk.2.1]
  replace hk := hk.of_same (same_readFile ((Path.ofText directory).entry consoleName) w1)
  have hr2 := World.refuses_run (readFile ((Path.ofText directory).entry consoleName)) w1
  generalize ((readFile ((Path.ofText directory).entry consoleName)).run w1).world = w2 at hk hr2 ⊢
  rw [← hr2] at hr
  have hfull := readFile_of_holds hk.2.2 (hp.wellFormed _ (by simp)) (hp.floatFree _ (by simp))
    (htakes _ (by simp)) (hr _)
  rw [← run_readRequired hk.2.2] at hfull
  refine (result_bind_of_ok hfull).trans ?_
  rw [hp.addressOf_kept]
  rfl

/-- The same document is made of the payloads as they come back, whatever the settings are. -/
theorem generate_restored (hp : Keepable p address) (generator : Generator) (overrides : Overrides)
    (baseUrl : Option String) :
    Generation.generate p.restored generator overrides baseUrl =
      Generation.generate p generator overrides baseUrl := by
  have hassemble : Generation.assemble p.restored generator baseUrl =
      Generation.assemble p generator baseUrl := by
    funext schemas routes
    simp only [Generation.assemble, restored, hp.info_kept]
  unfold Generation.generate
  rw [hassemble]
  rfl

/-- Wherever the files are the same, the directory stands for the payloads: whatever is loaded from it
has the same catalogues and address and makes the same documents, and it is loaded unless it asks for
too much or the machine refuses. -/
def Restores (p : Payloads) (directory : String) (w : World) : Prop :=
  ∀ w' : World, World.SameFiles w w' →
    (∀ q, ((loadSaved directory).run w').result = .ok q →
      q.console = p.console ∧ q.full = p.full ∧ q.baseUrl = p.baseUrl ∧
        ∀ generator overrides baseUrl, Generation.generate q generator overrides baseUrl =
          Generation.generate p generator overrides baseUrl) ∧
      ((∀ t ∈ [p.keptAppInfo, p.console, p.full], Json.Takes (.object t)) →
        (∀ n, w'.refuses n = none) → ∃ q, ((loadSaved directory).run w').result = .ok q)

theorem restores_of_kept (hp : Keepable p address) (hk : p.Kept (Path.ofText directory) w) :
    p.Restores directory w := by
  intro w' hsame
  have hk' := hk.of_same hsame
  constructor
  · intro q hq
    obtain rfl := eq_of_loadSaved hp hk' hq
    exact ⟨rfl, rfl, rfl, generate_restored hp⟩
  · intro htakes hr
    exact ⟨_, loadSaved_of_kept hp hk' htakes hr⟩

/-- What the command is to keep. -/
def fetched (choices : Settings.Choices) : Program Payloads := do
  Client.introspect (← Settings.resolve choices).service

/-- Once the payloads are fetched, the command does nothing but save them. -/
theorem dump_of_fetched {p : Payloads} {choices : Settings.Choices} {w : World} (directory : String)
    (h : ((fetched choices).run w).result = .ok p) :
    ((Command.dumpPayloads directory choices).run w).result =
        ((p.save (Path.ofText directory)).run ((fetched choices).run w).world).result ∧
      ((Command.dumpPayloads directory choices).run w).world =
        ((p.save (Path.ofText directory)).run ((fetched choices).run w).world).world := by
  have hdump : Command.dumpPayloads directory choices = (fetched choices >>= fun p => do
      p.save (Path.ofText directory)
      note (.payloadsSaved (Path.ofText directory).text)) :=
    (bind_bind _ _ _).symm
  rw [hdump, result_bind_of_ok h, (bind_of_ok h).1]
  generalize ((fetched choices).run w).world = w1
  generalize p.save (Path.ofText directory) = save
  cases hsave : (save.run w1).result with
  | ok u =>
    rw [result_bind_of_ok hsave, (bind_of_ok hsave).1]
    exact ⟨rfl, rfl⟩
  | error f =>
    rw [result_bind_of_error hsave, (bind_of_error hsave).1]
    exact ⟨rfl, rfl⟩

/-- Payloads that were saved, or fetched and dumped, make offline the documents that they made live. -/
theorem offline_generation (hp : Keepable p address) (directory : String) :
    (∀ w, ((p.save (Path.ofText directory)).run w).result = .ok () →
      p.Restores directory ((p.save (Path.ofText directory)).run w).world) ∧
      ∀ (choices : Settings.Choices) (w : World),
        ((do Client.introspect (← Settings.resolve choices).service).run w).result = .ok p →
        ((Command.dumpPayloads directory choices).run w).result = .ok () →
        p.Restores directory ((Command.dumpPayloads directory choices).run w).world := by
  constructor
  · intro w hsave
    exact restores_of_kept hp (kept_of_save hsave)
  · intro choices w hfetch hdump
    obtain ⟨hresult, hworld⟩ := dump_of_fetched directory hfetch
    rw [hworld]
    exact restores_of_kept hp (kept_of_save (hresult.symm.trans hdump))

end

/-- The payloads of a service with one function. -/
def sample : Payloads where
  console := [("functions", .object [("Get", .object [])])]
  full := [("functions", .list [.object [("name", .text "Get"), ("count", .int 1)]])]
  appInfo := [("name", .text "Demo")]
  baseUrl := some "http://127.0.0.1:8080"

open Stack.Usual in
theorem sample_offline :
    Keepable sample "http://127.0.0.1:8080" ∧
      ((sample.save (Path.ofText "saved")).run {}).result = .ok () ∧
      ∃ q, ((loadSaved "saved").run ((sample.save (Path.ofText "saved")).run {}).world).result =
          .ok q ∧ q.console = sample.console ∧ q.full = sample.full ∧
        q.baseUrl = some "http://127.0.0.1:8080" := by
  have hp : Keepable sample "http://127.0.0.1:8080" := by
    refine ⟨rfl, by decide, by decide, ?_, ?_⟩
    · intro t ht
      simp only [sample, List.mem_cons, List.not_mem_nil, or_false] at ht
      rcases ht with rfl | rfl | rfl
      · exact ⟨List.nodup_singleton _, trivial, trivial⟩
      · exact ⟨List.nodup_singleton _, ⟨List.nodup_singleton _, ⟨List.nodup_nil, trivial⟩, trivial⟩,
          trivial⟩
      · exact ⟨List.nodup_singleton _, ⟨⟨show List.Nodup ["name", "count"] by decide, trivial, trivial,
          trivial⟩, trivial⟩, trivial⟩
    · intro t ht
      simp only [sample, List.mem_cons, List.not_mem_nil, or_false] at ht
      rcases ht with rfl | rfl | rfl
      · exact ⟨trivial, trivial⟩
      · exact ⟨⟨trivial, trivial⟩, trivial⟩
      · exact ⟨⟨⟨trivial, trivial, trivial⟩, trivial⟩, trivial⟩
  have hsave : ((sample.save (Path.ofText "saved")).run {}).result = .ok () := by
    have hwithin : ∀ t ∈ [sample.keptAppInfo, sample.console, sample.full],
        (Value.object t).Within .writeJson := by
      simp only [← Value.excess?_eq_none_iff_within]
      decide +kernel
    rw [save_of_within hwithin]
    simp only [Files.write, Json.toList_file]
    decide +kernel
  have hrestores := (offline_generation hp "saved").1 {} hsave _ (.refl _)
  have htakes : ∀ t ∈ [sample.keptAppInfo, sample.console, sample.full],
      Json.Takes (.object t) := by
    have hdigit : (Text.natChars 1).length ≤ Text.digitLimit :=
      Nat.le_trans ((Text.length_natChars_le_iff 1 0).mpr (by decide)) (by decide)
    intro t ht
    simp only [hp.keptAppInfo_append, List.mem_cons, List.not_mem_nil, or_false] at ht
    rcases ht with rfl | rfl | rfl
    · exact ⟨by decide, trivial, trivial, trivial⟩
    · exact ⟨by decide, ⟨trivial, trivial⟩, trivial⟩
    · exact ⟨by decide, ⟨⟨trivial, hdigit, trivial⟩, trivial⟩, trivial⟩
  have hrefuses : ∀ n, ((sample.save (Path.ofText "saved")).run {}).world.refuses n = none := by
    rw [World.refuses_run]
    exact fun _ => rfl
  obtain ⟨q, hq⟩ := hrestores.2 htakes hrefuses
  obtain ⟨hconsole, hfull, hbase, _⟩ := hrestores.1 q hq
  exact ⟨hp, hsave, q, hq, hconsole, hfull, hbase⟩

end Payloads
end ServiceAtlas
