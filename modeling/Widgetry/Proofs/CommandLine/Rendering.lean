import Widgetry.Proofs.CommandLine.Editing
import Widgetry.Proofs.Component.Word
import Widgetry.Proofs.Files.Directories
import Widgetry.Proofs.Service.Resubmission

/-!
Rendering without a server agrees with the service. Main statement: rendering the text of a served
response, at the address of the service, into a directory that can take its files writes exactly the
code and the snippet of the response, and renames nothing (`render_agrees`). The one thing about a
response that can stand in the way is its title: the file of a component is named for it, and a name
of more than 255 bytes cannot be written (`render_long_title`).
-/

namespace Widgetry.CommandLine

open Component (fileName)

/-! ## 1. Names of artifacts -/

theorem toList_fileName (name : String) : (fileName name).toList = name.toList ++ ".jsx".toList := by
  rw [fileName, String.toList_append]

theorem getLast?_fileName (name : String) : (fileName name).toList.getLast? = some 'x' := by
  rw [toList_fileName, List.getLast?_append]
  rfl

/-- The file of a component has the name of a file, unless it is too long. -/
theorem isFileName_fileName (title : String) :
    Path.IsFileName (fileName (Component.name title)) := by
  have hmem {c : Char} (hc : c ∈ (fileName (Component.name title)).toList) :
      Component.isWordChar c = true ∨ c = '.' := by
    rw [toList_fileName, List.mem_append] at hc
    rcases hc with hc | hc
    · exact .inl (Component.isWordChar_of_mem_name hc)
    · have hending : c ∈ ['.', 'j', 's', 'x'] := hc
      simp only [List.mem_cons, List.not_mem_nil, or_false] at hending
      rcases hending with rfl | rfl | rfl | rfl
      · exact .inr rfl
      all_goals exact .inl (by decide)
  have hne {other : String} (hother : other.toList.getLast? ≠ some 'x') :
      fileName (Component.name title) ≠ other := by
    rintro rfl
    exact hother (getLast?_fileName _)
  refine ⟨fun hslash => ?_, fun hnul => ?_, hne (by decide), hne (by decide), hne (by decide)⟩
  · rcases hmem hslash with h | h <;> exact absurd h (by decide)
  · rcases hmem hnul with h | h <;> exact absurd h (by decide)

theorem isFileName_embedFile : Path.IsFileName embedFile :=
  ⟨by decide, by decide, by decide, by decide, by decide⟩

theorem fileName_ne_embedFile (name : String) : fileName name ≠ embedFile := by
  intro heq
  have hlast := getLast?_fileName name
  rw [heq] at hlast
  exact absurd hlast (by decide)

/-- Characters of ASCII take one byte each. -/
theorem utf8ByteSize_of_ascii {cs : List Char} (h : ∀ c ∈ cs, c.toNat < 128) :
    (String.ofList cs).utf8ByteSize = cs.length := by
  induction cs with
  | nil => rfl
  | cons c cs ih =>
    obtain ⟨hc, hcs⟩ := List.forall_mem_cons.1 h
    have hsize : c.utf8Size = 1 := by
      rw [Char.utf8Size_eq_one_iff, UInt32.le_iff_toNat_le]
      exact Nat.le_of_lt_succ hc
    rw [String.ofList_cons, String.utf8ByteSize_append, String.utf8ByteSize_singleton, hsize,
      ih hcs, List.length_cons, Nat.add_comm]

theorem utf8ByteSize_fileName (title : String) :
    (fileName (Component.name title)).utf8ByteSize
      = (Component.nameChars title.toList).length + 4 := by
  have hending : ".jsx".utf8ByteSize = 4 := by decide
  have hname : (Component.name title).utf8ByteSize = (Component.nameChars title.toList).length := by
    refine utf8ByteSize_of_ascii fun c hc => ?_
    have hmem : c ∈ (Component.name title).toList := by
      rw [Component.name, String.toList_ofList]
      exact hc
    exact Component.toNat_lt_of_isWordChar (Component.isWordChar_of_mem_name hmem)
  rw [fileName, String.utf8ByteSize_append, hname, hending]

theorem length_joinedPieces_le (start : Bool) (title : List Char) :
    (Component.joinedPieces start title).length ≤ title.length := by
  induction title generalizing start with
  | nil => exact Nat.le_refl _
  | cons c cs ih =>
    rw [Component.joinedPieces]
    split
    · exact Nat.succ_le_succ (ih false)
    · exact Nat.le_succ_of_le (ih true)

/-- Of a title that can be a name nothing is left out. -/
theorem length_joinedPieces {title : List Char}
    (h : ∀ c ∈ title, Component.isNameChar c = true) (start : Bool) :
    (Component.joinedPieces start title).length = title.length := by
  induction title generalizing start with
  | nil => rfl
  | cons c cs ih =>
    obtain ⟨hc, hcs⟩ := List.forall_mem_cons.1 h
    rw [Component.joinedPieces, if_pos hc, List.length_cons, List.length_cons, ih hcs]

/-- A name is what is left of the title, with the ending and at most one character before it. -/
theorem length_nameChars (title : List Char) :
    (Component.joinedPieces true title).length + 6 ≤ (Component.nameChars title).length
      ∧ (Component.nameChars title).length ≤ (Component.joinedPieces true title).length + 7 := by
  have hending : Component.nameEnding.length = 6 := rfl
  rw [Component.nameChars]
  split
  · rename_i hnil
    rw [hnil, hending]
    decide
  · rename_i c cs hcons
    rw [hcons, List.length_append, List.length_append, hending]
    split
    · rw [List.length_singleton]
      omega
    · rw [List.length_nil]
      omega

/-- The file of a component is at most eleven bytes longer than its title has characters. -/
theorem utf8ByteSize_fileName_le (title : String) :
    (fileName (Component.name title)).utf8ByteSize ≤ title.length + 11 := by
  have hpieces := length_joinedPieces_le true title.toList
  have hname := (length_nameChars title.toList).2
  rw [String.length_toList] at hpieces
  rw [utf8ByteSize_fileName]
  omega

/-- The file of a component is longer than its title, if this can be a name. -/
theorem length_lt_utf8ByteSize_fileName {title : String}
    (h : ∀ c ∈ title.toList, Component.isNameChar c = true) :
    title.length < (fileName (Component.name title)).utf8ByteSize := by
  have hpieces := length_joinedPieces h true
  have hname := (length_nameChars title.toList).1
  rw [String.length_toList] at hpieces
  rw [utf8ByteSize_fileName]
  omega

/-! ## 2. Files that are written -/

/-- Exactly these files were written into a place: they are there with their texts, and everywhere
else there are the files that were there before. -/
structure Wrote (before after : FileTree) (place : Place) (files : List (String × String)) :
    Prop where
  there : ∀ f ∈ files, after.node? (place ++ [f.1]) = some (.file (.text f.2))
  elsewhere : ∀ p, (∀ f ∈ files, p ≠ place ++ [f.1]) → ∀ c,
    after.node? p = some (.file c) ↔ before.node? p = some (.file c)

/-- A file can be written into a place of a tree under a path from a directory. -/
structure CanWrite (t : FileTree) (place : Place) (directory name : String) : Prop where
  isFileName : Path.IsFileName name
  short : name.utf8ByteSize ≤ longestName
  path : (Path.join directory name).utf8ByteSize ≤ longestPath
  free : t.node? (place ++ [name]) ≠ some .directory

variable {t : FileTree} {current place : Place} {directory : String}

theorem write_join (hdirectory : directory ≠ "") (hplace : t.resolve current directory = .ok place)
    (hnode : t.node? place = some .directory) {name : String} (h : CanWrite t place directory name)
    (text : String) :
    t.write current (Path.join directory name) text
      = .ok (t.put (place ++ [name]) (.file (.text text))) := by
  rw [FileTree.write, FileTree.resolve_join hdirectory h.isFileName hplace,
    if_neg (Nat.not_lt.2 h.path), FileTree.step_of_isFileName h.isFileName hnode,
    if_neg (Nat.not_lt.2 h.short)]
  dsimp only
  split
  · rename_i hdir
    exact absurd hdir h.free
  · rfl

/-- Files with different names can be written one after the other. -/
theorem writeFiles_join (hdirectory : directory ≠ "")
    (hplace : t.resolve current directory = .ok place) (hnode : t.node? place = some .directory)
    {files : List (String × String)} (hnames : (files.map Prod.fst).Nodup)
    (h : ∀ f ∈ files, CanWrite t place directory f.1) :
    ∃ t', writeFiles t current (files.map fun f => (Path.join directory f.1, f.2)) = (none, t')
      ∧ t'.resolve current directory = .ok place ∧ Wrote t t' place files := by
  induction files generalizing t with
  | nil =>
    refine ⟨t, rfl, hplace, ?_, ?_⟩
    · exact List.forall_mem_nil _
    · exact fun p _ c => Iff.rfl
  | cons f fs ih =>
    obtain ⟨hnew, hrest⟩ := List.nodup_cons.1 hnames
    obtain ⟨hf, hfs⟩ := List.forall_mem_cons.1 h
    let next : FileTree := t.put (place ++ [f.1]) (.file (.text f.2))
    -- the first file takes no place of the others, so they can still be written
    have hother : ∀ g ∈ fs, place ++ [f.1] ≠ place ++ [g.1] := by
      intro g hg heq
      have hname : f.1 = g.1 := by simpa using heq
      exact hnew (List.mem_map.2 ⟨g, hg, hname.symm⟩)
    have hroot : place ++ [f.1] ≠ [] := by simp
    have hplace' : next.resolve current directory = .ok place :=
      FileTree.resolve_put hf.free _ hplace
    have hnode' : next.node? place = some .directory := by
      rw [FileTree.node?_put_of_ne t (by simp), hnode]
    have hfs' : ∀ g ∈ fs, CanWrite next place directory g.1 := by
      intro g hg
      refine ⟨(hfs g hg).isFileName, (hfs g hg).short, (hfs g hg).path, ?_⟩
      rw [FileTree.node?_put_of_ne t (hother g hg)]
      exact (hfs g hg).free
    obtain ⟨t', hwrite, hresolve, hthere, helsewhere⟩ := ih hplace' hnode' hrest hfs'
    refine ⟨t', ?_, hresolve, ?_, ?_⟩
    · rw [List.map_cons, writeFiles, write_join hdirectory hplace hnode hf]
      exact hwrite
    · refine List.forall_mem_cons.2 ⟨?_, hthere⟩
      rw [helsewhere _ hother]
      exact FileTree.node?_put_self t hroot _
    · intro p hp c
      obtain ⟨hpf, hpfs⟩ := List.forall_mem_cons.1 hp
      rw [helsewhere p hpfs, FileTree.node?_put_of_ne t (Ne.symm hpf)]

/-! ## 3. Rendering -/

/-- Where the ids differ, all lines that are said while a widget is rendered are warnings. -/
theorem warning_of_mem_renderMessages {d : Description} (h : d.ids.Nodup) {widgetId : String}
    {l : Line} (hl : .note l ∈ renderMessages d widgetId) : ∃ i ∈ d.issues, l = .warning i.parts := by
  rw [renderMessages, repairMessages, Description.repairIds_of_nodup h] at hl
  simp only [List.map_nil, List.append_nil, List.isEmpty_nil, if_true, List.mem_append,
    List.mem_map, reduceCtorEq, and_false, exists_false, or_false, Message.note.injEq] at hl
  obtain ⟨i, hi, rfl⟩ := hl
  exact ⟨i, hi, rfl⟩

variable {o : Surroundings} {verbose : Bool} {input text cdn : String}

/-- Rendering a saved widget into a directory is writing its artifacts there. -/
theorem run_render {s : Saved} {a : Artifacts} (hload : Saved.load o.files o.current input = .ok s)
    (ha : Artifacts.ofDescription s.widget.repaired (s.effectiveId none) cdn = .ok a) :
    let outcome := Arguments.run ⟨verbose, .render ⟨input, none, some cdn, some directory⟩⟩ o
    outcome.calls = [] ∧ outcome.files = (a.write o.files o.current directory).2
      ∧ outcome.problem = (a.write o.files o.current directory).1
      ∧ ∀ l, .note l ∈ outcome.messages →
        .note l ∈ renderMessages s.widget (s.effectiveId none) := by
  have hrendered (p : Preferences) :
      let outcome := o.render p ⟨input, none, some cdn, some directory⟩
      outcome.calls = [] ∧ outcome.files = (a.write o.files o.current directory).2
        ∧ outcome.problem = (a.write o.files o.current directory).1
        ∧ outcome.messages = renderMessages s.widget (s.effectiveId none) := by
    rw [Surroundings.render, hload]
    dsimp only
    rw [Surroundings.renderSaved]
    dsimp only [Option.some_or, Option.getD_some]
    rw [ha]
    dsimp only
    rcases a.write o.files o.current directory with ⟨_ | problem, files⟩ <;>
      exact ⟨rfl, rfl, rfl, rfl⟩
  obtain ⟨hcalls, hfiles, hproblem, hmessages⟩ :=
    hrendered (Preferences.load o.files o.current o.home).1
  refine ⟨hcalls, hfiles, hproblem, fun l hl => ?_⟩
  -- notes that come from the preferences are no lines about the widget
  rw [Arguments.run] at hl
  dsimp only at hl
  rw [Command.run, hmessages] at hl
  have hmem := (List.mem_filter.1 hl).1
  rcases List.mem_append.1 hmem with hmem | hmem
  · obtain ⟨e, -, he⟩ := List.mem_map.1 hmem
    cases he
  · exact hmem

/-- The artifacts of a servable response are its code and its snippet. -/
theorem artifacts_of_servable {service : Service} {r : Response} (h : service.Servable r) :
    ∃ a, Artifacts.ofDescription r.widget.repaired r.widgetId service.cdn = .ok a
      ∧ ∀ directory, a.files directory
        = [(fileName (Component.name r.widget.title), r.reactCode), (embedFile, r.embedCode)].map
          fun f => (Path.join directory f.1, f.2) := by
  obtain ⟨hids, ⟨source, hemit, hreact⟩, hembed⟩ := h.coherent
  have hsource : (Component.layout r.widget).source = source := by
    rw [Component.emit_eq_ok hids] at hemit
    exact Except.ok.inj hemit
  refine ⟨⟨source, Component.Embed.of r.widget.title r.widgetId service.cdn⟩, ?_, ?_⟩
  · rw [Artifacts.ofDescription, Description.repaired_of_nodup hids, hemit]
    rfl
  · intro directory
    rw [hreact, hembed, ← hsource]
    rfl

/-- A directory that files of some names can be written into, as far as their names allow it: its
path is not empty, it is there or can be made, no directory stands where a file is to be, and the
paths of the files are not too long. -/
structure TakesFiles (t : FileTree) (current : Place) (directory : String) (names : List String) :
    Prop where
  named : directory ≠ ""
  made : ∃ t', t.makeDirectories current directory = .ok t'
  free : ∀ {t' place}, t.makeDirectories current directory = .ok t' →
    t'.resolve current directory = .ok place →
      ∀ name ∈ names, t'.node? (place ++ [name]) ≠ some .directory
  short : ∀ name ∈ names, (Path.join directory name).utf8ByteSize ≤ longestPath

/-- Artifacts are written into a directory that takes their files, unless a name is too long. -/
theorem write_artifacts {a : Artifacts} {t : FileTree} {files : List (String × String)}
    (hfiles : a.files directory = files.map fun f => (Path.join directory f.1, f.2))
    (hdirectory : TakesFiles t current directory (files.map Prod.fst))
    (hnames : (files.map Prod.fst).Nodup)
    (h : ∀ name ∈ files.map Prod.fst, Path.IsFileName name ∧ name.utf8ByteSize ≤ longestName) :
    ∃ t' place, a.write t current directory = (none, t')
      ∧ t'.resolve current directory = .ok place ∧ Wrote t t' place files := by
  obtain ⟨made, hmade⟩ := hdirectory.made
  obtain ⟨hgrows, place, hplace, hnode⟩ :=
    FileTree.leads_of_makeDirectories hdirectory.named hmade
  have hcan : ∀ f ∈ files, CanWrite made place directory f.1 := by
    intro f hf
    have hname : f.1 ∈ files.map Prod.fst := List.mem_map_of_mem hf
    exact ⟨(h _ hname).1, (h _ hname).2, hdirectory.short _ hname,
      hdirectory.free hmade hplace _ hname⟩
  obtain ⟨t', hwrite, hresolve, hthere, helsewhere⟩ :=
    writeFiles_join hdirectory.named hplace hnode hnames hcan
  refine ⟨t', place, ?_, hresolve, hthere, fun p hp c => ?_⟩
  · rw [Artifacts.write, hmade, ← hwrite, ← hfiles]
  · rw [helsewhere p hp c]
    exact hgrows.file_iff p c

/-- If the name of the first file is too long, no file is written. -/
theorem write_artifacts_of_long {a : Artifacts} {t : FileTree} {name content : String}
    {rest : List (String × String)}
    (hfiles : a.files directory = (Path.join directory name, content) :: rest)
    (hnamed : directory ≠ "") (hmade : ∃ t', t.makeDirectories current directory = .ok t')
    (hname : Path.IsFileName name) (hlong : longestName < name.utf8ByteSize) :
    ∃ t', a.write t current directory
        = (some (.unwritable (Path.join directory name) .nameTooLong), t')
      ∧ ∀ p c, t'.node? p = some (.file c) ↔ t.node? p = some (.file c) := by
  obtain ⟨made, hmade⟩ := hmade
  obtain ⟨hgrows, place, hplace, hnode⟩ := FileTree.leads_of_makeDirectories hnamed hmade
  have hresolve : made.resolve current (Path.join directory name) = .error .nameTooLong := by
    rw [FileTree.resolve_join hnamed hname hplace, FileTree.step_of_isFileName hname hnode,
      if_pos hlong]
    split <;> rfl
  refine ⟨made, ?_, hgrows.file_iff⟩
  rw [Artifacts.write, hmade, hfiles]
  dsimp only
  rw [writeFiles, FileTree.write, hresolve]

/-- **Rendering without a server agrees with the service.** The response that a service has handed
out is saved in a file, as a compact or an indented text. Rendering this file at the address of the
service, into a directory that takes the files, sends no request, renames no element and says
nothing but warnings. If the name of the component's file has at most 255 bytes, it succeeds and
writes exactly two files: the code and the snippet of the response. Otherwise it ends with the
problem that this name is too long, and writes no file. -/
theorem render_agrees {service : Service} {r : Response} (hr : service.Served r)
    (hfile : o.files.read o.current input = .ok text) (hsaved : r.value.SavedAs text)
    (hdirectory : TakesFiles o.files o.current directory
      [fileName (Component.name r.widget.title), embedFile]) :
    let component := fileName (Component.name r.widget.title)
    let outcome := Arguments.run
      ⟨verbose, .render ⟨input, none, some service.cdn, some directory⟩⟩ o
    outcome.calls = [] ∧ r.widget.repairIds = (r.widget, [])
      ∧ (∀ l, .note l ∈ outcome.messages → ∃ i ∈ r.widget.issues, l = .warning i.parts)
      ∧ (component.utf8ByteSize ≤ longestName → outcome.problem = none
        ∧ ∃ place, outcome.files.resolve o.current directory = .ok place
          ∧ Wrote o.files outcome.files place
            [(component, r.reactCode), (embedFile, r.embedCode)])
      ∧ (longestName < component.utf8ByteSize →
        outcome.problem = some (.unwritable (Path.join directory component) .nameTooLong)
        ∧ ∀ p c, outcome.files.node? p = some (.file c) ↔ o.files.node? p = some (.file c)) := by
  have hservable := hr.servable
  have hids := hservable.coherent.ids
  have hload := load_eq_ok hfile (Saved.parse_response hservable.tags hsaved)
  obtain ⟨a, ha, hfiles⟩ := artifacts_of_servable hservable
  obtain ⟨hcalls, houtfiles, hproblem, hmessages⟩ := run_render hload ha
  dsimp only
  refine ⟨hcalls, Description.repairIds_of_nodup hids, fun l hl => ?_, fun hshort => ?_,
    fun hlong => ?_⟩
  · exact warning_of_mem_renderMessages hids (hmessages l hl)
  · have hnames : [fileName (Component.name r.widget.title), embedFile].Nodup := by
      simpa using fileName_ne_embedFile _
    have hembed : embedFile.utf8ByteSize ≤ longestName := by decide
    have hwritable : ∀ name ∈ [fileName (Component.name r.widget.title), embedFile],
        Path.IsFileName name ∧ name.utf8ByteSize ≤ longestName :=
      List.forall_mem_cons.2 ⟨⟨isFileName_fileName _, hshort⟩,
        List.forall_mem_singleton.2 ⟨isFileName_embedFile, hembed⟩⟩
    obtain ⟨t', place, hwrite, hplace, hwrote⟩ :=
      write_artifacts (hfiles directory) hdirectory hnames hwritable
    rw [hproblem, houtfiles, hwrite]
    exact ⟨rfl, place, hplace, hwrote⟩
  · obtain ⟨t', hwrite, hkept⟩ := write_artifacts_of_long (hfiles directory) hdirectory.named
      hdirectory.made (isFileName_fileName _) hlong
    rw [hproblem, houtfiles, hwrite]
    exact ⟨rfl, hkept⟩

/-- A desk takes files into a directory that is made on it. -/
theorem takesFiles_desk (text : String) {names : List String}
    (h : ∀ name ∈ names, 4 + name.utf8ByteSize ≤ longestPath) :
    TakesFiles (desk text).files (desk text).current "out" names := by
  let made : FileTree := (desk text).files.put ["out"] .directory
  have hmade : (desk text).files.makeDirectories (desk text).current "out" = .ok made := rfl
  have hout : made.resolve (desk text).current "out" = .ok ["out"] := rfl
  refine ⟨by decide, ⟨made, hmade⟩, ?_, ?_⟩
  · intro t' place ht' hplace name _
    rw [hmade] at ht'
    obtain rfl := Except.ok.inj ht'
    rw [hout] at hplace
    obtain rfl := Except.ok.inj hplace
    simp [made, FileTree.node?, FileTree.put, desk]
  · intro name hname
    have hjoin := Path.utf8ByteSize_join_le "out" name
    have hdirectory : "out".utf8ByteSize = 3 := by decide
    have hshort := h name hname
    omega

theorem render_agrees_desk :
    let service := Service.twinsService
    let r := Service.twinsResponse
    let o := desk (r.value.pretty ++ "\n")
    let component := fileName (Component.name r.widget.title)
    let outcome := Arguments.run ⟨false, .render ⟨"w.json", none, some service.cdn, some "out"⟩⟩ o
    service.Served r ∧ o.files.read o.current "w.json" = .ok (r.value.pretty ++ "\n")
      ∧ TakesFiles o.files o.current "out" [component, embedFile]
      ∧ component.utf8ByteSize ≤ longestName ∧ outcome.problem = none
      ∧ ∃ place, outcome.files.resolve o.current "out" = .ok place
        ∧ Wrote o.files outcome.files place [(component, r.reactCode), (embedFile, r.embedCode)] := by
  intro service r o component outcome
  have hserved : service.Served r := Service.served_twinsResponse
  have hfile : o.files.read o.current "w.json" = .ok (r.value.pretty ++ "\n") := read_desk _
  have hcomponent : component = fileName (Component.name Service.twinsWidget.title) := rfl
  have hdirectory : TakesFiles o.files o.current "out" [component, embedFile] := by
    refine takesFiles_desk _ ?_
    rw [hcomponent]
    decide
  have hshort : component.utf8ByteSize ≤ longestName := by
    rw [hcomponent]
    decide
  obtain ⟨-, -, -, hwrites, -⟩ :=
    @render_agrees "out" o false "w.json" (r.value.pretty ++ "\n") service r hserved hfile .printed
      hdirectory
  exact ⟨hserved, hfile, hdirectory, hshort, hwrites hshort⟩

/-- The response for a widget whose title is too long for the name of a file. -/
def longTitled : Response :=
  Service.twinsService.rendered (.blank .quiz (String.ofList (List.replicate 300 'a')))
    (Service.twinsService.stamp 0).widgetId (Service.twinsService.stamp 0).timestamp

/-- A served response need not be rendered without a server: its title may be too long. -/
theorem render_long_title :
    let service := Service.twinsService
    let r := longTitled
    let o := desk r.text
    let component := fileName (Component.name r.widget.title)
    let outcome := Arguments.run ⟨false, .render ⟨"w.json", none, some service.cdn, some "out"⟩⟩ o
    service.Served r ∧ o.files.read o.current "w.json" = .ok r.text
      ∧ TakesFiles o.files o.current "out" [component, embedFile]
      ∧ outcome.exit = 1
      ∧ outcome.problem = some (.unwritable (Path.join "out" component) .nameTooLong)
      ∧ ∀ p c, outcome.files.node? p = some (.file c) ↔ o.files.node? p = some (.file c) := by
  intro service r o component outcome
  have hserved : service.Served r :=
    Service.served_rendered fun e he => absurd he List.not_mem_nil
  have hservable := hserved.servable
  have hfile : o.files.read o.current "w.json" = .ok r.text := read_desk _
  have hload : Saved.load o.files o.current "w.json" = .ok ⟨r.widget, some r.widgetId⟩ :=
    load_eq_ok hfile (Saved.parse_response hservable.tags .compact)
  have hcomponent : component
      = fileName (Component.name (String.ofList (List.replicate 300 'a'))) := rfl
  have hlength : (String.ofList (List.replicate 300 'a')).length = 300 := by
    rw [String.length_ofList, List.length_replicate]
  have hlong : longestName < component.utf8ByteSize := by
    have htitle : ∀ c ∈ (String.ofList (List.replicate 300 'a')).toList,
        Component.isNameChar c = true := by
      intro c hc
      rw [String.toList_ofList] at hc
      rw [List.eq_of_mem_replicate hc]
      decide
    have hbytes := length_lt_utf8ByteSize_fileName htitle
    rw [hcomponent, longestName]
    omega
  have hdirectory : TakesFiles o.files o.current "out" [component, embedFile] := by
    have hbytes := utf8ByteSize_fileName_le (String.ofList (List.replicate 300 'a'))
    refine takesFiles_desk _ (List.forall_mem_cons.2 ⟨?_, by decide⟩)
    rw [hcomponent, longestPath]
    omega
  obtain ⟨a, ha, hfiles⟩ := artifacts_of_servable hservable
  obtain ⟨-, houtfiles, hproblem, -⟩ := @run_render "out" o false "w.json" service.cdn _ a hload ha
  obtain ⟨t', hwrite, hkept⟩ := write_artifacts_of_long (hfiles "out") hdirectory.named
    hdirectory.made (isFileName_fileName _) hlong
  rw [hwrite] at hproblem houtfiles
  refine ⟨hserved, hfile, hdirectory, ?_, hproblem, ?_⟩
  · rw [Outcome.exit, hproblem]
    rfl
  · rw [houtfiles]
    exact hkept

end Widgetry.CommandLine
