import Widgetry.Files.Tree

/-!
Files in directories. A directory that was made is where its path leads to, and making it changes no
file (`leads_of_makeDirectories`). A path that is joined from that of a directory and the name of a
file leads to the directory first and from there one name on (`resolve_join`), whether or not the
path of the directory ends in a slash.

A path is a text, and what it leads to depends on its pieces between slashes: empty ones and single
dots are passed over, double dots go up. The names that this library gives to files are neither, and
have no slash in them, so one step from the directory leads to the file. While directories are made
the tree grows and nothing else (`FileTree.Grows`), so ways that were found stay the same.
-/

namespace Widgetry

/-! ## 1. Names of paths -/

namespace Path

theorem pieces_ne_nil (cs : List Char) : pieces cs ≠ [] := by
  induction cs with
  | nil => simp [pieces]
  | cons c cs ih =>
    rw [pieces]
    split
    · simp
    · obtain ⟨piece, rest, hpieces⟩ := List.exists_cons_of_ne_nil ih
      simp [hpieces]

/-- A slash parts the pieces before it from those behind it. -/
theorem pieces_append_slash (xs ys : List Char) :
    pieces (xs ++ '/' :: ys) = pieces xs ++ pieces ys := by
  induction xs with
  | nil => simp [pieces]
  | cons x xs ih =>
    obtain ⟨piece, rest, hpieces⟩ := List.exists_cons_of_ne_nil (pieces_ne_nil xs)
    rw [List.cons_append, pieces, pieces, ih, hpieces]
    split <;> simp

/-- Without a slash there is one piece. -/
theorem pieces_of_not_mem {cs : List Char} (h : '/' ∉ cs) : pieces cs = [cs] := by
  induction cs with
  | nil => rfl
  | cons c cs ih =>
    rw [List.mem_cons, not_or] at h
    have hc : (c == '/') = false := by simpa using Ne.symm h.1
    rw [pieces, hc, if_neg Bool.false_ne_true, ih h.2]
    rfl

/-- A text that can be the name of a file in a directory. It may still be too long. -/
structure IsFileName (name : String) : Prop where
  slash : '/' ∉ name.toList
  nul : '\x00' ∉ name.toList
  named : name ≠ "" ∧ name ≠ "." ∧ name ≠ ".."

variable {directory name : String}

/-- A name without slashes is no absolute path. -/
theorem not_isAbsolute_of_slash (h : '/' ∉ name.toList) : isAbsolute name = false := by
  rw [isAbsolute]
  cases hchars : name.toList with
  | nil => rfl
  | cons c cs =>
    have hc : c ≠ '/' := by
      rintro rfl
      exact h (hchars ▸ List.mem_cons_self)
    simpa using hc

/-- A joined path is the directory's with the name at its end, behind one slash. -/
theorem join_cases (hdirectory : directory ≠ "") (hslash : '/' ∉ name.toList) :
    (∃ xs, directory.toList = xs ++ ['/'] ∧ (join directory name).toList = xs ++ '/' :: name.toList)
      ∨ (join directory name).toList = directory.toList ++ '/' :: name.toList := by
  have hempty : directory.isEmpty = false := by simpa using hdirectory
  rw [join, not_isAbsolute_of_slash hslash, hempty, Bool.or_false, if_neg Bool.false_ne_true]
  by_cases hlast : directory.toList.getLast? = some '/'
  · obtain ⟨xs, hxs⟩ := List.getLast?_eq_some_iff.1 hlast
    rw [if_pos (by simpa using hlast)]
    refine .inl ⟨xs, hxs, ?_⟩
    rw [String.toList_append, hxs, List.append_assoc, List.singleton_append]
  · rw [if_neg (by simpa using hlast)]
    refine .inr ?_
    rw [String.toList_append, String.toList_append]
    simp

/-- The names of a joined path are those of the directory, without the empty one behind a slash at
its end, and the name. -/
theorem names_join (hdirectory : directory ≠ "") (hslash : '/' ∉ name.toList) :
    ∃ above, (names directory = above ∨ names directory = above ++ [""])
      ∧ names (join directory name) = above ++ [name] := by
  have hname : pieces name.toList = [name.toList] := pieces_of_not_mem hslash
  obtain ⟨xs, hxs, hjoin⟩ | hjoin := join_cases hdirectory hslash
  · refine ⟨(pieces xs).map String.ofList, .inr ?_, ?_⟩
    · rw [names, hxs, pieces_append_slash, List.map_append]
      rfl
    · rw [names, hjoin, pieces_append_slash, hname, List.map_append]
      simp
  · refine ⟨names directory, .inl rfl, ?_⟩
    rw [names, names, hjoin, pieces_append_slash, hname, List.map_append]
    simp

/-- A joined path starts where the directory's path does. -/
theorem start_join (current : Place) (hdirectory : directory ≠ "")
    (hslash : '/' ∉ name.toList) : start current (join directory name) = start current directory := by
  have hhead : (join directory name).toList.head? = directory.toList.head? := by
    obtain ⟨xs, hxs, hjoin⟩ | hjoin := join_cases hdirectory hslash
    · rw [hxs, hjoin]
      cases xs <;> rfl
    · rw [hjoin]
      cases hchars : directory.toList with
      | nil => exact absurd (String.toList_eq_nil_iff.1 hchars) hdirectory
      | cons c cs => rfl
  rw [start, start, isAbsolute, isAbsolute, hhead]

/-- A path has a null character only if the directory or the name has one. -/
theorem not_hasNul_join (hdirectory : directory ≠ "") (hslash : '/' ∉ name.toList)
    (hnul : hasNul directory = false) (hname : '\x00' ∉ name.toList) :
    hasNul (join directory name) = false := by
  rw [hasNul, List.contains_eq_mem, decide_eq_false_iff_not] at hnul ⊢
  obtain ⟨xs, hxs, hjoin⟩ | hjoin := join_cases hdirectory hslash
  · rw [hjoin]
    rw [hxs] at hnul
    simp only [List.mem_append, List.mem_cons, not_or] at hnul ⊢
    exact ⟨hnul.1, by decide, hname⟩
  · rw [hjoin]
    simp only [List.mem_append, List.mem_cons, not_or]
    exact ⟨hnul, by decide, hname⟩

/-- A joined path is longer than its parts by a slash at most. -/
theorem utf8ByteSize_join_le (directory path : String) :
    (join directory path).utf8ByteSize
      ≤ directory.utf8ByteSize + 1 + path.utf8ByteSize := by
  have hslash : "/".utf8ByteSize = 1 := by decide
  rw [join]
  split
  · omega
  · split
    · rw [String.utf8ByteSize_append]
      omega
    · rw [String.utf8ByteSize_append, String.utf8ByteSize_append]
      omega

theorem join_ne_empty (hdirectory : directory ≠ "") (hslash : '/' ∉ name.toList) :
    join directory name ≠ "" := by
  intro heq
  obtain ⟨xs, -, hjoin⟩ | hjoin := join_cases hdirectory hslash <;> simp [heq] at hjoin

end Path

namespace FileTree

variable {t t' t'' : FileTree} {current place stop : Place} {names : List String}

/-! ## 2. Ways -/

/-- Names are followed one after another. -/
theorem follow_append (names names' : List String) :
    t.follow place (names ++ names')
      = match t.follow place names with
        | .ok next => t.follow next names'
        | .error e => .error e := by
  induction names generalizing place with
  | nil => rfl
  | cons name names ih =>
    rw [List.cons_append, follow, follow]
    cases t.step place name with
    | error e => rfl
    | ok next => exact ih

/-- From a directory the empty name leads nowhere else. -/
theorem step_empty (h : t.node? place = some .directory) : t.step place "" = .ok place := by
  rw [step, h]
  rfl

/-- From a directory the name of a file leads to a place in it, unless the name is too long. -/
theorem step_of_isFileName {name : String} (hname : Path.IsFileName name)
    (h : t.node? place = some .directory) :
    t.step place name
      = if longestName < name.utf8ByteSize then .error .nameTooLong else .ok (place ++ [name]) := by
  obtain ⟨hempty, hhere, habove⟩ := hname.named
  rw [step, h]
  simp [hempty, hhere, habove]

/-- A way that ends in an empty name ends before it. -/
theorem follow_of_follow_empty (h : t.follow place (names ++ [""]) = .ok stop) :
    t.follow place names = .ok stop := by
  rw [follow_append] at h
  cases hnames : t.follow place names with
  | error e => simp [hnames] at h
  | ok next =>
    rw [hnames] at h
    dsimp only at h
    rw [follow] at h
    cases hstep : t.step next "" with
    | error e => simp [hstep] at h
    | ok last =>
      have hlast := step_empty (node?_of_step hstep)
      rw [hstep] at hlast
      obtain rfl := Except.ok.inj hlast
      rw [hstep] at h
      exact h

/-- A path from a directory goes there and then one name on, unless it is too long. -/
theorem resolve_join {directory name : String} (hdirectory : directory ≠ "")
    (hname : Path.IsFileName name) (h : t.resolve current directory = .ok place) :
    t.resolve current (Path.join directory name)
      = if longestPath < (Path.join directory name).utf8ByteSize then .error .nameTooLong
        else t.step place name := by
  have hempty : (Path.join directory name).isEmpty = false := by
    simpa using Path.join_ne_empty hdirectory hname.slash
  rw [resolve] at h
  split at h
  · simp at h
  · split at h
    · simp at h
    · rename_i hnul
      split at h
      · simp at h
      · have hclean : Path.hasNul (Path.join directory name) = false :=
          Path.not_hasNul_join hdirectory hname.slash (by simpa using hnul) hname.nul
        obtain ⟨above, hnames, hjoin⟩ := Path.names_join hdirectory hname.slash
        have habove : t.follow (Path.start current directory) above = .ok place := by
          rcases hnames with hnames | hnames
          · rw [← hnames]
            exact h
          · rw [hnames] at h
            exact follow_of_follow_empty h
        rw [resolve, hempty, hclean, if_neg Bool.false_ne_true, if_neg Bool.false_ne_true,
          Path.start_join current hdirectory hname.slash, hjoin, follow_append, habove]
        dsimp only
        rw [follow]
        cases t.step place name <;> rfl

/-! ## 3. Directories that are made -/

/-- One tree grows to another one: all that is new are directories. -/
def Grows (t t' : FileTree) : Prop :=
  ∀ place, t'.node? place = t.node? place
    ∨ t.node? place = none ∧ t'.node? place = some .directory

theorem Grows.refl (t : FileTree) : t.Grows t := fun _ => .inl rfl

/-- A tree that grows keeps its directories. -/
theorem Grows.directory (h : t.Grows t') (hplace : t.node? place = some .directory) :
    t'.node? place = some .directory := by
  rcases h place with hsame | ⟨hnone, -⟩
  · rw [hsame, hplace]
  · rw [hplace] at hnone
    cases hnone

theorem Grows.trans (h : t.Grows t') (h' : t'.Grows t'') : t.Grows t'' := by
  intro place
  rcases h' place with hsame' | ⟨hnone', hnew'⟩
  · rw [hsame']
    exact h place
  · rcases h place with hsame | ⟨-, hnew⟩
    · exact .inr ⟨hsame ▸ hnone', hnew'⟩
    · rw [hnew] at hnone'
      cases hnone'

/-- The files of a tree are those of any tree that it grows to. -/
theorem Grows.file_iff (h : t.Grows t') (place : Place) (c : Content) :
    t'.node? place = some (.file c) ↔ t.node? place = some (.file c) := by
  rcases h place with hsame | ⟨hnone, hnew⟩
  · rw [hsame]
  · rw [hnone, hnew]
    simp

/-- A new directory makes a tree grow. -/
theorem grows_put (h : t.node? place = none) : t.Grows (t.put place .directory) := by
  intro other
  by_cases hother : place = other
  · subst hother
    have hroot : place ≠ [] := by
      rintro rfl
      simp [node?] at h
    exact .inr ⟨h, node?_put_self t hroot _⟩
  · exact .inl (node?_put_of_ne t hother _)

/-- A tree that grows keeps its ways. -/
theorem Grows.step (h : t.Grows t') {name : String} {next : Place}
    (hstep : t.step place name = .ok next) : t'.step place name = .ok next := by
  have hnode := node?_of_step hstep
  rw [FileTree.step, hnode] at hstep
  rw [FileTree.step, h.directory hnode]
  exact hstep

/-- Directories that names lead through are made, and lead there afterwards. -/
theorem leads_of_makeAll (hplace : t.node? place = some .directory)
    (h : t.makeAll place names = .ok t') :
    t.Grows t' ∧ ∃ stop, t'.follow place names = .ok stop
      ∧ t'.node? stop = some .directory := by
  induction names generalizing t place with
  | nil =>
    obtain rfl := Except.ok.inj h
    exact ⟨.refl t, place, rfl, hplace⟩
  | cons name names ih =>
    rw [makeAll] at h
    cases hstep : t.step place name with
    | error e => simp [hstep] at h
    | ok next =>
      rw [hstep] at h
      dsimp only at h
      -- what is made from the next place on leads there, and the first step is as before
      have onward {s : FileTree} (hs : t.Grows s) (hnext : s.node? next = some .directory)
          (h : s.makeAll next names = .ok t') :
          t.Grows t' ∧ ∃ stop, t'.follow place (name :: names) = .ok stop
            ∧ t'.node? stop = some .directory := by
        obtain ⟨hgrows, stop, hfollow, hstop⟩ := ih hnext h
        have hall := hs.trans hgrows
        refine ⟨hall, stop, ?_, hstop⟩
        rw [follow, hall.step hstep]
        exact hfollow
      cases hnode : t.node? next with
      | none =>
        rw [hnode] at h
        have hroot : next ≠ [] := by
          rintro rfl
          simp [node?] at hnode
        exact onward (grows_put hnode) (node?_put_self t hroot _) h
      | some node =>
        rw [hnode] at h
        cases node with
        | directory => exact onward (.refl t) hnode h
        | file c => cases h

/-- A directory that was made is where its path leads to, and no file has changed. -/
theorem leads_of_makeDirectories {path : String} (hpath : path ≠ "")
    (h : t.makeDirectories current path = .ok t') :
    t.Grows t' ∧ ∃ place, t'.resolve current path = .ok place
      ∧ t'.node? place = some .directory := by
  have hempty : path.isEmpty = false := by simpa using hpath
  rw [makeDirectories, hempty, if_neg Bool.false_ne_true] at h
  split at h
  · simp at h
  · rename_i hnul
    split at h
    · simp at h
    · rename_i hlong
      have hstart : t.node? (Path.start current path) = some .directory := by
        obtain ⟨piece, rest, hpieces⟩ :=
          List.exists_cons_of_ne_nil (Path.pieces_ne_nil path.toList)
        rw [Path.names, hpieces, List.map_cons, makeAll] at h
        cases hstep : t.step (Path.start current path) (String.ofList piece) with
        | error e => simp [hstep] at h
        | ok next => exact node?_of_step hstep
      obtain ⟨hgrows, place, hfollow, hplace⟩ := leads_of_makeAll hstart h
      refine ⟨hgrows, place, ?_, hplace⟩
      rw [resolve, hempty, if_neg Bool.false_ne_true, if_neg hnul, if_neg hlong]
      exact hfollow

end FileTree

end Widgetry
