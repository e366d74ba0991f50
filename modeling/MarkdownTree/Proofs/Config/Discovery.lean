import MarkdownTree.Config.Load
import Mathlib.Data.List.Infix

/-!
# The nearest configuration file

From a working directory upwards, the first directory with a file of the usual name in it decides. A
path from the root is followed name by name, and each name on the way must be that of a directory;
below a directory that exists, all this comes down to what stands at the path.

* `FileTree.IsDirectory` — the paths that lead to a directory, with names as they stand.
* `IsDirectory.of_isPrefix` — on the way to a directory every name leads one step down.
* `FileTree.NearestConfig` — the directory that decides, said without a search.
* `discover?_eq_some_iff`, `discover?_eq_none_iff` — the search finds the file in this directory.
-/

namespace MarkdownTree

/-! ## Longest prefixes -/

/-- The first hit in a sequence that is read backwards is the last one. -/
theorem find?_map_range_reverse {α : Type} (p : α → Bool) (f : Nat → α) (x : α) : ∀ n : Nat,
    ((List.range n).map f).reverse.find? p = some x ↔
      ∃ i < n, f i = x ∧ p (f i) = true ∧ ∀ j < n, i < j → p (f j) = false
  | 0 => by simp
  | n + 1 => by
    have hsplit : ((List.range (n + 1)).map f).reverse = f n :: ((List.range n).map f).reverse := by
      simp [List.range_succ]
    rw [hsplit]
    by_cases hn : p (f n) = true
    · rw [List.find?_cons_of_pos hn]
      constructor
      · intro h
        refine ⟨n, Nat.lt_succ_self n, Option.some.inj h, hn, ?_⟩
        intro j hj hlt
        omega
      · rintro ⟨i, hi, rfl, -, hlast⟩
        have hin : i = n := by
          by_contra hne
          have hfalse := hlast n (Nat.lt_succ_self n) (by omega)
          simp [hn] at hfalse
        rw [hin]
    · rw [List.find?_cons_of_neg hn, find?_map_range_reverse p f x n]
      constructor
      · rintro ⟨i, hi, hx, hp, hlast⟩
        refine ⟨i, Nat.lt_succ_of_lt hi, hx, hp, ?_⟩
        intro j hj hlt
        rcases Nat.lt_succ_iff_lt_or_eq.mp hj with hj | rfl
        · exact hlast j hj hlt
        · exact Bool.eq_false_iff.mpr hn
      · rintro ⟨i, hi, hx, hp, hlast⟩
        rcases Nat.lt_succ_iff_lt_or_eq.mp hi with hi | rfl
        · exact ⟨i, hi, hx, hp, fun j hj => hlast j (Nat.lt_succ_of_lt hj)⟩
        · exact absurd hp hn

namespace FileTree

/-! ## Following names -/

/-- Whether a path leads to a directory, each of its names one step down. -/
def IsDirectory (t : FileTree) (path : Path) : Prop :=
  t.follow [] path = .ok (path, .directory)

variable {t : FileTree} {here place : Path} {e : Entry}

theorem follow_nil : t.follow here [] =
    match t.entry? here with
    | some e => .ok (here, e)
    | none => .error .notFound := by
  unfold follow
  cases t.entry? here <;> rfl

/-- In a directory, a name that is neither too long nor a dot or two leads one step down. -/
theorem follow_cons_of_name {name : String} (hhere : t.entry? here = some .directory)
    (hshort : ¬ name.utf8ByteSize > 255) (hstays : ¬ (name == "" || name == ".") = true)
    (hup : ¬ (name == "..") = true) (names : List String) :
    t.follow here (name :: names) = t.follow (here ++ [name]) names := by
  simp only [follow, hhere, if_neg hshort, if_neg hstays, if_neg hup]

/-- Every name leads one step down at most. -/
theorem length_le_of_follow : ∀ {names : List String} {here : Path},
    t.follow here names = .ok (place, e) → place.length ≤ here.length + names.length
  | [], here, h => by
    unfold follow at h
    split at h <;> cases h
    simp
  | name :: names, here, h => by
    unfold follow at h
    split at h
    · cases h
    · cases h
    · split at h
      · cases h
      · split at h
        · have := length_le_of_follow h
          simp only [List.length_cons]
          omega
        · split at h
          · have := length_le_of_follow h
            simp only [List.length_dropLast, List.length_cons] at this ⊢
            omega
          · have := length_le_of_follow h
            simp only [List.length_append, List.length_cons, List.length_nil] at this ⊢
            omega

/-- Where all names lead down, the first of them does, from a directory. -/
theorem follow_cons_of_descends {name : String} {names : List String}
    (h : t.follow here (name :: names) = .ok (here ++ name :: names, e)) :
    t.entry? here = some .directory ∧
      ∀ rest, t.follow here (name :: rest) = t.follow (here ++ [name]) rest := by
  unfold follow at h
  split at h
  · cases h
  · cases h
  · next hdirectory =>
    refine ⟨hdirectory, ?_⟩
    split at h
    · cases h
    · next hshort =>
      split at h
      · -- a name that stays would make the place too short
        have hlength := length_le_of_follow h
        simp only [List.length_append, List.length_cons] at hlength
        omega
      · next hstays =>
        split at h
        · have hlength := length_le_of_follow h
          simp only [List.length_append, List.length_cons, List.length_dropLast] at hlength
          omega
        · next hup => exact follow_cons_of_name hdirectory hshort hstays hup

/-- **On the way to a place below, every name leads one step down.** What follows does not matter. -/
theorem follow_append_of_descends : ∀ {names rest : List String} {here : Path},
    t.follow here (names ++ rest) = .ok (here ++ (names ++ rest), e) →
      ∀ rest', t.follow here (names ++ rest') = t.follow (here ++ names) rest'
  | [], _, here, _, rest' => by simp
  | name :: names, rest, here, h, rest' => by
    obtain ⟨-, hstep⟩ := follow_cons_of_descends h
    have hbelow : t.follow (here ++ [name]) (names ++ rest) =
        .ok (here ++ [name] ++ (names ++ rest), e) := by
      rw [← hstep]
      simpa using h
    rw [List.cons_append, hstep, follow_append_of_descends hbelow rest']
    simp

namespace IsDirectory

variable {cwd dir : Path}

/-- What is above a directory is a directory. -/
theorem of_isPrefix (h : t.IsDirectory cwd) (hdir : dir <+: cwd) :
    t.entry? dir = some .directory ∧ ∀ rest, t.follow [] (dir ++ rest) = t.follow dir rest := by
  obtain ⟨rest, rfl⟩ := hdir
  have hdown : t.follow [] (dir ++ rest) = .ok ([] ++ (dir ++ rest), .directory) := h
  have hfollow : ∀ rest', t.follow [] (dir ++ rest') = t.follow dir rest' :=
    follow_append_of_descends hdown
  refine ⟨?_, hfollow⟩
  have hrest : t.follow dir rest = .ok (dir ++ rest, .directory) := (hfollow rest).symm.trans h
  cases rest with
  | nil =>
    rw [List.append_nil, follow_nil] at hrest
    cases hentry : t.entry? dir with
    | none => simp [hentry] at hrest
    | some e => simpa [hentry] using hrest
  | cons name names => exact (follow_cons_of_descends hrest).1

/-- A file of the usual name in or above a directory is what stands there. -/
theorem leadsToFile_iff (h : t.IsDirectory cwd) (hdir : dir <+: cwd) :
    t.leadsToFile (dir ++ [configName]) = true ↔
      ∃ contents, t.entry? (dir ++ [configName]) = some (.file contents) := by
  obtain ⟨hdirectory, hfollow⟩ := h.of_isPrefix hdir
  unfold leadsToFile
  rw [hfollow, follow_cons_of_name hdirectory (by decide) (by decide) (by decide), follow_nil]
  cases hentry : t.entry? (dir ++ [configName]) with
  | none => simp
  | some e => cases e <;> simp

end IsDirectory

/-! ## The nearest file -/

/-- Whether there is a file of the usual name directly in a directory. -/
def HoldsConfig (t : FileTree) (dir : Path) : Prop :=
  ∃ contents, t.entry? (dir ++ [configName]) = some (.file contents)

/-- Whether, from a working directory upwards, the first file of the usual name is the one in a
directory. -/
structure NearestConfig (t : FileTree) (cwd dir : Path) (contents : ByteArray) : Prop where
  above : dir <+: cwd
  file : t.entry? (dir ++ [configName]) = some (.file contents)
  nearest : ∀ dir', dir' <+: cwd → dir.length < dir'.length → ¬ t.HoldsConfig dir'

variable {cwd : Path}

/-- What stands above a directory is found as a prefix of its names. -/
theorem leadsToFile_take_iff (h : t.IsDirectory cwd) (i : Nat) :
    t.leadsToFile (cwd.take i ++ [configName]) = true ↔ t.HoldsConfig (cwd.take i) :=
  h.leadsToFile_iff (List.take_prefix i cwd)

theorem discover?_eq_find? (t : FileTree) (cwd : Path) :
    t.discover? cwd = ((List.range (cwd.length + 1)).map
      fun i => cwd.take i ++ [configName]).reverse.find? t.leadsToFile := by
  rw [discover?, Path.upward, List.map_reverse, List.map_map]
  rfl

/-- **The search finds the nearest file**, and this is a file. -/
theorem discover?_eq_some_iff (h : t.IsDirectory cwd) {found : Path} :
    t.discover? cwd = some found ↔
      ∃ dir contents, t.NearestConfig cwd dir contents ∧ found = dir ++ [configName] := by
  rw [discover?_eq_find?, find?_map_range_reverse]
  constructor
  · rintro ⟨i, hi, rfl, hfile, hlast⟩
    obtain ⟨contents, hcontents⟩ := (leadsToFile_take_iff h i).mp hfile
    refine ⟨cwd.take i, contents, ⟨List.take_prefix i cwd, hcontents, ?_⟩, rfl⟩
    intro dir' hdir' hlt hholds
    rw [List.prefix_iff_eq_take.mp hdir'] at hholds
    have hle := hdir'.length_le
    simp only [List.length_take] at hlt
    have hfalse := hlast dir'.length (by omega) (by omega)
    rw [(leadsToFile_take_iff h _).mpr hholds] at hfalse
    cases hfalse
  · rintro ⟨dir, contents, hnearest, rfl⟩
    have hdir := List.prefix_iff_eq_take.mp hnearest.above
    have hle := hnearest.above.length_le
    refine ⟨dir.length, by omega, by rw [← hdir], ?_, ?_⟩
    · rw [leadsToFile_take_iff h, ← hdir]
      exact ⟨contents, hnearest.file⟩
    · intro j hj hlt
      rw [← Bool.not_eq_true, leadsToFile_take_iff h]
      refine hnearest.nearest _ (List.take_prefix j cwd) ?_
      simp only [List.length_take]
      omega

theorem discover?_eq_none_iff (h : t.IsDirectory cwd) :
    t.discover? cwd = none ↔ ∀ dir, dir <+: cwd → ¬ t.HoldsConfig dir := by
  rw [discover?_eq_find?, List.find?_eq_none]
  constructor
  · intro hnone dir hdir hholds
    have hle := hdir.length_le
    have htake := List.prefix_iff_eq_take.mp hdir
    refine hnone (dir ++ [configName]) ?_ ((h.leadsToFile_iff hdir).mpr hholds)
    rw [List.mem_reverse, List.mem_map]
    exact ⟨dir.length, List.mem_range.mpr (by omega), by rw [← htake]⟩
  · intro hnone path hpath
    rw [List.mem_reverse, List.mem_map] at hpath
    obtain ⟨i, -, rfl⟩ := hpath
    rw [leadsToFile_take_iff h]
    exact hnone _ (List.take_prefix i cwd)

/-- What is found can be reached from the root. -/
theorem NearestConfig.follow_eq (h : t.IsDirectory cwd) {dir : Path} {contents : ByteArray}
    (hnearest : t.NearestConfig cwd dir contents) :
    t.follow [] (dir ++ [configName]) = .ok (dir ++ [configName], .file contents) := by
  obtain ⟨hdirectory, hfollow⟩ := h.of_isPrefix hnearest.above
  rw [hfollow, follow_cons_of_name hdirectory (by decide) (by decide) (by decide), follow_nil,
    hnearest.file]

end FileTree

end MarkdownTree
