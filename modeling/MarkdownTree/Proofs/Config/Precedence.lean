import MarkdownTree.Config.Decode
import MarkdownTree.Proofs.Config.Discovery

/-!
# What a configuration is made of

A configuration has three sources: the command line, one file at most, and the defaults. The rules
for a load are stated here without reading them off the steps it takes: which file is used, what it
sets or why it cannot be used, which source wins, and that the depth must be in range twice, first
as the file leaves it and then as the command line does.

* `FileTree.Uses` — the file that is used.
* `FileSettings.Given` — what it sets, or what is wrong with it.
* `Config.merged` — the command line before the file before the defaults.
* `Config.Loads` — how a load comes out, rule by rule.
* `load_iff_loads` — a load comes out as the rules say, and every depth that is loaded is in range.
-/

namespace MarkdownTree

/-- Whether a file is used, and which: the one that is asked for, or else the nearest one with the
usual name. -/
inductive FileTree.Uses (t : FileTree) (cwd : Path) :
    Option String → Option (ConfigFile × Entry) → Prop
  | asked {path : String} {place : Path} {e : Entry} : t.resolve cwd path = .ok (place, e) →
      t.Uses cwd (some path) (some (.asked path, e))
  | nearest {dir : Path} {contents : ByteArray} : t.NearestConfig cwd dir contents →
      t.Uses cwd none (some (.found (dir ++ [configName]), .file contents))
  | nothing : (∀ dir, dir <+: cwd → ¬ t.HoldsConfig dir) → t.Uses cwd none none

/-- What the file that is used sets, or why it cannot be used. Without a file nothing is set. -/
inductive FileSettings.Given {ε : Type} (decode : String → Except ε FileSettings) :
    Option (ConfigFile × Entry) → Except (ConfigError ε) FileSettings → Prop
  | noFile : Given decode none (.ok {})
  | unreadable {file : ConfigFile} {e : Entry} {error : FileError} :
      FileTree.Entry.readText e = .error error → Given decode (some (file, e)) (.error (.file error))
  | undecodable {file : ConfigFile} {text : String} {e : Entry} {error : ε} :
      FileTree.Entry.readText e = .ok text → decode text = .error error →
      Given decode (some (file, e)) (.error (.syntaxError (e := error)))
  | decoded {file : ConfigFile} {text : String} {e : Entry} {s : FileSettings} :
      FileTree.Entry.readText e = .ok text → decode text = .ok s →
      Given decode (some (file, e)) (.ok s)

/-- How a depth that is not allowed is out of range. -/
def DepthError.of (depth : Nat) : DepthError :=
  if depth = 0 then .zero else .tooLarge

/-- The text of a file is what was written to it. -/
theorem FileTree.Entry.readText_toUTF8 (s : String) :
    FileTree.Entry.readText (.file s.toUTF8) = .ok s := by
  have hvalid : String.fromUTF8? s.toUTF8 = some s := dif_pos s.isValidUTF8
  rw [FileTree.Entry.readText, hvalid]

namespace Config

/-- Whether a depth is allowed. -/
def InRange (depth : Nat) : Prop :=
  1 ≤ depth ∧ depth ≤ 1024

/-- The depth that a file sets, or the default. -/
def fileDepth (s : FileSettings) : Nat :=
  s.maxDepth.getD 256

/-- The configuration of a command line, if there is one, and a file: each value is that of the
command line if given, else that of the file, else the default. -/
def merged (command : Option CommandSettings) (s : FileSettings) (file : Option ConfigFile) :
    Config where
  gfm := (command.bind (·.gfm) <|> s.gfm).getD true
  footnotes := s.footnotes.getD true
  maxDepth := (command.bind (·.maxDepth) <|> s.maxDepth).getD 256
  fadeOut := (command.bind (·.fadeOut) <|> s.fadeOut).getD false
  format := (command.bind (·.format) <|> s.format).getD .text
  file

/-- How a load comes out. -/
inductive Loads {ε : Type} (decode : String → Except ε FileSettings) (t : FileTree) (cwd : Path)
    (command : Option CommandSettings) : Option String → Except (ConfigError ε) Config → Prop
  /-- The file that is asked for is not there. -/
  | missing {path : String} {error : FileError} : t.resolve cwd path = .error error →
      Loads decode t cwd command (some path) (.error (.notFound path))
  /-- The file cannot be read or decoded. -/
  | unusable {path : Option String} {file : Option (ConfigFile × Entry)} {error : ConfigError ε} :
      t.Uses cwd path file → FileSettings.Given decode file (.error error) →
      Loads decode t cwd command path (.error error)
  /-- The depth in the file is out of range, whatever the command line says. -/
  | fileDepth {path : Option String} {file : Option (ConfigFile × Entry)} {s : FileSettings} :
      t.Uses cwd path file → FileSettings.Given decode file (.ok s) → ¬ InRange (fileDepth s) →
      Loads decode t cwd command path (.error (.depth (.of (fileDepth s))))
  /-- The depth that is in effect is out of range. -/
  | effectiveDepth {path : Option String} {file : Option (ConfigFile × Entry)} {s : FileSettings} :
      t.Uses cwd path file → FileSettings.Given decode file (.ok s) → InRange (fileDepth s) →
      ¬ InRange (merged command s (file.map Prod.fst)).maxDepth →
      Loads decode t cwd command path
        (.error (.depth (.of (merged command s (file.map Prod.fst)).maxDepth)))
  /-- All is well. -/
  | loaded {path : Option String} {file : Option (ConfigFile × Entry)} {s : FileSettings} :
      t.Uses cwd path file → FileSettings.Given decode file (.ok s) → InRange (fileDepth s) →
      InRange (merged command s (file.map Prod.fst)).maxDepth →
      Loads decode t cwd command path (.ok (merged command s (file.map Prod.fst)))

instance (depth : Nat) : Decidable (InRange depth) :=
  inferInstanceAs (Decidable (_ ∧ _))

/-! ## Ranges and precedence -/

theorem validate_eq {ε : Type} (c : Config) :
    c.validate (ε := ε) = if InRange c.maxDepth then .ok c else .error (.depth (.of c.maxDepth)) := by
  unfold validate InRange DepthError.of maxRenderDepth
  split
  · next hzero => simp [hzero]
  · next hzero =>
    split
    · next hlarge => simp [Nat.not_le_of_lt hlarge]
    · next hlarge => simp [Nat.one_le_iff_ne_zero.mpr hzero, Nat.le_of_not_lt hlarge]

theorem merged_none_maxDepth (s : FileSettings) (file : Option ConfigFile) :
    (merged none s file).maxDepth = fileDepth s := rfl

theorem ofFile_eq_merged (s : FileSettings) (file : ConfigFile) :
    ofFile s file = merged none s (some file) := rfl

/-- A command line wins over what is there without one. -/
theorem override_merged (command : CommandSettings) (s : FileSettings) (file : Option ConfigFile) :
    (merged none s file).override command = merged (some command) s file := by
  obtain ⟨format, maxDepth, fadeOut, gfm⟩ := command
  cases format <;> cases maxDepth <;> cases fadeOut <;> cases gfm <;> rfl

/-! ## The file -/

variable {ε : Type} {decode : String → Except ε FileSettings} {t : FileTree} {cwd : Path}
  {command : Option CommandSettings} {path : Option String} {file : Option (ConfigFile × Entry)}

/-- The configuration of the file that is used, without a command line. -/
def loadUsed (decode : String → Except ε FileSettings) :
    Option (ConfigFile × Entry) → Except (ConfigError ε) Config
  | none => .ok {}
  | some (file, e) => loadEntry decode file e

theorem loadFile_of_uses (hcwd : t.IsDirectory cwd) (h : t.Uses cwd path file) :
    loadFile decode t cwd path = loadUsed decode file := by
  cases h with
  | asked h => simp only [loadFile, h, loadUsed]
  | nearest h =>
    have hfound := (FileTree.discover?_eq_some_iff hcwd).mpr ⟨_, _, h, rfl⟩
    simp only [loadFile, hfound, h.follow_eq hcwd, loadUsed]
  | nothing h =>
    have hnone := (FileTree.discover?_eq_none_iff hcwd).mpr h
    simp only [loadFile, hnone, loadUsed]

theorem loadUsed_of_error {error : ConfigError ε}
    (h : FileSettings.Given decode file (.error error)) : loadUsed decode file = .error error := by
  cases h with
  | unreadable h => simp only [loadUsed, loadEntry, h]
  | undecodable h hdecode => simp only [loadUsed, loadEntry, h, hdecode]

theorem loadUsed_of_ok {s : FileSettings} (h : FileSettings.Given decode file (.ok s)) :
    loadUsed decode file = (merged none s (file.map Prod.fst)).validate := by
  cases h with
  | noFile => rfl
  | decoded h hdecode => simp only [loadUsed, loadEntry, h, hdecode, ofFile_eq_merged, Option.map_some]

/-- Unless the file that is asked for is missing, just one file is used, or none. -/
theorem exists_uses (hcwd : t.IsDirectory cwd)
    (h : ∀ p, path = some p → ∃ found, t.resolve cwd p = .ok found) :
    ∃ file, t.Uses cwd path file := by
  cases path with
  | some p =>
    obtain ⟨⟨place, e⟩, hfound⟩ := h p rfl
    exact ⟨_, .asked hfound⟩
  | none =>
    cases hfound : t.discover? cwd with
    | none => exact ⟨_, .nothing ((FileTree.discover?_eq_none_iff hcwd).mp hfound)⟩
    | some found =>
      obtain ⟨dir, contents, hnearest, -⟩ := (FileTree.discover?_eq_some_iff hcwd).mp hfound
      exact ⟨_, .nearest hnearest⟩

theorem exists_given (decode : String → Except ε FileSettings) (file : Option (ConfigFile × Entry)) :
    ∃ given, FileSettings.Given decode file given := by
  cases file with
  | none => exact ⟨_, .noFile⟩
  | some file =>
    obtain ⟨name, e⟩ := file
    cases htext : FileTree.Entry.readText e with
    | error error => exact ⟨_, .unreadable htext⟩
    | ok text =>
      cases hdecode : decode text with
      | error error => exact ⟨_, .undecodable htext hdecode⟩
      | ok s => exact ⟨_, .decoded htext hdecode⟩

/-! ## Loads -/

/-- With a file in range, the effective depth decides. -/
theorem load_of_inRange (hcwd : t.IsDirectory cwd) (huses : t.Uses cwd path file) {s : FileSettings}
    (hgiven : FileSettings.Given decode file (.ok s)) (hrange : InRange (fileDepth s)) :
    load decode t cwd path command = (merged command s (file.map Prod.fst)).validate := by
  have hfile : loadFile decode t cwd path = .ok (merged none s (file.map Prod.fst)) := by
    rw [loadFile_of_uses hcwd huses, loadUsed_of_ok hgiven, validate_eq, merged_none_maxDepth,
      if_pos hrange]
  unfold load
  rw [hfile]
  cases command with
  | none => exact (validate_eq _).trans (if_pos hrange) |>.symm
  | some command => exact congrArg validate (override_merged command s _)

/-- **The rules give what a load gives.** -/
theorem Loads.load_eq (hcwd : t.IsDirectory cwd) {r : Except (ConfigError ε) Config}
    (h : Loads decode t cwd command path r) : load decode t cwd path command = r := by
  cases h with
  | missing h => simp only [load, loadFile, h, Except.bind]
  | unusable huses hgiven =>
    rw [load, loadFile_of_uses hcwd huses, loadUsed_of_error hgiven]
    rfl
  | fileDepth huses hgiven hrange =>
    rw [load, loadFile_of_uses hcwd huses, loadUsed_of_ok hgiven, validate_eq,
      merged_none_maxDepth, if_neg hrange]
    rfl
  | effectiveDepth huses hgiven hrange heffective =>
    rw [load_of_inRange hcwd huses hgiven hrange, validate_eq, if_neg heffective]
  | loaded huses hgiven hrange heffective =>
    rw [load_of_inRange hcwd huses hgiven hrange, validate_eq, if_pos heffective]

/-- There is a rule for every load. -/
theorem exists_loads (decode : String → Except ε FileSettings) (hcwd : t.IsDirectory cwd)
    (command : Option CommandSettings) (path : Option String) :
    ∃ r, Loads decode t cwd command path r := by
  by_cases hmissing : ∃ p error, path = some p ∧ t.resolve cwd p = .error error
  · obtain ⟨p, error, rfl, herror⟩ := hmissing
    exact ⟨_, .missing herror⟩
  · have hfound : ∀ p, path = some p → ∃ found, t.resolve cwd p = .ok found := by
      intro p hp
      cases hresolve : t.resolve cwd p with
      | error error => exact absurd ⟨p, error, hp, hresolve⟩ hmissing
      | ok found => exact ⟨found, rfl⟩
    obtain ⟨file, huses⟩ := exists_uses hcwd hfound
    obtain ⟨given, hgiven⟩ := exists_given decode file
    cases given with
    | error error => exact ⟨_, .unusable huses hgiven⟩
    | ok s =>
      by_cases hrange : InRange (fileDepth s)
      · by_cases heffective : InRange (merged command s (file.map Prod.fst)).maxDepth
        · exact ⟨_, .loaded huses hgiven hrange heffective⟩
        · exact ⟨_, .effectiveDepth huses hgiven hrange heffective⟩
      · exact ⟨_, .fileDepth huses hgiven hrange⟩

/-- **How a load comes out.** It comes out as the rules say. A configuration that is loaded has a
depth in range, and markdown is parsed with its values. -/
theorem load_iff_loads {ε : Type} (decode : String → Except ε FileSettings) {t : FileTree} {cwd : Path}
    (hcwd : t.IsDirectory cwd) (path : Option String) (command : Option CommandSettings) :
    (∀ r, load decode t cwd path command = r ↔ Loads decode t cwd command path r) ∧
      ∀ c, load decode t cwd path command = .ok c →
        1 ≤ c.maxDepth ∧ c.maxDepth ≤ 1024 ∧
          c.parseOptions = { gfm := c.gfm, footnotes := c.footnotes, fadeOut := c.fadeOut } := by
  have hiff : ∀ r, load decode t cwd path command = r ↔ Loads decode t cwd command path r := by
    intro r
    constructor
    · rintro rfl
      obtain ⟨r, hr⟩ := exists_loads decode hcwd command path
      rwa [hr.load_eq hcwd]
    · exact fun h => h.load_eq hcwd
  refine ⟨hiff, ?_⟩
  intro c hc
  cases (hiff _).mp hc with
  | loaded _ _ _ heffective => exact ⟨heffective.1, heffective.2, rfl⟩

/-- A directory with the usual name is passed over, and the command line wins over the file above. -/
theorem load_iff_loads_above_directory :
    let contents := "[render]\nmax_depth = 9\n"
    let t : FileTree := ⟨[(["a"], .directory), (["a", configName], .directory),
      ([configName], .file contents.toUTF8)]⟩
    t.IsDirectory ["a"] ∧
      load FileSettings.decode? t ["a"] none (some { gfm := some false }) =
        .ok { gfm := false, maxDepth := 9, file := some (.found [configName]) } := by
  intro contents t
  have hcwd : t.IsDirectory ["a"] := rfl
  have hdecode : FileSettings.decode? contents = .ok { maxDepth := some 9 } := by decide +kernel
  have hnearest : t.NearestConfig ["a"] [] contents.toUTF8 := by
    refine ⟨List.nil_prefix, rfl, ?_⟩
    rintro dir hdir hlt ⟨found, hfile⟩
    rcases List.prefix_cons_iff.mp hdir with rfl | ⟨rest, rfl, hrest⟩
    · cases hlt
    · obtain rfl := List.prefix_nil.mp hrest
      cases hfile
  refine ⟨hcwd, ((load_iff_loads FileSettings.decode? hcwd none _).1 _).mpr ?_⟩
  exact .loaded (.nearest hnearest) (.decoded (FileTree.Entry.readText_toUTF8 contents) hdecode)
    (by decide) (by decide)

end Config

end MarkdownTree
