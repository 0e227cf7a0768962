import CommitStyle.Workspace
import CommitStyle.Proofs.FileTree
import CommitStyle.Proofs.Path
import Mathlib.Data.List.Chain
import Mathlib.Data.List.Infix

/-!
# Discovery

A configuration is looked up from a directory upwards, then in the home directory, then in the
configuration directory of the user. What is found is the first of all these paths that leads to a
file.
-/

namespace CommitStyle

namespace Path

/-! ### Going up -/

lemma dropIdle_eq_self {names : List String} (h : ∀ name ∈ names, isIdle name = false) :
    dropIdle names = names := by
  have hd : names.reverse.dropWhile isIdle = names.reverse := by
    cases hr : names.reverse with
    | nil => rfl
    | cons last rest =>
      have hl : last ∈ names := List.mem_reverse.1 (hr ▸ .head _)
      rw [List.dropWhile_cons_of_neg (by simp [h last hl])]
  rw [dropIdle, hd, List.reverse_reverse]

lemma parent?_slash_append (rest : String) : parent? ("/" ++ rest) =
    if dropIdle (pieces rest) = [] then none
    else some (Location.path (dropIdle (dropIdle (pieces rest)).dropLast)) := by
  have ha := isAbsolute_slash_append rest
  simp only [parent?, pieces_slash_append, ha]
  split
  next hn => rw [if_pos hn]; simp
  next hn =>
    rw [if_neg hn]
    split
    next hd => rw [hd]; simp; rfl
    next hd =>
      rw [ofPieces_empty_cons hd]
      rfl

lemma isAbsolute_parent? {path above : String} (ha : isAbsolute path = true)
    (h : parent? path = some above) : isAbsolute above = true := by
  obtain ⟨rest, rfl⟩ := exists_of_isAbsolute ha
  rw [parent?_slash_append] at h
  split at h
  · cases h
  · cases h
    exact isAbsolute_slash_append _

lemma isIdle_of_parent?_eq_none {path piece : String} (ha : isAbsolute path = true)
    (h : parent? path = none) (hp : piece ∈ pieces path) : isIdle piece = true := by
  obtain ⟨rest, rfl⟩ := exists_of_isAbsolute ha
  rw [parent?_slash_append] at h
  split at h
  next hn =>
    obtain ⟨idle, hs, hi⟩ := exists_dropIdle_append (pieces rest)
    rw [hn, List.nil_append] at hs
    rw [pieces_slash_append, ← hs] at hp
    rcases List.mem_cons.1 hp with rfl | hp
    · rfl
    · exact hi piece hp
  next => cases h

@[elab_as_elim]
theorem climb_induction {motive : String → Prop} (path : String)
    (top : ∀ path, parent? path = none → motive path)
    (below : ∀ path above, parent? path = some above → motive above → motive path) :
    motive path := by
  induction hn : path.length using Nat.strong_induction_on generalizing path with
  | h n ih =>
    subst hn
    cases hp : parent? path with
    | none => exact top path hp
    | some above => exact below path above hp (ih _ (length_parent?_lt hp) above rfl)

lemma ancestors_of_eq_some {path above : String} (h : parent? path = some above) :
    ancestors path = path :: ancestors above := by
  rw [ancestors]
  split
  next other ho =>
    cases h.symm.trans ho
    rfl
  next hn => cases h.symm.trans hn

lemma ancestors_of_eq_none {path : String} (h : parent? path = none) : ancestors path = [path] := by
  rw [ancestors]
  split
  next other ho => cases h.symm.trans ho
  next => rfl

/-- A list of directories that goes up from a path, each one right above the one before, to one that
nothing is above. -/
structure Climbs (path : String) (directories : List String) : Prop where
  starts : directories.head? = some path
  climbs : directories.IsChain fun below above => parent? below = some above
  ends : ∀ top ∈ directories.getLast?, parent? top = none

theorem climbs_ancestors (path : String) : Climbs path (ancestors path) := by
  induction path using climb_induction with
  | top path h =>
    rw [ancestors_of_eq_none h]
    exact ⟨rfl, .singleton path, by simpa using h⟩
  | below path above h ih =>
    rw [ancestors_of_eq_some h]
    refine ⟨rfl, List.isChain_cons.2 ⟨fun next hn => ?_, ih.climbs⟩, fun top ht => ih.ends top ?_⟩
    · cases ih.starts.symm.trans hn
      exact h
    · obtain ⟨first, rest, ha⟩ : ∃ first rest, ancestors above = first :: rest := by
        cases ha : ancestors above with
        | nil => simpa [ha] using ih.starts
        | cons first rest => exact ⟨first, rest, rfl⟩
      rw [ha] at ht ⊢
      rwa [List.getLast?_cons_cons] at ht

lemma isAbsolute_of_mem_ancestors {path other : String} (ha : isAbsolute path = true)
    (h : other ∈ ancestors path) : isAbsolute other = true := by
  induction path using climb_induction with
  | top path hp =>
    rw [ancestors_of_eq_none hp] at h
    rwa [List.mem_singleton.1 h]
  | below path above hp ih =>
    rw [ancestors_of_eq_some hp] at h
    rcases List.mem_cons.1 h with rfl | h
    · exact ha
    · exact ih (isAbsolute_parent? ha hp) h

end Path

namespace FileTree

variable {tree : FileTree}

lemma foldlM_step?_of_isIdle {pieces : List String}
    (h : ∀ piece ∈ pieces, Path.isIdle piece = true) :
    pieces.foldlM tree.step? [] = some [] := by
  induction pieces with
  | nil => rfl
  | cons piece rest ih =>
    have hs : tree.step? [] piece = some [] := by
      simp [step?, isDirectory, find?_nil, h piece (.head _)]
    rw [List.foldlM_cons, hs]
    exact ih fun other ho => h other (.tail _ ho)

lemma locate?_eq_root {path : String} (directory : Location) (ha : Path.isAbsolute path = true)
    (h : ∀ piece ∈ Path.pieces path, Path.isIdle piece = true) :
    tree.locate? directory path = some [] := by
  have he : path.isEmpty = false := by
    obtain ⟨rest, rfl⟩ := Path.exists_of_isAbsolute ha
    simp
  rw [locate?, he, if_pos ha]
  exact foldlM_step?_of_isIdle h

end FileTree

namespace Location

/-- Above the path of a location are the paths of the locations it begins with, the root last. -/
theorem ancestors_path {location : Location}
    (h : ∀ name ∈ location, Path.isIdle name = false ∧ '/' ∉ name.toList) :
    Path.ancestors location.path = (location.inits.map path).reverse := by
  induction location using List.reverseRecOn with
  | nil => exact Path.ancestors_of_eq_none (by decide +kernel)
  | append_singleton above name ih =>
    have ha : ∀ other ∈ above, Path.isIdle other = false ∧ '/' ∉ other.toList := fun other ho =>
      h other (List.mem_append_left _ ho)
    have hp : Path.pieces (Path.ofPieces (above ++ [name])) = above ++ [name] :=
      Path.pieces_ofPieces (fun other ho => (h other ho).2) (by simp)
    have hu : Path.parent? (path (above ++ [name])) = some (path above) := by
      rw [path, Path.parent?_slash_append, hp, Path.dropIdle_eq_self fun other ho => (h other ho).1,
        List.dropLast_concat, Path.dropIdle_eq_self fun other ho => (ha other ho).1,
        if_neg (by simp)]
    rw [Path.ancestors_of_eq_some hu, ih ha, List.inits_append]
    simp

end Location

namespace Workspace

variable {workspace : Workspace}

/-! ### The search -/

lemma configIn?_or (workspace : Workspace) (directory : String) (others : List String) :
    (candidatesIn directory ++ others).find? workspace.isFile =
      (workspace.configIn? directory).or (others.find? workspace.isFile) :=
  List.find?_append

lemma configAbove?_eq_or (workspace : Workspace) (directory : String) :
    workspace.configAbove? directory =
      (workspace.configIn? directory).or
        ((Path.parent? directory).bind workspace.configAbove?) := by
  rw [configAbove?]
  split
  next path hf =>
    rw [hf]
    rfl
  next hf =>
    rw [hf, Option.none_or]
    split
    next above ha => simp only [ha, Option.bind_some]
    next ha => simp only [ha, Option.bind_none]

lemma configAbove?_eq_find? (workspace : Workspace) (start : String) :
    workspace.configAbove? start =
      ((Path.ancestors start).flatMap candidatesIn).find? workspace.isFile := by
  induction start using Path.climb_induction with
  | top path h =>
    rw [Path.ancestors_of_eq_none h, List.flatMap_cons, configIn?_or, configAbove?_eq_or, h]
    rfl
  | below path above h ih =>
    rw [Path.ancestors_of_eq_some h, List.flatMap_cons, configIn?_or, configAbove?_eq_or, h,
      Option.bind_some, ih]

lemma findConfigFrom?_eq_find? (workspace : Workspace) (start : String) :
    workspace.findConfigFrom? start = (workspace.candidates start).find? workspace.isFile := by
  -- the home directory is one more list of candidates, empty if there is none
  have hh : workspace.home.bind (workspace.configIn? ·.path) =
      (workspace.home.toList.flatMap (candidatesIn ·.path)).find? workspace.isFile := by
    cases workspace.home with
    | none => rfl
    | some home => simp [configIn?]
  rw [findConfigFrom?, candidates, List.find?_append, List.find?_append,
    ← configAbove?_eq_find?, ← hh]
  cases workspace.configAbove? start with
  | some found => rfl
  | none => cases workspace.home.bind (workspace.configIn? ·.path) <;> rfl

/-! ### The first file -/

def LeadsToFile (workspace : Workspace) (path : String) : Prop :=
  ∃ location content, workspace.locate? path = some location ∧
    workspace.tree.find? location = some (.file content)

lemma isFile_iff {path : String} : workspace.isFile path = true ↔ workspace.LeadsToFile path := by
  simp only [isFile, FileTree.isFile, Option.any_eq_true, Option.isSome_iff_exists,
    FileTree.bytes?_eq_some_iff, LeadsToFile]
  grind

instance : DecidablePred workspace.LeadsToFile := fun _ => decidable_of_iff _ isFile_iff

def IsFirstFile (workspace : Workspace) (paths : List String) (path : String) : Prop :=
  ∃ earlier later, paths = earlier ++ path :: later ∧ workspace.LeadsToFile path ∧
    ∀ other ∈ earlier, ¬ workspace.LeadsToFile other

lemma find?_isFile_eq_some_iff {paths : List String} {path : String} :
    paths.find? workspace.isFile = some path ↔ workspace.IsFirstFile paths path := by
  rw [List.find?_eq_some_iff_append, IsFirstFile]
  simp only [isFile_iff, Bool.not_eq_true', Bool.eq_false_iff, ne_eq]
  grind

lemma find?_isFile_eq_none_iff {paths : List String} :
    paths.find? workspace.isFile = none ↔ ∀ path ∈ paths, ¬ workspace.LeadsToFile path := by
  simp only [List.find?_eq_none, isFile_iff]

lemma exists_configIn? {directory name : String} (hn : name ∈ configNames)
    (h : workspace.LeadsToFile (Path.join directory name)) :
    ∃ chosen ∈ configNames, workspace.configIn? directory = some (Path.join directory chosen) := by
  cases hf : workspace.configIn? directory with
  | none => exact absurd h (find?_isFile_eq_none_iff.1 hf _ (List.mem_map_of_mem hn))
  | some path =>
    obtain ⟨chosen, hc, rfl⟩ := List.mem_map.1 (List.mem_of_find?_eq_some hf)
    exact ⟨chosen, hc, rfl⟩

/-- Looking up a configuration goes through the directories from the one it starts in up to the
root, and comes to the first candidate that leads to a file, or to nothing if there is none. So a
directory with such a file under any of the names counts before all that is further up. -/
theorem findConfigFrom?_nearest (workspace : Workspace) {start : String}
    (ha : Path.isAbsolute start = true) :
    Path.Climbs start (Path.ancestors start) ∧
    (∀ top ∈ (Path.ancestors start).getLast?, workspace.locate? top = some []) ∧
    (∀ path, workspace.findConfigFrom? start = some path ↔
      workspace.IsFirstFile (workspace.candidates start) path) ∧
    (workspace.findConfigFrom? start = none ↔
      ∀ path ∈ workspace.candidates start, ¬ workspace.LeadsToFile path) ∧
    (∀ nearer directory further, Path.ancestors start = nearer ++ directory :: further →
      (∀ path ∈ nearer.flatMap candidatesIn, ¬ workspace.LeadsToFile path) →
      ∀ name ∈ configNames, workspace.LeadsToFile (Path.join directory name) →
        ∃ chosen ∈ configNames,
          workspace.findConfigFrom? start = some (Path.join directory chosen)) ∧
    ∀ path location, workspace.locate? path = some location →
      workspace.tree.find? location = some .directory →
        workspace.findConfigFrom? start ≠ some path := by
  have hc := Path.climbs_ancestors start
  have hfirst (path : String) : workspace.findConfigFrom? start = some path ↔
      workspace.IsFirstFile (workspace.candidates start) path := by
    rw [findConfigFrom?_eq_find?, find?_isFile_eq_some_iff]
  refine ⟨hc, fun top ht => ?root, hfirst, ?nothing, ?nearest, ?passed⟩
  case root =>
    have hta := Path.isAbsolute_of_mem_ancestors ha (List.mem_of_getLast? ht)
    exact FileTree.locate?_eq_root workspace.directory hta fun piece hp =>
      Path.isIdle_of_parent?_eq_none hta (hc.ends top ht) hp
  case nothing => rw [findConfigFrom?_eq_find?, find?_isFile_eq_none_iff]
  case nearest =>
    intro nearer directory further hs hno name hn hl
    obtain ⟨chosen, hm, hf⟩ := exists_configIn? hn hl
    refine ⟨chosen, hm, ?_⟩
    rw [findConfigFrom?_eq_find?, candidates, hs, List.flatMap_append, List.flatMap_cons,
      List.append_assoc, List.append_assoc, List.find?_append, find?_isFile_eq_none_iff.2 hno,
      Option.none_or, List.append_assoc, configIn?_or, hf, Option.some_or]
  case passed =>
    intro path location hl hd hf
    -- a location holds either a directory or a file
    obtain ⟨-, -, -, ⟨other, content, ho, hfile⟩, -⟩ := (hfirst path).1 hf
    cases hl.symm.trans ho
    cases hd.symm.trans hfile

def nestedConfigs : Workspace where
  tree := ⟨[(["work"], .directory), (["work", "cmtlint.toml"], .file .empty),
    (["work", "app"], .directory), (["work", "app", "cmtlint.toml"], .directory),
    (["work", "app", ".commitlintrc.json"], .file .empty), (["work", "app", "src"], .directory)]⟩
  home := some ["work"]

theorem findConfigFrom?_nearest_nested :
    Path.isAbsolute "/work/app/src" = true ∧
    nestedConfigs.findConfigFrom? "/work/app/src" = some "/work/app/.commitlintrc.json" ∧
    (∃ chosen ∈ configNames,
      nestedConfigs.findConfigFrom? "/work/app/src" = some (Path.join "/work/app" chosen)) ∧
    nestedConfigs.findConfigFrom? "/work/app/src" ≠ some "/work/app/cmtlint.toml" := by
  have ha : Path.isAbsolute "/work/app/src" = true := by decide +kernel
  obtain ⟨-, -, hfirst, -, hnearest, hpassed⟩ := findConfigFrom?_nearest nestedConfigs ha
  refine ⟨ha, (hfirst _).2 ?first,
    hnearest ["/work/app/src"] "/work/app" ["/work", "/"] ?_ ?_ ".commitlintrc.json" ?_ ?_,
    hpassed _ ["work", "app", "cmtlint.toml"] ?_ ?_⟩
  case first =>
    let searched := nestedConfigs.candidates "/work/app/src"
    exact ⟨searched.take 8, searched.drop 9, by decide +kernel, by decide +kernel,
      by decide +kernel⟩
  all_goals decide +kernel

end Workspace

end CommitStyle
