import CommitStyle.Preset
import CommitStyle.Revision
import CommitStyle.RuleSet.Validity
import CommitStyle.Workspace

/-!
# Resolution

A rule set is resolved by laying what it extends over the empty rule set, from left to right, and its
own content over that. What it extends is a preset or a file, and files are resolved in turn. A file
may not come to extend itself.
-/

namespace CommitStyle

def isPathLike (entry : String) : Bool :=
  entry.startsWith "./" || entry.startsWith "../" || entry.startsWith "/" ||
    entry.endsWith ".toml" || entry.endsWith ".json"

namespace FileTree

def countOutside (tree : FileTree) (chain : List Location) : Nat :=
  (tree.entries.filter fun e => !chain.contains e.1).length

theorem exists_mem_of_bytes? {tree : FileTree} {location : Location} {content : ByteArray}
    (h : tree.bytes? location = some content) : ∃ e ∈ tree.entries, e.1 = location := by
  have hl : (tree.entries.lookup location).isSome := by
    unfold bytes? find? at h
    split at h
    next he => split at he <;> simp_all
    next => simp at h
  obtain ⟨e, he, heq⟩ := List.lookup_isSome_iff.1 hl
  exact ⟨e, he, (beq_iff_eq.1 heq).symm⟩

theorem countOutside_cons_lt {tree : FileTree} {chain : List Location} {location : Location}
    (hc : location ∉ chain) (hm : ∃ e ∈ tree.entries, e.1 = location) :
    tree.countOutside (location :: chain) < tree.countOutside chain := by
  have hf : (tree.entries.filter fun e => !(location :: chain).contains e.1) =
      ((tree.entries.filter fun e => !chain.contains e.1).filter fun e => !decide (e.1 = location)) := by
    rw [List.filter_filter]
    congr 1
    funext e
    simp [Bool.not_or]
  unfold countOutside
  rw [hf]
  obtain ⟨e, he, heq⟩ := hm
  refine List.length_filter_lt_length_iff_exists.2 ⟨e, List.mem_filter.2 ⟨he, ?_⟩, ?_⟩
  · simpa [heq] using hc
  · simp [heq]

end FileTree

namespace Workspace

/-- What a rule set extends, laid over `merged` from left to right. `chain` holds the files that are
being resolved, and relative paths start from `base`. -/
def layAll (workspace : Workspace) (chain : List Location) (base : Option String)
    (merged : RuleSet) (entries : List String) : Except Error RuleSet :=
  match entries with
  | [] => .ok merged
  | entry :: rest =>
    match Preset.ofName? entry with
    | some preset => workspace.layAll chain base (merged.merge preset) rest
    | none =>
      let path := (base.map (Path.join · entry)).getD entry
      if !isPathLike entry then (ConfigError.unknownPreset entry).raise
      else
        match workspace.locate? path with
        | none => (ConfigError.notFound path).raise
        | some location =>
          if hc : location ∈ chain then (ConfigError.circularExtends location.path).raise
          else
            match hb : workspace.tree.bytes? location with
            | none => (ConfigError.malformed "Failed to read config file").raise
            | some _ =>
              have := FileTree.countOutside_cons_lt hc (FileTree.exists_mem_of_bytes? hb)
              match workspace.readAt (.ofPath location.path) location with
              | .error error => .error error
              | .ok extended =>
                match workspace.layAll (location :: chain) (some location.parent.path) {}
                    extended.bases with
                | .error error => .error error
                | .ok below =>
                  workspace.layAll chain base
                    (merged.merge (below.merge { extended with bases := [] })) rest
termination_by (workspace.tree.countOutside chain, entries.length)

/-- The rule set with what it extends put in. Relative paths start from `base`, or else from the
current directory. -/
def resolve (workspace : Workspace) (base : Option String) (set : RuleSet) : Except Error RuleSet := do
  let below ← workspace.layAll [] base {} set.bases
  return below.merge { set with bases := [] }

def load (workspace : Workspace) (path : String) : Except Error RuleSet := do
  let set ← workspace.resolve (Path.parent? path) (← workspace.read path)
  set.validate
  return set

/-- The resolved and valid rule set that holds in the current directory: that of the configuration
file that counts, or else the latest revision. -/
def loadDefault (workspace : Workspace) : Except Error RuleSet :=
  match workspace.findConfig? with
  | some location => workspace.load location.path
  | none => do
    let set ← workspace.resolve none Revision.latest.ruleSet
    set.validate
    return set

end Workspace

end CommitStyle
