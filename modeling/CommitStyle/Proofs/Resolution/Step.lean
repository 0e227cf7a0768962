import CommitStyle.Proofs.Checked
import CommitStyle.Resolution

/-!
# One step of resolution

Entries are resolved one after the other, and each adds one rule set: a preset, or a file resolved in
turn. A file that is being resolved is on the chain, so the files off the chain become fewer with each
file that is opened, which gives an induction over chains.
-/

namespace CommitStyle

inductive Reference where
  | preset (set : RuleSet)
  | file (location : Location)

namespace Location

instance : LawfulBEq Location := inferInstanceAs (LawfulBEq (List String))

def base (location : Location) : Option String := some location.parent.path

end Location

namespace Workspace

variable (w : Workspace)

def entryPath (base : Option String) (entry : String) : String :=
  (base.map (Path.join · entry)).getD entry

def refer (base : Option String) (entry : String) : Except Error Reference :=
  match Preset.ofName? entry with
  | some preset => .ok (.preset preset)
  | none =>
    if isPathLike entry then
      match w.locate? (entryPath base entry) with
      | some location => .ok (.file location)
      | none => (ConfigError.notFound (entryPath base entry)).raise
    else (ConfigError.unknownPreset entry).raise

def content (location : Location) : Except Error RuleSet :=
  w.readAt (.ofPath location.path) location

def resolveIn (chain : List Location) (base : Option String) (set : RuleSet) :
    Except Error RuleSet := do
  let below ← w.layAll chain base {} set.bases
  return below.merge { set with bases := [] }

def parentOf (chain : List Location) (base : Option String) (entry : String) :
    Except Error RuleSet := do
  match ← w.refer base entry with
  | .preset set => return set
  | .file location =>
    if location ∈ chain then (ConfigError.circularExtends location.path).raise
    else w.resolveIn (location :: chain) location.base (← w.content location)

lemma content_of_bytes?_eq_none {location : Location} (h : w.tree.bytes? location = none) :
    w.content location = (ConfigError.malformed "Failed to read config file").raise := by
  simp [content, readAt, FileTree.text?, h]

variable {w} in
lemma parentOf_of_refer_error {chain : List Location} {base : Option String} {entry : String}
    {e : Error} (h : w.refer base entry = .error e) : w.parentOf chain base entry = .error e := by
  rw [parentOf, h]
  rfl

variable {w} in
lemma parentOf_of_refer_preset {chain : List Location} {base : Option String} {entry : String}
    {set : RuleSet} (h : w.refer base entry = .ok (.preset set)) :
    w.parentOf chain base entry = .ok set := by
  rw [parentOf, h]
  rfl

variable {w} in
lemma parentOf_of_refer_file {chain : List Location} {base : Option String} {entry : String}
    {location : Location} (h : w.refer base entry = .ok (.file location)) :
    w.parentOf chain base entry =
      if location ∈ chain then (ConfigError.circularExtends location.path).raise
      else w.content location >>= w.resolveIn (location :: chain) location.base := by
  rw [parentOf, h]
  rfl

@[simp] lemma layAll_nil (chain : List Location) (base : Option String) (merged : RuleSet) :
    w.layAll chain base merged [] = .ok merged := by
  rw [layAll]

variable {w} in
lemma layAll_cons_of_file {base : Option String} {entry : String} {location : Location}
    (hp : Preset.ofName? entry = none) (hl : isPathLike entry = true)
    (hw : w.locate? (entryPath base entry) = some location) (chain : List Location)
    (merged : RuleSet) (rest : List String) :
    w.layAll chain base merged (entry :: rest) =
      (if location ∈ chain then (ConfigError.circularExtends location.path).raise
      else w.content location >>= w.resolveIn (location :: chain) location.base) >>=
        fun parent => w.layAll chain base (merged.merge parent) rest := by
  rw [entryPath] at hw
  simp only [layAll, hp, hl, Bool.not_true, Bool.false_eq_true, if_false]
  split
  next hn => simp_all
  next found hf =>
    rw [hw] at hf
    cases hf
    split
    next => rfl
    next hc =>
      split
      next hb =>
        rw [w.content_of_bytes?_eq_none hb]
        rfl
      next =>
        change _ = (w.readAt _ _ >>= _) >>= _
        split
        next e he =>
          rw [he]
          rfl
        next extended he =>
          rw [he]
          change _ = (w.layAll _ _ _ _ >>= _) >>= _
          split
          next e hn =>
            rw [Location.base, hn]
            rfl
          next below hn =>
            rw [Location.base, hn]
            rfl

lemma layAll_cons (chain : List Location) (base : Option String) (merged : RuleSet)
    (entry : String) (rest : List String) :
    w.layAll chain base merged (entry :: rest) =
      w.parentOf chain base entry >>= fun parent =>
        w.layAll chain base (merged.merge parent) rest := by
  rw [parentOf, refer]
  cases hp : Preset.ofName? entry with
  | some preset =>
    rw [layAll, hp]
    rfl
  | none =>
    cases hl : isPathLike entry with
    | false =>
      simp only [layAll, hp, hl, Bool.not_false, if_true]
      rfl
    | true =>
      cases hw : w.locate? (entryPath base entry) with
      | none =>
        rw [entryPath] at hw
        simp only [layAll, hp, hl, Bool.not_true, Bool.false_eq_true, if_false]
        split
        next => rfl
        next hf => simp_all
      | some location =>
        rw [layAll_cons_of_file hp hl hw]
        rfl

lemma resolve_eq_resolveIn (base : Option String) (set : RuleSet) :
    w.resolve base set = w.resolveIn [] base set := rfl

variable {w} in
lemma countOutside_lt_of_content {chain : List Location} {location : Location} {set : RuleSet}
    (hc : location ∉ chain) (hs : w.content location = .ok set) :
    w.tree.countOutside (location :: chain) < w.tree.countOutside chain := by
  cases hb : w.tree.bytes? location with
  | none =>
    rw [w.content_of_bytes?_eq_none hb] at hs
    cases hs
  | some bytes => exact FileTree.countOutside_cons_lt hc (FileTree.exists_mem_of_bytes? hb)

lemma chain_induction {motive : List Location → Prop}
    (step : ∀ chain, (∀ location set, location ∉ chain → w.content location = .ok set →
      motive (location :: chain)) → motive chain) (chain : List Location) : motive chain := by
  induction hn : w.tree.countOutside chain using Nat.strongRecOn generalizing chain with
  | ind n ih =>
    refine step chain fun location set hc hs => ih _ ?_ _ rfl
    exact hn ▸ countOutside_lt_of_content hc hs

/-! ### A bound on the nesting -/

def parentBy (nested : List Location → Option String → RuleSet → Option (Except Error RuleSet))
    (chain : List Location) (base : Option String) (entry : String) :
    Option (Except Error RuleSet) :=
  match w.refer base entry with
  | .error e => some (.error e)
  | .ok (.preset set) => some (.ok set)
  | .ok (.file location) =>
    if location ∈ chain then some (ConfigError.circularExtends location.path).raise
    else
      match w.content location with
      | .error e => some (.error e)
      | .ok set => nested (location :: chain) location.base set

def layBy (parent : String → Option (Except Error RuleSet)) (merged : RuleSet) :
    List String → Option (Except Error RuleSet)
  | [] => some (.ok merged)
  | entry :: rest =>
    match parent entry with
    | none => none
    | some (.error e) => some (.error e)
    | some (.ok set) => layBy parent (merged.merge set) rest

/-- Resolution that gives up where rule sets are nested deeper than `depth`. It does not look at the
size of the file tree. -/
def resolveWithin : Nat → List Location → Option String → RuleSet → Option (Except Error RuleSet)
  | 0, _, _, _ => none
  | depth + 1, chain, base, set =>
    (layBy (w.parentBy (resolveWithin depth) chain base) {} set.bases).map
      (·.map (·.merge { set with bases := [] }))

variable {w} in
lemma layBy_eq_layAll {parent : String → Option (Except Error RuleSet)} {chain : List Location}
    {base : Option String} (h : ∀ entry, parent entry = some (w.parentOf chain base entry))
    (merged : RuleSet) (entries : List String) :
    layBy parent merged entries = some (w.layAll chain base merged entries) := by
  induction entries generalizing merged with
  | nil => rw [layBy, layAll_nil]
  | cons entry rest ih =>
    rw [layBy, h, layAll_cons]
    cases w.parentOf chain base entry with
    | error e => rfl
    | ok set => exact ih _

lemma parentBy_eq_parentOf {nested : List Location → Option String → RuleSet →
    Option (Except Error RuleSet)} {chain : List Location}
    (h : ∀ location set, location ∉ chain → w.content location = .ok set →
      nested (location :: chain) location.base set =
        some (w.resolveIn (location :: chain) location.base set))
    (base : Option String) (entry : String) :
    w.parentBy nested chain base entry = some (w.parentOf chain base entry) := by
  rw [parentBy]
  cases hr : w.refer base entry with
  | error e => rw [parentOf_of_refer_error hr]
  | ok reference =>
    cases reference with
    | preset set => rw [parentOf_of_refer_preset hr]
    | file location =>
      rw [parentOf_of_refer_file hr]
      dsimp only
      split
      next => rfl
      next hc =>
        cases hs : w.content location with
        | error e => rfl
        | ok set => exact h location set hc hs

lemma resolveWithin_eq (depth : Nat) (chain : List Location) (base : Option String)
    (set : RuleSet) (h : w.tree.countOutside chain < depth) :
    w.resolveWithin depth chain base set = some (w.resolveIn chain base set) := by
  induction depth generalizing chain base set with
  | zero => omega
  | succ depth ih =>
    have hn : ∀ location set, location ∉ chain → w.content location = .ok set →
        w.resolveWithin depth (location :: chain) location.base set =
          some (w.resolveIn (location :: chain) location.base set) := by
      intro location set hc hs
      have hlt := countOutside_lt_of_content hc hs
      exact ih _ _ _ (by omega)
    rw [resolveWithin, layBy_eq_layAll (w.parentBy_eq_parentOf hn base), resolveIn]
    cases w.layAll chain base {} set.bases with
    | error e => rfl
    | ok below => rfl

lemma resolve_eq_ok_of_resolveWithin {depth : Nat} {base : Option String}
    {set resolved : RuleSet} (hd : w.tree.entries.length < depth)
    (h : w.resolveWithin depth [] base set >>= Except.toOption = some resolved) :
    w.resolve base set = .ok resolved := by
  have hn : w.tree.countOutside [] < depth :=
    Nat.lt_of_le_of_lt (List.length_filter_le ..) hd
  rw [w.resolveWithin_eq depth [] base set hn] at h
  exact eq_ok_of_toOption_eq_some h

end Workspace

end CommitStyle
