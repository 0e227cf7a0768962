import CommitStyle.Hook
import CommitStyle.Proofs.FileTree
import CommitStyle.Proofs.Lines

/-!
# Steps of hook commands

What a command does to the files of a hook, told once: it refuses, finds nothing to do, writes the
script, puts a hook of the user aside for it, removes the script, or brings back what was put aside.
-/

namespace CommitStyle

namespace FileAction

variable {α β : Type} {action : FileAction α} {next : α → FileAction β} {tree after : FileTree}

lemma run_bind_of_ok {a : α} (h : action.run.run tree = (.ok a, after)) :
    (action >>= next).run.run tree = (next a).run.run after := by
  rw [ExceptT.run_bind, StateT.run_bind, h]
  rfl

lemma run_bind_of_error {error : Error} (h : action.run.run tree = (.error error, after)) :
    (action >>= next).run.run tree = (.error error, after) := by
  rw [ExceptT.run_bind, StateT.run_bind, h]
  rfl

lemma run_bind_congr {other : FileAction α} (h : action.run.run tree = other.run.run tree) :
    (action >>= next).run.run tree = (other >>= next).run.run tree := by
  rw [ExceptT.run_bind, StateT.run_bind, h, ExceptT.run_bind, StateT.run_bind]

lemma run_get (tree : FileTree) : (get : FileAction FileTree).run.run tree = (.ok tree, tree) := rfl

lemma discard_eq_bind (action : FileAction α) : discard action = action >>= fun _ => pure () := by
  rw [discard, map_const]
  exact map_eq_pure_bind _ _

variable {f : FileTree → Option FileTree}

lemma run_change (f : FileTree → Option FileTree) (error : Error) (tree : FileTree) :
    (change f error).run.run tree = (match f tree with
      | some tree => (set tree : FileAction Unit)
      | none => throw error).run.run tree := rfl

lemma run_change_of_some (error : Error) (h : f tree = some after) :
    (change f error).run.run tree = (.ok (), after) := by
  rw [run_change, h]
  rfl

lemma run_change_of_none (error : Error) (h : f tree = none) :
    (change f error).run.run tree = (.error error, tree) := by
  rw [run_change, h]
  rfl

end FileAction

namespace Hook

lemma isOwnScript_append_marker (before : String) : isOwnScript (before ++ marker) = true := by
  rw [isOwnScript, Text.hasInfix_iff, String.toList_append]
  exact (List.suffix_append _ _).isInfix

lemma isOwnScript_append {content : String} (h : isOwnScript content = true) (after : String) :
    isOwnScript (content ++ after) = true := by
  rw [isOwnScript, Text.hasInfix_iff] at h ⊢
  rw [String.toList_append]
  exact h.trans (List.prefix_append _ _).isInfix

lemma isOwnScript_script (hook : Hook) (binary : String) :
    isOwnScript (hook.script binary) = true := by
  unfold script
  iterate 5 apply isOwnScript_append
  exact isOwnScript_append_marker _

end Hook

namespace HooksDirectory

inductive Command where
  | install (name binary : String) (force : Bool)
  | installAll (binary : String) (force : Bool)
  | uninstall (name : String)
  | uninstallAll

namespace Command

def action (directory : HooksDirectory) : Command → FileAction Unit
  | install name binary force => discard (directory.install name binary force)
  | installAll binary force => directory.installAll binary force
  | uninstall name => directory.uninstall name
  | uninstallAll => directory.uninstallAll

def run (directory : HooksDirectory) (command : Command) (tree : FileTree) :
    Except Error Unit × FileTree :=
  (command.action directory).run.run tree

/-- The tree that commands leave, whether they fail or not. -/
def runAll (directory : HooksDirectory) (commands : List Command) (tree : FileTree) : FileTree :=
  commands.foldl (fun tree command => (command.run directory tree).2) tree

/-- The program that a command makes hooks run, and whether it may put a hook of the user aside. -/
def program? : Command → Option (String × Bool)
  | install _ binary force | installAll binary force => some (binary, force)
  | uninstall _ | uninstallAll => none

/-- Whether there is a hook of the name that the command gives, if it gives one. -/
def isKnown : Command → Bool
  | install name _ _ | uninstall name => (Hook.ofName? name).isSome
  | installAll _ _ | uninstallAll => true

end Command

/-- Whether the hook is there and can be read, and is or is not one of this program. -/
def HasScript (directory : HooksDirectory) (hook : Hook) (own : Bool) (tree : FileTree) : Prop :=
  ∃ content, tree.text? (directory.hookAt hook) = some content ∧ Hook.isOwnScript content = own

inductive Step (directory : HooksDirectory) (hook : Hook) (command : Command) (tree : FileTree) :
    Except Error Unit × FileTree → Prop
  | refused (error : Error) : Step directory hook command tree (.error error, tree)
  | idle (hp : command.program? = none) (hf : tree.find? (directory.hookAt hook) = none) :
      Step directory hook command tree (.ok (), tree)
  | written {binary : String} {force : Bool} {after : FileTree}
      (hp : command.program? = some (binary, force))
      (hf : tree.find? (directory.hookAt hook) = none ∨ directory.HasScript hook true tree)
      (hw : tree.write? (directory.hookAt hook) (hook.script binary).toUTF8 = some after) :
      Step directory hook command tree (.ok (), after)
  | replaced {binary : String} {aside after : FileTree} (hp : command.program? = some (binary, true))
      (hs : directory.HasScript hook false tree)
      (hm : tree.move? (directory.hookAt hook) (directory.backupAt hook) = some aside)
      (hw : aside.write? (directory.hookAt hook) (hook.script binary).toUTF8 = some after) :
      Step directory hook command tree (.ok (), after)
  | interrupted {binary : String} {aside : FileTree} (error : Error)
      (hp : command.program? = some (binary, true)) (hs : directory.HasScript hook false tree)
      (hm : tree.move? (directory.hookAt hook) (directory.backupAt hook) = some aside)
      (hw : aside.write? (directory.hookAt hook) (hook.script binary).toUTF8 = none) :
      Step directory hook command tree (.error error, aside)
  | removed {after : FileTree} (hp : command.program? = none)
      (hs : directory.HasScript hook true tree)
      (hr : tree.remove? (directory.hookAt hook) = some after)
      (hb : after.find? (directory.backupAt hook) = none) :
      Step directory hook command tree (.ok (), after)
  | restored {bare after : FileTree} (hp : command.program? = none)
      (hs : directory.HasScript hook true tree)
      (hr : tree.remove? (directory.hookAt hook) = some bare)
      (hm : bare.move? (directory.backupAt hook) (directory.hookAt hook) = some after) :
      Step directory hook command tree (.ok (), after)
  | stranded {bare : FileTree} (error : Error) (hp : command.program? = none)
      (hs : directory.HasScript hook true tree)
      (hr : tree.remove? (directory.hookAt hook) = some bare)
      (hb : bare.contains (directory.backupAt hook) = true)
      (hm : bare.move? (directory.backupAt hook) (directory.hookAt hook) = none) :
      Step directory hook command tree (.error error, bare)

variable {directory : HooksDirectory} {hook : Hook} {command : Command} {binary : String}
  {force : Bool} {tree : FileTree}

/-! ### Where the files are -/

lemma hookAt_ne_backupAt (directory : HooksDirectory) (hook : Hook) :
    directory.hookAt hook ≠ directory.backupAt hook := by
  intro h
  have hn := List.append_cancel_left h
  cases hook
  revert hn
  decide

lemma location_ne_hookAt (directory : HooksDirectory) (hook : Hook) :
    directory.location ≠ directory.hookAt hook := by
  simp [hookAt]

lemma location_ne_backupAt (directory : HooksDirectory) (hook : Hook) :
    directory.location ≠ directory.backupAt hook := by
  simp [backupAt]

lemma parent_hookAt (directory : HooksDirectory) (hook : Hook) :
    (directory.hookAt hook).parent = directory.location :=
  List.dropLast_concat

lemma parent_backupAt (directory : HooksDirectory) (hook : Hook) :
    (directory.backupAt hook).parent = directory.location :=
  List.dropLast_concat

lemma length_hookAt (directory : HooksDirectory) (hook : Hook) :
    (directory.hookAt hook).length = (directory.backupAt hook).length := by
  simp [hookAt, backupAt]

lemma not_hookAt_prefix_backupAt (directory : HooksDirectory) (hook : Hook) :
    ¬ directory.hookAt hook <+: directory.backupAt hook := fun h =>
  hookAt_ne_backupAt directory hook (h.eq_of_length (length_hookAt directory hook))

lemma not_backupAt_prefix_hookAt (directory : HooksDirectory) (hook : Hook) :
    ¬ directory.backupAt hook <+: directory.hookAt hook := fun h =>
  hookAt_ne_backupAt directory hook (h.eq_of_length (length_hookAt directory hook).symm).symm

/-! ### Whose hook it is -/

lemma run_isForeign (directory : HooksDirectory) (hook : Hook) (tree : FileTree) :
    (directory.isForeign hook).run.run tree =
      (if tree.contains (directory.hookAt hook) then do
        return !(← MonadExcept.ofExcept (directory.isOwn hook tree))
      else return false : FileAction Bool).run.run tree := rfl

lemma run_isForeign_of_none (h : tree.find? (directory.hookAt hook) = none) :
    (directory.isForeign hook).run.run tree = (.ok false, tree) := by
  rw [run_isForeign, FileTree.contains_eq_false_iff.2 h]
  rfl

lemma HasScript.exists_file {own : Bool} (h : directory.HasScript hook own tree) :
    ∃ content, tree.find? (directory.hookAt hook) = some (.file content) := by
  obtain ⟨text, ht, -⟩ := h
  obtain ⟨content, hf, -⟩ := FileTree.text?_eq_some_iff.1 ht
  exact ⟨content, hf⟩

lemma HasScript.contains {own : Bool} (h : directory.HasScript hook own tree) :
    tree.contains (directory.hookAt hook) = true := by
  obtain ⟨content, hf⟩ := h.exists_file
  rw [FileTree.contains, hf]
  rfl

lemma isOwn_eq_ok_iff {own : Bool} :
    directory.isOwn hook tree = .ok own ↔ directory.HasScript hook own tree := by
  unfold isOwn HasScript
  cases tree.text? (directory.hookAt hook) with
  | none =>
    constructor
    · rintro ⟨⟩
    · rintro ⟨content, ⟨⟩, -⟩
  | some content =>
    constructor
    · rintro ⟨⟩
      exact ⟨content, rfl, rfl⟩
    · rintro ⟨_, ⟨⟩, rfl⟩
      rfl

lemma run_isForeign_of_hasScript {own : Bool} (h : directory.HasScript hook own tree) :
    (directory.isForeign hook).run.run tree = (.ok (!own), tree) := by
  rw [run_isForeign, h.contains, isOwn_eq_ok_iff.2 h]
  rfl

def unreadable (directory : HooksDirectory) (hook : Hook) : Error :=
  .hook (.installFailed (directory.hookAt hook).path "Failed to read hook")

lemma run_isForeign_of_unreadable (hc : tree.contains (directory.hookAt hook) = true)
    (ht : tree.text? (directory.hookAt hook) = none) :
    (directory.isForeign hook).run.run tree = (.error (directory.unreadable hook), tree) := by
  rw [run_isForeign, hc, isOwn, ht]
  rfl

lemma find?_eq_none_or (directory : HooksDirectory) (hook : Hook) (tree : FileTree) :
    tree.find? (directory.hookAt hook) = none ∨ (∃ own, directory.HasScript hook own tree) ∨
      ∃ error, (directory.isForeign hook).run.run tree = (.error error, tree) ∧
        tree.contains (directory.hookAt hook) = true := by
  cases hc : tree.contains (directory.hookAt hook) with
  | false => exact .inl (FileTree.contains_eq_false_iff.1 hc)
  | true =>
    cases ht : tree.text? (directory.hookAt hook) with
    | some content => exact .inr (.inl ⟨_, content, ht, rfl⟩)
    | none => exact .inr (.inr ⟨_, run_isForeign_of_unreadable hc ht, rfl⟩)

/-! ### Installing -/

def writeScript (directory : HooksDirectory) (hook : Hook) (binary : String) : FileAction Location := do
  FileAction.change (·.write? (directory.hookAt hook) (hook.script binary).toUTF8)
    (.hook (.installFailed hook.fileName "Failed to write hook"))
  return directory.hookAt hook

def putAside (directory : HooksDirectory) (hook : Hook) : FileAction Unit :=
  FileAction.change (·.move? (directory.hookAt hook) (directory.backupAt hook))
    (.hook (.installFailed hook.fileName "Failed to backup existing hook"))

lemma run_installHook_of_error {error : Error}
    (h : (directory.isForeign hook).run.run tree = (.error error, tree)) :
    (directory.installHook hook binary force).run.run tree = (.error error, tree) := by
  rw [installHook]
  exact FileAction.run_bind_of_error h

lemma run_installHook_of_not_foreign
    (h : (directory.isForeign hook).run.run tree = (.ok false, tree)) :
    (directory.installHook hook binary force).run.run tree =
      (directory.writeScript hook binary).run.run tree := by
  rw [installHook]
  dsimp only
  rw [FileAction.run_bind_of_ok h]
  rfl

lemma run_installHook_of_foreign
    (h : (directory.isForeign hook).run.run tree = (.ok true, tree)) :
    (directory.installHook hook binary true).run.run tree =
      (directory.putAside hook >>= fun _ => directory.writeScript hook binary).run.run tree := by
  rw [installHook]
  dsimp only
  rw [FileAction.run_bind_of_ok h]
  rfl

lemma run_installHook_of_not_forced
    (h : (directory.isForeign hook).run.run tree = (.ok true, tree)) :
    (directory.installHook hook binary false).run.run tree =
      (.error (.hook (.alreadyExists hook.fileName)), tree) := by
  rw [installHook]
  dsimp only
  rw [FileAction.run_bind_of_ok h]
  rfl

lemma step_writeScript (hp : command.program? = some (binary, force))
    (hf : tree.find? (directory.hookAt hook) = none ∨ directory.HasScript hook true tree) :
    Step directory hook command tree
      ((directory.writeScript hook binary >>= fun _ => pure ()).run.run tree) := by
  rw [writeScript, bind_assoc]
  cases hw : tree.write? (directory.hookAt hook) (hook.script binary).toUTF8 with
  | none =>
    rw [FileAction.run_bind_of_error (FileAction.run_change_of_none _ hw)]
    exact .refused _
  | some after =>
    rw [FileAction.run_bind_of_ok (FileAction.run_change_of_some _ hw)]
    exact .written hp hf hw

lemma step_putAside (hp : command.program? = some (binary, true))
    (hs : directory.HasScript hook false tree) :
    Step directory hook command tree ((directory.putAside hook >>= fun _ =>
      directory.writeScript hook binary >>= fun _ => pure ()).run.run tree) := by
  rw [putAside]
  cases hm : tree.move? (directory.hookAt hook) (directory.backupAt hook) with
  | none =>
    rw [FileAction.run_bind_of_error (FileAction.run_change_of_none _ hm)]
    exact .refused _
  | some aside =>
    rw [FileAction.run_bind_of_ok (FileAction.run_change_of_some _ hm), writeScript, bind_assoc]
    cases hw : aside.write? (directory.hookAt hook) (hook.script binary).toUTF8 with
    | none =>
      rw [FileAction.run_bind_of_error (FileAction.run_change_of_none _ hw)]
      exact .interrupted _ hp hs hm hw
    | some after =>
      rw [FileAction.run_bind_of_ok (FileAction.run_change_of_some _ hw)]
      exact .replaced hp hs hm hw

lemma step_installHook (hp : command.program? = some (binary, force)) :
    Step directory hook command tree
      ((discard (directory.installHook hook binary force)).run.run tree) := by
  rw [FileAction.discard_eq_bind]
  rcases find?_eq_none_or directory hook tree with hf | ⟨own, hs⟩ | ⟨error, he, -⟩
  · rw [FileAction.run_bind_congr (run_installHook_of_not_foreign (run_isForeign_of_none hf))]
    exact step_writeScript hp (.inl hf)
  · have hi := run_isForeign_of_hasScript hs
    cases own with
    | true =>
      rw [FileAction.run_bind_congr (run_installHook_of_not_foreign hi)]
      exact step_writeScript hp (.inr hs)
    | false =>
      cases force with
      | false =>
        rw [FileAction.run_bind_of_error (run_installHook_of_not_forced hi)]
        exact .refused _
      | true =>
        rw [FileAction.run_bind_congr (run_installHook_of_foreign hi), bind_assoc]
        exact step_putAside hp hs
  · rw [FileAction.run_bind_of_error (run_installHook_of_error he)]
    exact .refused error

/-! ### Removing -/

def bringBack (directory : HooksDirectory) (hook : Hook) : FileAction Unit := do
  if (← get).contains (directory.backupAt hook) then
    FileAction.change (·.move? (directory.backupAt hook) (directory.hookAt hook))
      (.hook (.removeFailed hook.fileName "Failed to restore backup"))

lemma run_uninstallHook_of_none (hf : tree.find? (directory.hookAt hook) = none) :
    (directory.uninstallHook hook).run.run tree = (.ok (), tree) := by
  rw [uninstallHook]
  dsimp only
  rw [FileAction.run_bind_of_ok (FileAction.run_get tree), FileTree.contains_eq_false_iff.2 hf]
  rfl

lemma run_uninstallHook_of_contains (hc : tree.contains (directory.hookAt hook) = true) :
    (directory.uninstallHook hook).run.run tree = (directory.isForeign hook >>= fun foreign =>
      if foreign then throw (.hook (.removeFailed hook.fileName "Hook was not installed by cmtlint"))
      else FileAction.change (·.remove? (directory.hookAt hook))
        (.hook (.removeFailed hook.fileName "Failed to remove hook")) >>= fun _ =>
          directory.bringBack hook : FileAction Unit).run.run tree := by
  rw [uninstallHook]
  dsimp only
  rw [FileAction.run_bind_of_ok (FileAction.run_get tree), hc]
  rfl

lemma run_bringBack (directory : HooksDirectory) (hook : Hook) (tree : FileTree) :
    (directory.bringBack hook).run.run tree =
      (if tree.contains (directory.backupAt hook) then
        FileAction.change (·.move? (directory.backupAt hook) (directory.hookAt hook))
          (.hook (.removeFailed hook.fileName "Failed to restore backup"))
      else pure () : FileAction Unit).run.run tree := rfl

lemma step_bringBack {bare : FileTree} (hp : command.program? = none)
    (hs : directory.HasScript hook true tree)
    (hr : tree.remove? (directory.hookAt hook) = some bare) :
    Step directory hook command tree ((directory.bringBack hook).run.run bare) := by
  rw [run_bringBack]
  cases hb : bare.contains (directory.backupAt hook) with
  | false => exact .removed hp hs hr (FileTree.contains_eq_false_iff.1 hb)
  | true =>
    rw [if_pos rfl]
    cases hm : bare.move? (directory.backupAt hook) (directory.hookAt hook) with
    | none =>
      rw [FileAction.run_change_of_none _ hm]
      exact .stranded _ hp hs hr hb hm
    | some after =>
      rw [FileAction.run_change_of_some _ hm]
      exact .restored hp hs hr hm

lemma step_uninstallHook (hp : command.program? = none) :
    Step directory hook command tree ((directory.uninstallHook hook).run.run tree) := by
  rcases find?_eq_none_or directory hook tree with hf | ⟨own, hs⟩ | ⟨error, he, hc⟩
  · rw [run_uninstallHook_of_none hf]
    exact .idle hp hf
  · rw [run_uninstallHook_of_contains hs.contains,
      FileAction.run_bind_of_ok (run_isForeign_of_hasScript hs)]
    cases own with
    | false => exact .refused _
    | true =>
      change Step directory hook command tree ((FileAction.change _ _ >>= fun _ =>
        directory.bringBack hook).run.run tree)
      cases hr : tree.remove? (directory.hookAt hook) with
      | none =>
        rw [FileAction.run_bind_of_error (FileAction.run_change_of_none _ hr)]
        exact .refused _
      | some bare =>
        rw [FileAction.run_bind_of_ok (FileAction.run_change_of_some _ hr)]
        exact step_bringBack hp hs hr
  · rw [run_uninstallHook_of_contains hc, FileAction.run_bind_of_error he]
    exact .refused error

/-! ### Commands -/

lemma named_eq_pure {name : String} (h : Hook.ofName? name = some hook) :
    named name = pure hook := by
  rw [named, h]

lemma run_named_of_none {name : String} (h : Hook.ofName? name = none) :
    (named name).run.run tree = (.error (.hook (.unsupported name)), tree) := by
  rw [named, h]
  rfl

lemma Command.run_of_isKnown (hk : command.isKnown = true) :
    command.run directory tree = (match command.program? with
      | some (binary, force) => discard (directory.installHook .commitMsg binary force)
      | none => directory.uninstallHook .commitMsg : FileAction Unit).run.run tree := by
  cases command with
  | install name binary force =>
    obtain ⟨hook, hn⟩ := Option.isSome_iff_exists.1 hk
    cases hook
    change (discard (named name >>= fun hook =>
      directory.installHook hook binary force)).run.run tree = _
    rw [named_eq_pure hn, pure_bind]
    rfl
  | installAll binary force =>
    change (discard (directory.installHook .commitMsg binary force) >>= fun _ =>
      pure ()).run.run tree = _
    rw [bind_pure_unit]
    rfl
  | uninstall name =>
    obtain ⟨hook, hn⟩ := Option.isSome_iff_exists.1 hk
    cases hook
    change (named name >>= fun hook => directory.uninstallHook hook).run.run tree = _
    rw [named_eq_pure hn, pure_bind]
    rfl
  | uninstallAll =>
    change (directory.uninstallHook .commitMsg >>= fun _ => pure ()).run.run tree = _
    rw [bind_pure_unit]
    rfl

lemma Command.exists_run_of_not_isKnown (hk : command.isKnown = false) :
    ∃ error, command.run directory tree = (.error error, tree) := by
  cases command with
  | install name binary force =>
    have hn : Hook.ofName? name = none := by simpa [isKnown] using hk
    change ∃ error, (discard (named name >>= fun hook =>
      directory.installHook hook binary force)).run.run tree = (.error error, tree)
    rw [FileAction.discard_eq_bind]
    exact ⟨_, FileAction.run_bind_of_error
      (FileAction.run_bind_of_error (run_named_of_none hn))⟩
  | uninstall name =>
    have hn : Hook.ofName? name = none := by simpa [isKnown] using hk
    exact ⟨_, FileAction.run_bind_of_error (run_named_of_none hn)⟩
  | installAll | uninstallAll => cases hk

theorem step_run (directory : HooksDirectory) (command : Command) (tree : FileTree) :
    Step directory .commitMsg command tree (command.run directory tree) := by
  cases hk : command.isKnown with
  | false =>
    obtain ⟨error, he⟩ := Command.exists_run_of_not_isKnown hk
    rw [he]
    exact .refused error
  | true =>
    rw [Command.run_of_isKnown hk]
    cases hp : command.program? with
    | none => exact step_uninstallHook hp
    | some program => exact step_installHook hp

end HooksDirectory

end CommitStyle
