import CommitStyle.Proofs.Casing.Scan
import CommitStyle.Proofs.Guarded.Reading
import CommitStyle.Proofs.Linter
import CommitStyle.Proofs.Verdict

/-!
# Linting by place

The built-in rules that look for places in a message are those on leading blank lines, which go by the
index of a line, and those on letter case, which scan a text by byte offsets. All of these places are
there in a message that has been read, and in that of a commit recorded without one. The name of a commit
is cut after seven bytes whatever it is, and its report cannot be shown if that is inside a character.
-/

namespace CommitStyle

/-- A rule whose check has no result where it looks for a place that is not there. -/
structure GuardedRule where
  name : String
  check? : Message → Condition → Option RuleValue → Option Outcome

namespace Guarded

open Text (isBlankLine trim)
open Message (ofLines)

def fits? (casing : Casing) (text : List Char) : Option Bool := do
  let bare := trim (← (Casing.Scan.mk [] text).run?)
  return !bare.any Unicode.isAlphabetic || casing.shapes bare

def hasCasing? (field : Field) (message : Message) (condition : Condition)
    (value : Option RuleValue) : Option Outcome :=
  match field.of message, Check.items? value with
  | some text, some names => do
    let fits ← (names.filterMap Casing.ofName?).anyM (fits? · text.toList)
    return Check.ask fits condition fun verb =>
      s!"{field.name} {verb} be {Check.commaSeparated names}"
  | _, _ => some .skipped

def hasBlankBeforeBody? (message : Message) (condition : Condition) (_ : Option RuleValue) :
    Option Outcome :=
  if message.body.isNone then some .skipped
  else do
    let below ← slice? message.lines 1 message.lines.length
    return Check.ask (below.head?.any (isBlankLine ·.toList)) condition fun verb =>
      s!"body {verb} have leading blank line"

def hasBlankBeforeFooter? (message : Message) (condition : Condition) (_ : Option RuleValue) :
    Option Outcome :=
  match message.footerStart with
  | some start => do
    let blank ← if 1 < start then message.lines[start - 1]?.map (isBlankLine ·.toList) else some false
    return Check.ask blank condition fun verb => s!"footer {verb} have leading blank line"
  | none => some .skipped

def unguarded (rule : Rule) : GuardedRule where
  name := rule.name
  check? message condition value := some (rule.check message condition value)

def ofBuiltin (rule : Rule) : GuardedRule where
  name := rule.name
  check? :=
    match rule.name with
    | "body-leading-blank" => hasBlankBeforeBody?
    | "footer-leading-blank" => hasBlankBeforeFooter?
    | "header-case" => hasCasing? .header
    | "scope-case" => hasCasing? .scope
    | "subject-case" => hasCasing? .subject
    | "type-case" => hasCasing? .type
    | _ => (unguarded rule).check?

/-- The rules of a linter. Of the `extra` ones only the outcome is known, so that they are not guarded. -/
def rules (extra : List Rule) : List GuardedRule :=
  Rule.builtins.map ofBuiltin ++ extra.map unguarded

def issue? (extra : List Rule) (message : Message) (name : String) (setting : Setting) :
    Option (Option Issue) :=
  if !setting.isEnabled then some none
  else
    match (rules extra).reverse.find? (·.name == name) with
    | some rule => do
      let outcome ← rule.check? message setting.when setting.value
      return if outcome.valid then none
        else some { rule := name, level := setting.level, message := outcome.demand }
    | none => some none

def check? (linter : Linter) (extra : List Rule) (message : Message) : Option Report := do
  let found ← linter.ruleSet.rules.entries.mapM fun (name, setting) =>
    issue? extra message name setting
  return Report.pushAll { input := message.raw, helpUrl := linter.ruleSet.helpUrl } (found.filterMap id)

def lint? (linter : Linter) (extra : List Rule) (text : String) : Option (Except Error Report) :=
  if linter.ignore.holds text then some (.ok { input := text, ignored := true })
  else do
    match ← parse? text with
    | some message => return .ok (← check? linter extra message)
    | none => return .error (.commit .emptyMessage)

/-! ### Checks -/

variable {message : Message}

lemma fits?_eq (casing : Casing) (text : List Char) : fits? casing text = some (casing.fits text) := by
  rw [fits?, Casing.Scan.run?_eq]
  rfl

lemma hasCasing?_eq (field : Field) (message : Message) (condition : Condition)
    (value : Option RuleValue) :
    hasCasing? field message condition value = some (Check.hasCasing field message condition value) := by
  rw [hasCasing?, Check.hasCasing]
  cases field.of message with
  | none => rfl
  | some text =>
    cases Check.items? value with
    | none => rfl
    | some names =>
      have hany : (names.filterMap Casing.ofName?).anyM (fits? · text.toList) =
          some ((names.filterMap Casing.ofName?).any (·.fits text.toList)) := by
        simp only [fits?_eq]
        exact List.anyM_pure
      simp only [hany]
      rfl

lemma hasBlankBeforeBody?_eq (message : Message) (condition : Condition) (value : Option RuleValue) :
    hasBlankBeforeBody? message condition value =
      some (Check.hasBlankBeforeBody message condition value) := by
  have hs : slice? message.lines 1 message.lines.length = some message.below :=
    slice?_append_right [message.header] message.below
  rw [hasBlankBeforeBody?, Check.hasBlankBeforeBody, hs]
  split
  · rfl
  · rfl

def IsPlaced (message : Message) : Prop :=
  ∀ start, message.footerStart = some start → start < message.lines.length

lemma isPlaced_empty (raw : String) : IsPlaced (Message.empty raw) := fun _ h => nomatch h

lemma isPlaced_of_parse? {raw : String} (h : Message.parse? raw = some message) : IsPlaced message := by
  obtain ⟨first, below, -, rfl⟩ := Message.parse?_eq_some_iff.1 h
  intro start hs
  obtain ⟨n, hl, rfl⟩ := Option.map_eq_some_iff.1 hs
  obtain ⟨above, block, rfl, -, rfl, hblock, -⟩ := Message.exists_append_of_linesAboveFooter? hl
  have hn : block ≠ [] := by
    rintro rfl
    cases hblock
  have hpos := List.length_pos_iff.2 hn
  have hlength : (ofLines raw first (above ++ block)).lines.length = above.length + block.length + 1 := by
    simp [Message.lines, ofLines]
  omega

lemma hasBlankBeforeFooter?_eq (h : IsPlaced message) (condition : Condition)
    (value : Option RuleValue) :
    hasBlankBeforeFooter? message condition value =
      some (Check.hasBlankBeforeFooter message condition value) := by
  rw [hasBlankBeforeFooter?, Check.hasBlankBeforeFooter]
  cases hs : message.footerStart with
  | none => rfl
  | some start =>
    have hlt := h start hs
    obtain ⟨line, hline⟩ : ∃ line, message.lines[start - 1]? = some line :=
      ⟨_, List.getElem?_eq_getElem (by omega)⟩
    by_cases hone : 1 < start
    · simp [hone, hline]
    · simp [hone]

lemma check?_ofBuiltin {rule : Rule} (hr : rule ∈ Rule.builtins) (h : IsPlaced message)
    (condition : Condition) (value : Option RuleValue) :
    (ofBuiltin rule).check? message condition value = some (rule.check message condition value) := by
  revert rule
  rw [← List.forall_iff_forall_mem]
  simp [Rule.builtins, ofBuiltin, unguarded, hasCasing?_eq, hasBlankBeforeBody?_eq, hasBlankBeforeFooter?_eq h]

/-! ### Reports -/

variable {linter : Linter} {extra : List Rule}

lemma find?_rules (extra : List Rule) (name : String) :
    (rules extra).reverse.find? (·.name == name) =
      ((extra.reverse.find? (·.name == name)).map unguarded).or
        ((Rule.builtins.reverse.find? (·.name == name)).map ofBuiltin) := by
  rw [rules, List.reverse_append, List.find?_append, ← List.map_reverse, ← List.map_reverse,
    List.find?_map, List.find?_map]
  rfl

lemma issue?_eq (hl : linter.rules = Rule.builtins ++ extra) (h : IsPlaced message) (name : String)
    (setting : Setting) :
    issue? extra message name setting = some (linter.issue? message name setting) := by
  rw [issue?, Linter.issue?, Linter.rule?, hl, List.reverse_append, List.find?_append, find?_rules]
  cases setting.isEnabled with
  | false => rfl
  | true =>
    cases extra.reverse.find? (·.name == name) with
    | some rule =>
      simp [unguarded]
    | none =>
      cases hb : Rule.builtins.reverse.find? (·.name == name) with
      | some rule =>
        have hr : rule ∈ Rule.builtins := List.mem_reverse.1 (List.mem_of_find?_eq_some hb)
        simp [check?_ofBuiltin hr h]
      | none => rfl

lemma check?_eq (hl : linter.rules = Rule.builtins ++ extra) (h : IsPlaced message) :
    check? linter extra message = some (linter.check message) := by
  rw [check?, Linter.check, Linter.issues]
  simp only [issue?_eq hl h]
  have hm : linter.ruleSet.rules.entries.mapM
      (fun x => some (linter.issue? message x.fst x.snd)) =
      some (linter.ruleSet.rules.entries.map fun x => linter.issue? message x.fst x.snd) :=
    List.mapM_pure
  rw [hm, Option.bind_eq_bind, Option.bind_some, List.filterMap_map]
  rfl

lemma lint?_eq (hl : linter.rules = Rule.builtins ++ extra) (text : String) :
    lint? linter extra text = some (linter.lint text) := by
  rw [lint?, Linter.lint, parse?_eq]
  split
  · rfl
  · cases hp : Message.parse? text with
    | none => rfl
    | some message =>
      simp only [Option.bind_eq_bind, Option.bind_some, check?_eq hl (isPlaced_of_parse? hp)]
      rfl

lemma isSome_render?_iff {report : Report} {colors : Bool} :
    (report.render? colors).isSome = true ↔ ∀ commit, report.commit = some commit →
      String.Pos.Raw.IsValid commit ⟨min 7 commit.utf8ByteSize⟩ := by
  rw [Report.render?, Option.isSome_map, Report.inputLine?, Option.isSome_map]
  cases report.commit with
  | none => simp [Report.commitPart?]
  | some commit =>
    have hs : byteSize commit.toList = commit.utf8ByteSize := by
      rw [byteSize, String.ofList_toList]
    simp [Report.commitPart?, Report.shortCommit?, isSome_takeBytes?_iff, hs, isBoundary_iff_isValid]

/-- Whatever message a linter reads or checks, every place that it looks for is there. A report can be
shown if and only if the name of its commit, where it has one, has no more than seven bytes or a
character that ends at the seventh. -/
theorem linting_stays_in_range {w : Workspace} {set : RuleSet} (hm : Linter.make w set extra = .ok linter)
    (raw : String) :
    parse? raw = some (Message.parse? raw) ∧ lint? linter extra raw = some (linter.lint raw) ∧
    (∀ message, Message.parse? raw = some message ∨ message = Message.empty raw →
      check? linter extra message = some (linter.check message)) ∧
    ∀ (report : Report) (colors : Bool), (report.render? colors).isSome = true ↔
      ∀ commit, report.commit = some commit →
        String.Pos.Raw.IsValid commit ⟨min 7 commit.utf8ByteSize⟩ := by
  obtain ⟨resolved, ignore, -, -, -, rfl⟩ := Linter.make_eq_ok_iff.1 hm
  refine ⟨parse?_eq raw, lint?_eq rfl raw, ?_, fun _ _ => isSome_render?_iff⟩
  rintro message (hp | rfl)
  · exact check?_eq rfl (isPlaced_of_parse? hp)
  · exact check?_eq rfl (isPlaced_empty raw)

def placedSet : RuleSet where
  rules := .ofList [
    ("body-leading-blank", .plain .warning .always), ("footer-leading-blank", .plain .error .always),
    ("subject-case", ⟨.error, some .always, some (.list ["lower-case"])⟩)]

def placedLinter : Linter := ⟨placedSet, Rule.builtins ++ [], ⟨true, []⟩⟩

lemma make_placedSet : Linter.make {} placedSet [] = .ok placedLinter := by
  refine Linter.make_eq_ok_iff.2 ⟨placedSet, ⟨true, []⟩,
    Workspace.resolve_of_bases_eq_nil rfl List.nodup_nil, ?_, rfl, rfl⟩
  rfl

theorem linting_stays_in_range_quoted :
    Linter.make {} placedSet [] = .ok placedLinter ∧
    lint? placedLinter [] "fix: drop \"Naïve\" `É\nRefs: #7" =
      some (placedLinter.lint "fix: drop \"Naïve\" `É\nRefs: #7") ∧
    check? placedLinter [] (.empty "# fix") = some (placedLinter.check (.empty "# fix")) ∧
    (Report.render? { input := "fix", commit := some "01234é7" } false).isSome = true := by
  obtain ⟨-, hl, -⟩ := linting_stays_in_range make_placedSet "fix: drop \"Naïve\" `É\nRefs: #7"
  obtain ⟨-, -, hc, hr⟩ := linting_stays_in_range make_placedSet "# fix"
  refine ⟨make_placedSet, hl, hc _ (.inr rfl), (hr _ _).2 ?_⟩
  rintro _ ⟨⟩
  decide

/-- The seventh byte of this name is the first one of its last character. -/
theorem not_shown_accented : ¬ ∀ (w : Workspace) (set : RuleSet) (extra : List Rule)
    (linter : Linter) (text commit : String) (report : Report),
    Linter.make w set extra = .ok linter → linter.lint text = .ok report →
      (Report.render? { report with commit := some commit } false).isSome = true := by
  intro h
  have hi : placedLinter.ignore.holds "feat: add login" = false := by decide +kernel
  have hp : Message.parse? "feat: add login" =
      some (ofLines "feat: add login" "feat: add login".toList []) := by decide +kernel
  have hs := h _ _ _ placedLinter _ "abcdefé" _ make_placedSet (Linter.lint_of_parse? hi hp)
  rw [isSome_render?_iff] at hs
  exact absurd (hs _ rfl) (by decide)

end Guarded

end CommitStyle
